import DeskScript.Text.Point

/-!
# Similar words

How similar two words are: twice the number of code points that match, out of all. The code points
that match are those of the longest common stretch, and of what is to its left and to its right in
both words, in the same way.
-/

namespace DeskScript.Session

def commonStart : List Nat → List Nat → Nat
  | a :: as, b :: bs => if a = b then commonStart as bs + 1 else 0
  | _, _ => 0

/-- The longest common stretch: where it begins in each word, and its length. Of several the first
in the first word counts, and then the first in the second. -/
def longestCommon (a b : List Nat) : Nat × Nat × Nat :=
  (List.range a.length).foldl (fun best i =>
    (List.range b.length).foldl (fun best j =>
      let n := commonStart (a.drop i) (b.drop j)
      if best.2.2 < n then (i, j, n) else best) best) (0, 0, 0)

/-- The number of code points that match, within so many levels of stretches. -/
def matchingWithin : Nat → List Nat → List Nat → Nat
  | 0, _, _ => 0
  | fuel + 1, a, b =>
    let (i, j, n) := longestCommon a b
    if n = 0 then 0
    else
      matchingWithin fuel (a.take i) (b.take j) + n +
        matchingWithin fuel (a.drop (i + n)) (b.drop (j + n))

def matching (a b : String) : Nat :=
  matchingWithin (Text.length a) (Text.points a) (Text.points b)

def isSimilar (a b : String) : Bool :=
  6 * (Text.length a + Text.length b) ≤ 10 * (2 * matching a b)

/-- The three words most similar to one, out of those that are similar. -/
def mostSimilar (word : String) (words : List String) : List String :=
  let share := fun a b : String => matching a word * (Text.length b + Text.length word)
  let rank := fun a b : String => decide (share b a ≤ share a b)
  ((words.filter (isSimilar · word)).mergeSort rank).take 3

end DeskScript.Session
