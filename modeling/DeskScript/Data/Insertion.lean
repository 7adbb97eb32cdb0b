/-!
# Sorting by insertion

Items are sorted by a test that says which of two comes first. The items at the front that are in
order already are kept, those in strictly falling order are turned round; every other item is put
in its place, which is found by halving. Where the test is an order, items that it does not tell
apart stay as they were. What is made of items that the test cannot place is fixed by the halving.
-/

namespace DeskScript.Insertion

variable {α : Type}

/-- How many items at the front each come before the one before them. -/
def falling (less : α → α → Bool) : α → List α → Nat
  | _, [] => 0
  | a, b :: rest => if less b a then falling less b rest + 1 else 0

def rising (less : α → α → Bool) : α → List α → Nat
  | _, [] => 0
  | a, b :: rest => if less b a then 0 else rising less b rest + 1

/-- The items at the front that can be taken as sorted, and the items after them. -/
def opening (less : α → α → Bool) : List α → List α × List α
  | [] => ([], [])
  | a :: rest =>
    match falling less a rest with
    | 0 =>
      let n := rising less a rest
      (a :: rest.take n, rest.drop n)
    | n => ((a :: rest.take n).reverse, rest.drop n)

def slot (less : α → α → Bool) (sorted : Array α) (a : α) (low high : Nat) : Nat :=
  if low < high then
    let middle := low + (high - low) / 2
    if (sorted[middle]?).any (less a) then slot less sorted a low middle
    else slot less sorted a (middle + 1) high
  else low
termination_by high - low

def insert (less : α → α → Bool) (sorted : List α) (a : α) : List α :=
  sorted.insertIdx (slot less sorted.toArray a 0 sorted.length) a

def sort (less : α → α → Bool) (items : List α) : List α :=
  let (sorted, rest) := opening less items
  rest.foldl (insert less) sorted

end DeskScript.Insertion
