import DeskScript.Value.Shown

/-!
# Equality and order

Numbers are compared exactly, whatever their kinds. Sequences of one kind are compared item by
item; the first pair that is not equal decides. An item is equal to itself without being looked
into, so a list may contain itself, and a result that is not a number is equal to itself inside a
sequence.
-/

namespace DeskScript

inductive Relation where
  | less | lessEq | greater | greaterEq
  deriving DecidableEq, Repr

namespace Relation

def sign : Relation → String
  | less => "<"
  | lessEq => "<="
  | greater => ">"
  | greaterEq => ">="

/-- Whether the relation holds of two things with this order; none of them does without one. -/
def holds : Relation → Option Ordering → Bool
  | _, none => false
  | less, some o => o = .lt
  | lessEq, some o => o ≠ .gt
  | greater, some o => o = .gt
  | greaterEq, some o => o ≠ .lt

end Relation

def compareText (s t : String) : Ordering :=
  if s = t then .eq else if Text.points s < Text.points t then .lt else .gt

def compareBytes (s t : List UInt8) : Ordering :=
  if s = t then .eq else if s < t then .lt else .gt

namespace Store

def identical : Value → Value → Bool
  | .list c, .list d => c = d
  | .tuple m _, .tuple n _ => m ≠ 0 && m = n
  | .dict m _, .dict n _ => m ≠ 0 && m = n
  | .complex m _, .complex n _ => m ≠ 0 && m = n
  | .signal i .., .signal j .. => i = j
  | .nan m, .nan n => m = n
  | _, _ => false

def allEqual (test : Value → Value → Except Error Bool) : List Value → List Value → Except Error Bool
  | [], [] => .ok true
  | a :: as, b :: bs => do if ← test a b then allEqual test as bs else return false
  | _, _ => .ok false

/-- Whether two tables have equal entries under a test, in any order. -/
def sameEntries (test : Value → Value → Except Error Bool) (other : List (Value × Value)) :
    List (Value × Value) → Except Error Bool
  | [] => .ok true
  | (key, a) :: rest =>
    match Value.under? other key with
    | none => .ok false
    | some b => do if ← test a b then sameEntries test other rest else return false

def isSubset (items others : List Value) : Bool := items.all (·.isIn others)

def equalAt (s : Store) : Nat → Value → Value → Except Error Bool
  | 0, _, _ => .error .nesting
  | fuel + 1, a, b =>
    let test := fun x y => if identical x y then .ok true else equalAt s fuel x y
    match Value.equalNumbers? a b with
    | some same => .ok same
    | none =>
      match a, b with
      | .null, .null => .ok true
      | .ellipsis, .ellipsis => .ok true
      | .text x, .text y => .ok (x = y)
      | .bytes x, .bytes y => .ok (x = y)
      | .tuple _ x, .tuple _ y => allEqual test x y
      | .list c, .list d =>
        let x := s.get c
        let y := s.get d
        if x.length = y.length then allEqual test x y else .ok false
      | .set x, .set y => .ok (x.length = y.length && isSubset x y)
      | .dict _ x, .dict _ y =>
        if x.length = y.length then sameEntries test y x else .ok false
      | .signal i .., .signal j .. => .ok (i = j)
      | _, _ => .ok false

/-- Whether a relation holds of two sets: a set is less than those that have all of its items and
more. -/
def setsRelated (r : Relation) (x y : List Value) : Bool :=
  match r with
  | .less => x.length < y.length && isSubset x y
  | .lessEq => isSubset x y
  | .greater => y.length < x.length && isSubset y x
  | .greaterEq => isSubset y x

def equal (s : Store) (a b : Value) : Except Error Bool := equalAt s (2 * nestingLimit) a b

/-- Equality of items: an item is equal to itself. -/
def itemEqual (s : Store) (a b : Value) : Except Error Bool :=
  if identical a b then .ok true else equal s a b

/-- The first pair of items that differ, or the order of the lengths when one sequence begins with
the other. -/
def firstDifference (s : Store) : List Value → List Value → Except Error (Value × Value ⊕ Ordering)
  | [], [] => .ok (.inr .eq)
  | [], _ :: _ => .ok (.inr .lt)
  | _ :: _, [] => .ok (.inr .gt)
  | a :: as, b :: bs => do
    if ← s.itemEqual a b then firstDifference s as bs else return .inl (a, b)

def relatedAt (s : Store) (r : Relation) : Nat → Value → Value → Except Error Bool
  | 0, _, _ => .error .nesting
  | fuel + 1, a, b =>
    let sequences := fun x y => do
      match ← s.firstDifference x y with
      | .inl (u, v) => relatedAt s r fuel u v
      | .inr o => return r.holds (some o)
    match a.numeric?, b.numeric? with
    | some x, some y => .ok (r.holds (x.compare? y))
    | _, _ =>
      match a, b with
      | .text x, .text y => .ok (r.holds (some (compareText x y)))
      | .bytes x, .bytes y => .ok (r.holds (some (compareBytes x y)))
      | .set x, .set y => .ok (setsRelated r x y)
      | .tuple _ x, .tuple _ y => sequences x y
      | .list c, .list d => sequences (s.get c) (s.get d)
      | _, _ => .error (.kind (.ordering r.sign a.kind b.kind))

def related (s : Store) (r : Relation) (a b : Value) : Except Error Bool :=
  relatedAt s r (2 * nestingLimit) a b

end Store

/-- Whether two values that are no lists stand in a relation of order. -/
def Value.compares (r : Relation) (a b : Value) : Except Error Bool := ({} : Store).related r a b

end DeskScript
