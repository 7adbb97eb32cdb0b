import DeskScript.Value.Key

/-!
# Sets

The items of a set lie in slots, and a set is gone through slot by slot. The hash of an item says
where to look for it: first in a run of neighbouring slots, then further on. When three fifths of the
slots are taken, all items move to more slots.
-/

namespace DeskScript

/-- The slots of a set; their number is a power of two. -/
structure Slots where
  slots : Array (Option Value) := Array.replicate 8 none
  used : Nat := 0

namespace Slots

/-- How many neighbours of a slot are looked at before the search goes on elsewhere. -/
def neighbours : Nat := 9

/-- The slots to look at in one place: the slot itself, and its neighbours if all of them are there. -/
def runAt (size i : Nat) : List Nat :=
  if i + neighbours < size then (List.range (neighbours + 1)).map (i + ·) else [i]

/-- The slot for a key from a place on: the one that holds it already, or else a free one. -/
def find? (slots : Array (Option Value)) (key : Value) : Nat → Nat → Nat → Option Nat
  | 0, _, _ => none
  | fuel + 1, i, perturbation =>
    let suits := fun j =>
      match slots[j]?.join with
      | some other => other.sameKey key
      | none => true
    match (runAt slots.size i).find? suits with
    | some j => some j
    | none =>
      let p := perturbation / 32
      find? slots key fuel ((5 * i + 1 + p) % slots.size) p

def free? (slots : Array (Option Value)) (key : Value) : Option Nat :=
  let h := key.hash.toNat
  (find? slots key (slots.size + 64) (h % slots.size) h).filter fun j => slots[j]?.join.isNone

def place (slots : Array (Option Value)) (key : Value) : Array (Option Value) :=
  match free? slots key with
  | some j => slots.setIfInBounds j (some key)
  | none => slots

def items (s : Slots) : List Value := s.slots.toList.filterMap id

def sizeAbove (n : Nat) : Nat := max 8 (Number.twoTo (n.log2 + 1))

/-- The number of slots after so many items. -/
def sizeFor : Nat → Nat
  | 0 => 8
  | n + 1 =>
    let size := sizeFor n
    if (n + 1) * 5 < (size - 1) * 3 then size
    else sizeAbove (if 50000 < n + 1 then (n + 1) * 2 else (n + 1) * 4)

/-- Items in the order in which a copy of their set is gone through. A copy has room for twice as many
items; one with as many slots as the set leaves each item in its slot. -/
def copied (items : List Value) : List Value :=
  let n := items.length
  let size := if n * 5 < 21 then 8 else sizeAbove (2 * n)
  if size = sizeFor n then items
  else (items.foldl place (Array.replicate size none)).toList.filterMap id

def insert (s : Slots) (key : Value) : Slots :=
  match free? s.slots key with
  | none => s
  | some j =>
    let slots := s.slots.setIfInBounds j (some key)
    let used := s.used + 1
    if used * 5 < (slots.size - 1) * 3 then ⟨slots, used⟩
    else
      let wanted := if 50000 < used then used * 2 else used * 4
      ⟨(slots.toList.filterMap id).foldl place (Array.replicate (sizeAbove wanted) none), used⟩

end Slots

def setItems (keys : List Value) : List Value := (keys.foldl Slots.insert {}).items

/-- The items of one set that are not in another. A set that is much larger than the other one is
copied first. -/
def setDifference (items others : List Value) : List Value :=
  if others.length < items.length / 4 then (Slots.copied items).filter fun v => !v.isIn others
  else setItems (items.filter fun v => !v.isIn others)

end DeskScript
