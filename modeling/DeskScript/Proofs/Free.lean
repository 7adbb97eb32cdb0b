import DeskScript.Value.Literal
import DeskScript.Value.Sequence
import Mathlib.Tactic.Common

/-!
# Values without signals

Signals are values like others, so a script may put one away. A value is free of banned signals if it
is none and holds none, and a store is if all lists in it are. Nothing that is computed from free
values is more than that: signals come from statements alone.
-/

namespace DeskScript

variable {entries : List (Value × Value)} {id i : Nat} {w count key : Value}

namespace Value

/-- Whether a value holds no other values by itself. -/
def isAtom : Value → Bool
  | tuple .. | set _ | dict .. | signal .. => false
  | _ => true

/-- A value that is no signal of a banned kind, and holds none. What a list holds is a matter of the
store. -/
inductive Free (banned : SignalKind → Bool) : Value → Prop
  | atom {v : Value} (atom : v.isAtom) : Free banned v
  | tuple {id : Nat} {items : List Value} (inside : ∀ v ∈ items, Free banned v) :
      Free banned (.tuple id items)
  | set {items : List Value} (inside : ∀ v ∈ items, Free banned v) : Free banned (.set items)
  | dict {id : Nat} {entries : List (Value × Value)} (keys : ∀ e ∈ entries, Free banned e.1)
      (inside : ∀ e ∈ entries, Free banned e.2) : Free banned (.dict id entries)
  | signal {id : Nat} {kind : SignalKind} {payload : Value} (allowed : banned kind = false)
      (inside : Free banned payload) : Free banned (.signal id kind payload)

variable {banned : SignalKind → Bool}

attribute [grind ←] Free.atom

@[grind =] theorem free_tuple_iff {items : List Value} :
    (tuple id items).Free banned ↔ ∀ v ∈ items, v.Free banned := by
  grind [Free, isAtom]

@[grind =] theorem free_set_iff {items : List Value} :
    (set items).Free banned ↔ ∀ v ∈ items, v.Free banned := by
  grind [Free, isAtom]

@[grind =] theorem free_dict_iff :
    (dict id entries).Free banned ↔ ∀ e ∈ entries, e.1.Free banned ∧ e.2.Free banned := by
  grind [Free, isAtom]

@[grind =] theorem free_signal_iff {kind : SignalKind} {payload : Value} :
    (signal id kind payload).Free banned ↔ banned kind = false ∧ payload.Free banned := by
  grind [Free, isAtom]

/-- Every value is free if nothing is banned. -/
theorem free_none : ∀ v : Value, v.Free fun _ => false
  | tuple _ items => .tuple fun v _ => free_none v
  | set items => .set fun v _ => free_none v
  | dict _ entries => .dict (fun e _ => free_none e.1) fun e _ => free_none e.2
  | signal _ _ payload => .signal rfl (free_none payload)
  | null | bool _ | int _ | float _ | nan _ | complex .. | text _ | bytes _ | list _ | ellipsis => .atom rfl
decreasing_by
  all_goals simp only [tuple.sizeOf_spec, set.sizeOf_spec, dict.sizeOf_spec, signal.sizeOf_spec]
  any_goals have smaller := List.sizeOf_lt_of_mem ‹_›
  any_goals cases e
  all_goals grind

end Value

/-- A store in whose lists there are free values only. -/
def Store.Free (banned : SignalKind → Bool) (s : Store) : Prop :=
  ∀ items ∈ s.cells, ∀ v ∈ items, v.Free banned

namespace Store

variable {banned : SignalKind → Bool} {s : Store}

theorem Free.of_cells {s' : Store} (free : s.Free banned) (same : s'.cells = s.cells) :
    s'.Free banned := by
  rwa [Store.Free, same]

theorem Free.cell (free : s.Free banned) (cell : Nat) : ∀ v ∈ s.cell cell, v.Free banned := by
  grind [Store.Free, Store.cell]

theorem Free.get (free : s.Free banned) (cell : Nat) : ∀ v ∈ s.get cell, v.Free banned :=
  fun v member => free.cell cell v (Array.mem_toList_iff.mp member)

/-! ### Changes of the store -/

theorem Free.alloc (free : s.Free banned) {items : List Value} (inside : ∀ v ∈ items, v.Free banned) :
    (s.alloc items).2.Free banned := by
  grind [Store.Free, Store.alloc]

/-- A change of one cell keeps the store free if it adds nothing to the cell but free values. -/
theorem Free.modify (free : s.Free banned) (cell : Nat) {f : Array Value → Array Value}
    (same : ∀ items, ∀ v ∈ f items, v ∈ items ∨ v.Free banned) :
    ({ s with cells := s.cells.modify cell f } : Store).Free banned := by
  intro items member v inside
  obtain ⟨i, bound', rfl⟩ := Array.mem_iff_getElem.mp member
  grind [Store.Free]

theorem Free.push (free : s.Free banned) (cell : Nat) {item : Value} (isFree : item.Free banned) :
    (s.push cell item).Free banned :=
  free.modify cell (by grind)

theorem Free.eraseIdx (free : s.Free banned) (cell i : Nat) : (s.eraseIdx cell i).Free banned :=
  free.modify cell (by grind [Array.eraseIdxIfInBounds])

theorem mem_of_mem_swapIfInBounds {items : Array Value} {j : Nat} {v : Value}
    (member : v ∈ items.swapIfInBounds i j) : v ∈ items := by
  rw [Array.swapIfInBounds_def] at member
  split at member
  · split at member
    · exact (Array.swap_perm _ _).mem_iff.mp member
    · exact member
  · exact member

theorem Free.swap (free : s.Free banned) (cell i j : Nat) : (s.swap cell i j).Free banned :=
  free.modify cell fun _ _ member => Or.inl (mem_of_mem_swapIfInBounds member)

mutual

/-- A value that has just been computed gets numbers, and nothing else changes. -/
theorem fresh_free (s : Store) : ∀ v : Value, v.Free banned →
    (s.fresh v).1.Free banned ∧ (s.fresh v).2.cells = s.cells
  | .tuple 0 items, free => by
    have inside := freshItems_free s items (Value.free_tuple_iff.mp free)
    grind [fresh, newTuple]
  | .tuple (n + 1) items, free | .dict (n + 1) entries, free => by
    rw [fresh]
    · exact ⟨free, rfl⟩
    all_goals simp
  | .float _, free | .complex .., free | .dict 0 _, free | .null, free | .bool _, free | .int _, free
  | .nan _, free | .text _, free | .bytes _, free | .list _, free | .set _, free | .ellipsis, free
  | .signal .., free => by grind [fresh, newDict, Value.isAtom]

theorem freshItems_free (s : Store) : ∀ items : List Value, (∀ v ∈ items, v.Free banned) →
    (∀ v ∈ (s.freshItems items).1, v.Free banned) ∧ (s.freshItems items).2.cells = s.cells
  | [], free => ⟨free, rfl⟩
  | v :: rest, free => by
    have first := fresh_free s v (free v List.mem_cons_self)
    have others := freshItems_free (s.fresh v).2 rest fun w member => free w (List.mem_cons_of_mem _ member)
    grind [freshItems]

end

theorem free_none (s : Store) : s.Free fun _ => false := fun _ _ v _ => v.free_none

end Store

/-! ### Sets -/

namespace Slots

variable {v : Value}

theorem mem_place {slots : Array (Option Value)} (member : some v ∈ place slots key) :
    some v ∈ slots ∨ v = key := by
  grind [place]

theorem mem_foldl_place {items : List Value} {slots : Array (Option Value)}
    (member : some v ∈ items.foldl place slots) : some v ∈ slots ∨ v ∈ items := by
  induction items generalizing slots with grind [mem_place]

theorem mem_items {s : Slots} : v ∈ s.items ↔ some v ∈ s.slots := by
  simp [items]

theorem mem_insert {s : Slots} (member : v ∈ (s.insert key).items) : v ∈ s.items ∨ v = key := by
  rw [mem_items] at member ⊢
  rw [insert] at member
  split at member
  · exact Or.inl member
  next j _ =>
    have inside : ∀ w : Value, some w ∈ s.slots.setIfInBounds j (some key) →
        some w ∈ s.slots ∨ w = key := by
      intro w there
      rcases Array.mem_or_eq_of_mem_setIfInBounds there with before | same
      · exact Or.inl before
      · exact Or.inr (Option.some.inj same)
    simp only at member
    split at member
    · exact inside v member
    · rcases mem_foldl_place member with before | later
      · simp at before
      · obtain ⟨w, there, rfl⟩ := List.mem_filterMap.mp later
        exact inside v (Array.mem_toList_iff.mp there)

theorem mem_copied {items : List Value} (member : v ∈ copied items) : v ∈ items := by
  simp only [copied] at member
  generalize (if items.length * 5 < 21 then 8 else sizeAbove (2 * items.length)) = size at member
  split at member
  · exact member
  · obtain ⟨w, there, rfl⟩ := List.mem_filterMap.mp member
    rcases mem_foldl_place (Array.mem_toList_iff.mp there) with before | later
    · simp at before
    · exact later

end Slots

theorem Slots.mem_foldl_insert {keys : List Value} {s : Slots} {v : Value}
    (member : v ∈ (keys.foldl insert s).items) : v ∈ s.items ∨ v ∈ keys := by
  induction keys generalizing s with grind [mem_insert]

theorem mem_setItems {keys : List Value} {v : Value} (member : v ∈ setItems keys) : v ∈ keys := by
  rcases Slots.mem_foldl_insert member with before | later
  · simp [Slots.mem_items] at before
  · exact later

theorem mem_setDifference {items others : List Value} {v : Value}
    (member : v ∈ setDifference items others) : v ∈ items := by
  rw [setDifference] at member
  split at member
  · exact Slots.mem_copied (List.mem_filter.mp member).1
  · exact (List.mem_filter.mp (mem_setItems member)).1

/-! ### Literals -/

/-- What comes of two steps comes of the first and then of the second. -/
@[grind →] theorem bind_ok {ε α β : Type} {x : Except ε α} {f : α → Except ε β} {b : β}
    (ok : (x >>= f) = .ok b) : ∃ a, x = .ok a ∧ f a = .ok b := by
  cases x with
  | error e => cases ok
  | ok a => exact ⟨a, rfl, ok⟩

@[grind =] theorem pure_eq_ok {ε α : Type} (a : α) : (pure a : Except ε α) = .ok a := rfl

section

variable {banned : SignalKind → Bool}

theorem free_addEntry {v : Value} (inside : ∀ e ∈ entries, e.1.Free banned ∧ e.2.Free banned)
    (isKey : key.Free banned) (isValue : v.Free banned) :
    ∀ e ∈ Value.addEntry entries key v, e.1.Free banned ∧ e.2.Free banned := by
  grind [Value.addEntry]

namespace Literal

theorem number?_atom {t : Term} {v : Value} (found : number? t = some v) : v.isAtom := by
  cases t <;> cases found <;> rfl

theorem signedNumber?_atom {t : Term} {v : Value} (found : signedNumber? t = some v) : v.isAtom := by
  unfold signedNumber? at found
  split at found
  · obtain ⟨w, number, rfl⟩ := Option.map_eq_some_iff.mp found
    have atom := number?_atom number
    split
    · cases w <;> exact atom
    · exact atom
  · exact number?_atom found

theorem sum_atom {negative : Bool} {left right : Term} {v : Value}
    (ok : sum negative left right = .ok v) : v.isAtom := by
  unfold sum at ok
  grind [Value.isAtom]

end Literal

/-! ### Operators -/

namespace Value

theorem arith_atom {onWhole : Int → Int → Except Error Value}
    {onReal : Float → Float → Except Error Value}
    (whole : ∀ i j v, onWhole i j = .ok v → v.isAtom)
    (real : ∀ x y v, onReal x y = .ok v → v.isAtom) {a b : Numeric} {v : Value}
    (ok : arith onWhole onReal a b = .ok v) : v.isAtom := by
  unfold arith at ok
  split at ok
  · exact whole _ _ v ok
  · obtain ⟨x, -, ok⟩ := bind_ok ok
    obtain ⟨y, -, ok⟩ := bind_ok ok
    exact real x y v ok

@[grind →] theorem onComplex_atom {op : Number.Complex → Number.Complex → Number.Complex}
    {pair : Except Error (Number.Complex × Number.Complex)} {v : Value}
    (ok : onComplex op pair = .ok v) : v.isAtom := by
  obtain ⟨⟨z, w⟩, -, same⟩ := bind_ok ok
  cases same
  rfl

variable {a b c : Value}

theorem Free.add (left : a.Free banned) (right : b.Free banned) (ok : a.add b = .ok c) :
    c.Free banned := by
  unfold Value.add at ok
  split at ok
  · exact .atom (arith_atom (by grind [isAtom]) (by grind [isAtom]) ok)
  · grind [isAtom, joinTuples]

theorem Free.sub (left : a.Free banned) (ok : a.sub b = .ok c) : c.Free banned := by
  unfold Value.sub at ok
  split at ok
  · exact .atom (arith_atom (by grind [isAtom]) (by grind [isAtom]) ok)
  · grind [mem_setDifference]

theorem mem_repeatItems {α : Type} {n : Nat} {items : List α} {x : α}
    (member : x ∈ repeatItems n items) : x ∈ items := by
  obtain ⟨copy, there, inside⟩ := List.mem_flatten.mp member
  exact (List.eq_of_mem_replicate there) ▸ inside

theorem repeatTuple_free {items : List Value} (inside : ∀ v ∈ items, v.Free banned)
    (ok : repeatTuple id items count = .ok c) : c.Free banned := by
  grind [repeatTuple, mem_repeatItems]

theorem repeatText_atom {s : String} (ok : repeatText s count = .ok c) : c.isAtom := by
  grind [repeatText, isAtom]

theorem repeatBytes_atom {bs : List UInt8} (ok : repeatBytes bs count = .ok c) : c.isAtom := by
  grind [repeatBytes, isAtom]

theorem Free.mul (left : a.Free banned) (right : b.Free banned) (ok : a.mul b = .ok c) :
    c.Free banned := by
  unfold Value.mul at ok
  split at ok
  · exact .atom (arith_atom (by grind [isAtom]) (by grind [isAtom]) ok)
  · grind [repeatTuple_free, repeatText_atom, repeatBytes_atom]

theorem div_atom (ok : a.div b = .ok c) : c.isAtom := by
  unfold Value.div at ok
  split at ok
  · exact arith_atom (by grind [isAtom]) (by grind [isAtom]) ok
  · grind [isAtom]

theorem mod_atom (ok : a.mod b = .ok c) : c.isAtom := by
  unfold Value.mod at ok
  split at ok
  · exact arith_atom (by grind [isAtom]) (by grind [isAtom]) ok
  · cases ok

theorem neg_atom (ok : a.neg = .ok c) : c.isAtom := by
  unfold Value.neg at ok
  split at ok <;> cases ok <;> rfl

end Value

/-! ### Items and elements -/

namespace Store

variable {s : Store} {v : Value}

theorem Free.items? (free : s.Free banned) (isFree : v.Free banned) {items : List Value}
    (found : s.items? v = some items) : ∀ w ∈ items, w.Free banned := by
  cases v <;> cases found <;> grind [Value.isAtom, Free.get]

theorem Free.items (free : s.Free banned) (isFree : v.Free banned) {items : List Value}
    (ok : s.items v = .ok items) : ∀ w ∈ items, w.Free banned := by
  grind [Store.items, free.items? isFree]

theorem Free.unpack (free : s.Free banned) (isFree : v.Free banned) {n : Nat} {items : List Value}
    (ok : s.unpack n v = .ok items) : ∀ w ∈ items, w.Free banned := by
  grind [Store.unpack, free.items? isFree]

theorem Free.nth? (free : s.Free banned) (isFree : v.Free banned) (found : s.nth? v i = some w) :
    w.Free banned := by
  unfold Store.nth? at found
  split at found
  · exact free.cell _ w (Array.mem_of_getElem? found)
  · obtain ⟨n, -, rfl⟩ := Option.map_eq_some_iff.mp found
    exact .atom rfl
  · cases items : s.items? v with
    | none => simp [items] at found
    | some items' =>
      rw [items] at found
      exact free.items? isFree items w (List.mem_of_getElem? found)

theorem free_under? (isFree : (Value.dict id entries).Free banned)
    (found : Value.under? entries key = some w) : w.Free banned := by
  obtain ⟨e, there, rfl⟩ := Option.map_eq_some_iff.mp found
  exact (Value.free_dict_iff.mp isFree e (List.mem_of_find?_eq_some there)).2

theorem Free.element (free : s.Free banned) (isFree : v.Free banned) {i : Int}
    (ok : s.element v i = .ok w) : w.Free banned := by
  unfold Store.element at ok
  grind [Value.isAtom, free_under?, free.nth? isFree, Option.bind_eq_some_iff]

theorem Free.item (free : s.Free banned) (isFree : v.Free banned) (ok : s.item v i = .ok w) :
    w.Free banned := by
  unfold Store.item at ok
  grind [free_under?, free.nth? isFree]

theorem free_entry (isFree : v.Free banned) {key : String} (ok : s.entry v key = .ok w) :
    w.Free banned := by
  unfold Store.entry Store.entryAt at ok
  grind [free_under?]

theorem Free.carried (free : s.Free banned) (isFree : v.Free banned) :
    ∀ w ∈ s.carried v, w.Free banned := by
  unfold Store.carried
  grind [free.get]

end Store

end

end DeskScript
