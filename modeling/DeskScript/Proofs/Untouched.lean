import DeskScript.Interp.Request
import DeskScript.Proofs.Mild

/-!
# Stores that grow

Lists live in the cells of the store. What makes new lists leaves those that are there already as they
are, and what is put into new ones may be free of banned signals. Documents and literals are read into
the store in this way.
-/

namespace DeskScript

/-- All lists of a store are as they are in another. -/
def Store.Extends (s s' : Store) : Prop := ∀ cell < s.cells.size, s'.cells[cell]? = s.cells[cell]?

/-- A store in which all lists of another are as they were, and in whose lists there are free values
only. -/
structure Store.Sound (s base : Store) (banned : SignalKind → Bool) : Prop where
  kept : base.Extends s
  free : s.Free banned

variable {base : Store} {banned : SignalKind → Bool}

namespace Store

@[grind ←] theorem Extends.refl (s : Store) : s.Extends s := fun _ _ => rfl

theorem Extends.size_le {s s' : Store} (h : s.Extends s') : s.cells.size ≤ s'.cells.size := by
  refine Nat.le_of_not_lt fun less => ?_
  have last := h s'.cells.size less
  grind

theorem Extends.trans {a b c : Store} (first : a.Extends b) (second : b.Extends c) : a.Extends c :=
  fun cell there => (second cell (Nat.lt_of_lt_of_le there first.size_le)).trans (first cell there)

theorem extends_of_cells {s s' : Store} (same : s'.cells = s.cells) : s.Extends s' := by
  intro cell _
  rw [same]

theorem extends_alloc (s : Store) (items : List Value) : s.Extends (s.alloc items).2 := by
  intro cell there
  simp [alloc, Array.getElem?_push, Nat.ne_of_lt there]

theorem cells_fresh (s : Store) (v : Value) : (s.fresh v).2.cells = s.cells :=
  (fresh_free s v v.free_none).2

/-- No list stands in an empty store, so it says nothing about others. -/
theorem sound_empty {s : Store} : s.Sound {} banned ↔ s.Free banned :=
  ⟨Sound.free, fun free => ⟨fun _ there => absurd there (Nat.not_lt_zero _), free⟩⟩

theorem sound_none {s : Store} : s.Sound base (fun _ => false) ↔ base.Extends s :=
  ⟨Sound.kept, fun kept => ⟨kept, s.free_none⟩⟩

theorem Sound.of_cells {s s' : Store} (sound : s.Sound base banned) (same : s'.cells = s.cells) :
    s'.Sound base banned :=
  ⟨sound.kept.trans (extends_of_cells same), sound.free.of_cells same⟩

theorem Sound.alloc {s : Store} (sound : s.Sound base banned) {items : List Value}
    (inside : ∀ v ∈ items, v.Free banned) : (s.alloc items).2.Sound base banned :=
  ⟨sound.kept.trans (extends_alloc s items), sound.free.alloc inside⟩

mutual

theorem sound_load : ∀ (s : Store) (j : Json), s.Sound base banned →
    (s.load j).1.Free banned ∧ (s.load j).2.Sound base banned
  | s, .null, sound | s, .bool _, sound | s, .int _, sound | s, .text _, sound | s, .float x, sound => by
    grind [load, Value.isAtom]
  | s, .array items, sound => by
    obtain ⟨inside, sound'⟩ := sound_loadItems s items sound
    exact ⟨.atom rfl, sound'.alloc inside⟩
  | s, .object members, sound => by
    obtain ⟨inside, sound'⟩ := sound_loadMembers s members sound
    exact ⟨Value.free_dict_iff.mpr inside, sound'.of_cells rfl⟩

theorem sound_loadItems : ∀ (s : Store) (items : List Json), s.Sound base banned →
    (∀ v ∈ (s.loadItems items).1, v.Free banned) ∧ (s.loadItems items).2.Sound base banned
  | s, [], sound => ⟨by simp [loadItems], sound⟩
  | s, item :: rest, sound => by
    have first := sound_load s item sound
    have others := sound_loadItems (s.load item).2 rest first.2
    grind [loadItems]

theorem sound_loadMembers : ∀ (s : Store) (members : List (String × Json)), s.Sound base banned →
    (∀ e ∈ (s.loadMembers members).1, e.1.Free banned ∧ e.2.Free banned) ∧
      (s.loadMembers members).2.Sound base banned
  | s, [], sound => ⟨by simp [loadMembers], sound⟩
  | s, (key, item) :: rest, sound => by
    have first := sound_load s item sound
    have others := sound_loadMembers (s.load item).2 rest first.2
    grind [loadMembers, Value.isAtom]

end

theorem extends_load (s : Store) (j : Json) : s.Extends (s.load j).2 :=
  (sound_load s j (sound_none.mpr (.refl s))).2.kept

end Store

namespace Literal

variable {α β : Type} {mid : β → Prop} {post : α → Prop}

/-- Something as it should be with a sound store, or an error that blames no tree. -/
def Brings (base : Store) (banned : SignalKind → Bool) (post : α → Prop) : Except Error (α × Store) → Prop
  | .ok (a, s) => post a ∧ s.Sound base banned
  | .error e => e.blamesTree = false

theorem Brings.bind {x : Except Error (β × Store)} {f : β × Store → Except Error (α × Store)}
    (first : Brings base banned mid x)
    (rest : ∀ b s, mid b → s.Sound base banned → Brings base banned post (f (b, s))) :
    Brings base banned post (x >>= f) := by
  rcases x with e | ⟨b, s⟩
  · exact first
  · exact rest b s first.1 first.2

theorem brings_after {x : Except Error β} {f : β → Except Error (α × Store)} (innocent : Innocent x)
    (rest : ∀ b, x = .ok b → Brings base banned post (f b)) : Brings base banned post (x >>= f) := by
  cases x with
  | error e => exact innocent
  | ok b => exact rest b rfl

mutual

theorem brings_value (s : Store) (t : Term) (sound : s.Sound base banned) :
    Brings base banned (Value.Free banned) (value s t) := by
  cases t with
  | tuple items =>
    exact (brings_placedValues s items sound).bind fun _ _ inside sound => ⟨.tuple inside, sound.of_cells rfl⟩
  | list items => exact (brings_placedValues s items sound).bind fun _ _ inside sound => ⟨.atom rfl, sound.alloc inside⟩
  | set items =>
    refine (brings_keyValues s items sound).bind fun _ _ inside sound => ⟨.set fun v member => ?_, sound⟩
    exact inside v (mem_setItems member)
  | dict entries =>
    refine (brings_entryValues s [] entries (by simp) sound).bind fun _ _ inside sound => ?_
    exact ⟨Value.free_dict_iff.mpr inside, sound.of_cells rfl⟩
  | sum negative left right => exact brings_after (innocent_sum ..) fun _ ok => ⟨.atom (sum_atom ok), sound⟩
  | _ =>
    unfold value
    grind [Brings, signedNumber?_atom, Value.isAtom]

theorem brings_placedValues (s : Store) (items : List (Spot × Term)) (sound : s.Sound base banned) :
    Brings base banned (fun vs => ∀ v ∈ vs, v.Free banned) (placedValues s items) := by
  cases items with
  | nil => exact ⟨by simp, sound⟩
  | cons item rest =>
    refine (brings_value s item.2 sound).bind fun _ _ isFree sound => ?_
    refine (brings_placedValues _ rest sound).bind fun _ _ inside sound => ⟨?_, sound⟩
    exact List.forall_mem_cons.mpr ⟨isFree, inside⟩

theorem brings_keyValues (s : Store) (items : List Term) (sound : s.Sound base banned) :
    Brings base banned (fun vs => ∀ v ∈ vs, v.Free banned) (keyValues s items) := by
  cases items with
  | nil => exact ⟨by simp, sound⟩
  | cons item rest =>
    refine (brings_value s item sound).bind fun _ _ isFree sound => brings_after (innocent_checkKey _) fun _ _ => ?_
    refine (brings_keyValues _ rest sound).bind fun _ _ inside sound => ⟨?_, sound⟩
    exact List.forall_mem_cons.mpr ⟨isFree, inside⟩

theorem brings_entryValues (s : Store) (before : List (Value × Value)) (entries : List (Option Term × Term))
    (free : ∀ e ∈ before, e.1.Free banned ∧ e.2.Free banned) (sound : s.Sound base banned) :
    Brings base banned (fun es => ∀ e ∈ es, e.1.Free banned ∧ e.2.Free banned) (entryValues s before entries) := by
  rcases entries with _ | ⟨⟨_ | key, term⟩, rest⟩
  · exact ⟨free, sound⟩
  · rfl
  · refine (brings_value s key sound).bind fun _ _ isKey sound => ?_
    refine (brings_value _ term sound).bind fun _ _ isValue sound => brings_after (innocent_checkKey _) fun _ _ => ?_
    exact brings_entryValues _ _ rest (free_addEntry free isKey isValue) sound

end

theorem brings_read {s : Store} (text : String) (sound : s.Sound base banned) :
    Brings base banned (Value.Free banned) (read s text) := by
  have value (t : Term) := brings_value s t sound
  unfold read
  grind [Brings]

end Literal

end DeskScript
