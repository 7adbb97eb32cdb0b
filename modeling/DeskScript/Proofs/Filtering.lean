import DeskScript.Ocr
import DeskScript.Proofs.Grouping
import DeskScript.Proofs.Pauses
import DeskScript.Proofs.Keeping

/-!
# Filtering text

What is read from the screen does not depend on the filter, which only decides which of the texts are
given back.
-/

namespace DeskScript

namespace Ocr

open Routine

/-- A number in a document that is not too large for a double. -/
def Convertible (j : Json) : Prop := ∃ x, (({} : Store).load j).1.toFloat = .ok x

/-- A result of the reader: corners with two numbers each, a text, and a number. -/
def Clear (j : Json) : Prop :=
  ∃ rows text confidence, j = .array [.array (rows.map .array), .text text, confidence] ∧ rows ≠ [] ∧
    (∀ row ∈ rows, row.length = 2 ∧ ∀ j ∈ row, Convertible j) ∧ Convertible confidence

/-- What is sure, and at which scale, before it is filtered. -/
def sights (q : Query) : List Value → Op (Option (Float × List Sighting))
  | [] => pure none
  | scale :: rest => do
    let picture ← Vision.screenshot q.region
    let seen ← read (← Op.ask fun s => prepare s picture scale)
    match ← seen.filterMapM q.sure? with
    | [] => sights q rest
    | sure => return some (← scale.real, sure)

def Query.give (q : Query) : Option (Float × List Sighting) → Op (Option (List Finding))
  | none => pure none
  | some (factor, sure) =>
    return some (← Op.ask fun store => sure.filterMapM fun s => q.finding? store factor s)

theorem look_eq (q : Query) (scales : List Value) : look q scales = sights q scales >>= q.give := by
  induction scales with
  | nil => rfl
  | cons scale rest ih =>
    simp only [look, sights, Routine.bind_bind]
    refine bind_congr fun picture => bind_congr fun shape => bind_congr fun seen => bind_congr fun sure => ?_
    cases sure with
    | nil => exact ih
    | cons s sure => rw [Routine.bind_bind]; rfl

/-- A sighting that can be given back. -/
structure Sighting.Usable (s : Sighting) : Prop where
  text : ∃ t, s.text = .text t
  box : ∃ points, Box.ofJson s.box = .ok (.corners 2 points)
  confidence : ∃ x, s.confidence.toFloat = .ok x

theorem Convertible.spec {j : Json} (number : Convertible j) :
    (∃ x, coordinate j = .ok x) ∧ isArray j = false ∧
      ∀ s : Store, ∃ v x, s.load j = (v, s) ∧ v.toFloat = .ok x := by
  obtain ⟨x, number⟩ := number
  cases j with
  | null | array _ | object _ => cases number
  | bool _ | int _ | float _ | text _ =>
    refine ⟨⟨Number.single x, ?_⟩, rfl, fun s => ⟨_, x, rfl, number⟩⟩
    exact congrArg (· >>= fun y => Except.ok (Number.single y)) number

theorem exists_mapM {α β : Type} {f : α → Except Error β} {l : List α} (each : ∀ a ∈ l, ∃ b, f a = .ok b) :
    ∃ bs, l.mapM f = .ok bs := by
  cases all : l.mapM f with
  | ok bs => exact ⟨bs, rfl⟩
  | error e =>
    obtain ⟨a, member, failed⟩ := mapM_error all
    obtain ⟨b, ok⟩ := each a member
    cases failed.symm.trans ok

theorem rows_map_array (rows : List (List Json)) : rows? (rows.map .array) = some rows := by
  induction rows with
  | nil => rfl
  | cons row rest ih => simp_all [rows?]

theorem box_of_rows {rows : List (List Json)} (some : rows ≠ [])
    (pairs : ∀ row ∈ rows, row.length = 2 ∧ ∀ j ∈ row, Convertible j) :
    ∃ points, Box.ofJson (.array (rows.map .array)) = .ok (.corners 2 points) := by
  obtain ⟨points, converted⟩ : ∃ points, (rows.mapM fun row => row.mapM coordinate) = .ok points :=
    exists_mapM fun row member => exists_mapM fun j inside => ((pairs row member).2 j inside).spec.1
  have plain : ∀ j ∈ rows.flatten, isArray j = false := by
    intro j member
    obtain ⟨row, there, inside⟩ := List.mem_flatten.mp member
    exact ((pairs row there).2 j inside).spec.2.1
  obtain ⟨first, rest, rfl⟩ := List.exists_cons_of_ne_nil some
  have lengths := fun row member => (pairs row member).1
  obtain ⟨x, y, rfl⟩ := List.length_eq_two.mp (lengths first List.mem_cons_self)
  have same : rest.all (·.length = 2) = true := by
    simpa using fun row member => lengths row (List.mem_cons_of_mem _ member)
  have none : ([x, y] :: rest).flatten.any isArray = false :=
    List.any_eq_false.mpr fun j member => by simp [plain j member]
  have number : isArray x = false := plain x (by simp)
  refine ⟨points, ?_⟩
  rw [Box.ofJson, rows_map_array]
  change (if (!rest.all (·.length = 2)) = true then _ else _) = _
  simp only [same, none, converted]
  simp only [List.flatten_cons, List.cons_append, List.all_cons, number, Bool.false_and, Bool.and_false]
  rfl

/-! ### What is read -/

/-- All that the reader is going to find is clear. -/
def Sighted (d : Desk) : Prop := ∀ seen ∈ d.sightings, ∀ j ∈ seen, Clear j

def Ready (store : Store) (b : Bench) : Prop := b.store = store ∧ Sighted b.desk

variable {store : Store}

theorem keeps_action {α : Type} {post : α → Prop} {a : Action α} (keeps : a.Keeps Sighted post) :
    Keeps (Ready store) post (liftM a : Op α) :=
  Op.obeys_action keeps (fun _ => And.right) fun _ _ ready sighted => ⟨ready.1, sighted⟩

theorem keeps_lift {α : Type} {σ : Type} {inv : σ → Prop} (x : Except Error α) :
    (liftM x : Routine σ α).Keeps inv fun _ => True := by
  cases x <;> trivial

theorem keeps_ask {α : Type} (f : Store → Except Error α) :
    Keeps (Ready store) (fun _ => True) (Op.ask f) :=
  fun _ ready => ⟨ready, keeps_action (keeps_lift _)⟩

theorem keeps_screenshot (region : Option Vision.Region) :
    (Vision.screenshot region).Keeps Sighted fun _ => True := by
  have noted (act : DeviceAct) : Keeps Sighted (fun _ => True) (Action.note act) :=
    fun d sighted => ⟨sighted, trivial⟩
  have given (r : Vision.Region) : Keeps Sighted (fun _ => True) (pure r) := trivial
  have taken (r : Vision.Region) : Keeps Sighted (fun _ => True) (Vision.screenshot (some r)) :=
    Obeys.bind (given r) fun r _ => Obeys.bind (noted _) fun _ _ =>
      Obeys.bind (keeps_lift _) fun shape _ => trivial
  cases region with
  | some r => exact taken r
  | none => exact fun d sighted => ⟨sighted, taken _⟩

theorem keeps_read (picture : Vision.Shape) : (read picture).Keeps Sighted fun seen => ∀ j ∈ seen, Clear j := by
  refine fun d sighted => ⟨sighted, fun d sighted => ⟨?_, ?_⟩⟩
  · exact fun seen member => sighted seen (List.mem_of_mem_drop member)
  · cases first : d.sightings with
    | nil => simp [Obeys, first]
    | cons seen rest => simpa [Obeys, first] using sighted seen (by simp [first])

/-- A clear result changes nothing when it is looked at. -/
theorem keeps_sure {q : Query} {j : Json} (clear : Clear j) :
    Keeps (Ready store) (fun r => ∀ s ∈ r, s.Usable) (q.sure? j) := by
  obtain ⟨rows, text, confidence, rfl, some, pairs, number⟩ := clear
  refine Obeys.bind (?_ : Obeys _ _ Sighting.Usable _) fun s usable => ?_
  · refine fun b ready => ⟨ready, fun b ready => ?_⟩
    obtain ⟨v, x, loaded, float⟩ := number.spec.2.2 b.store
    simp only [loaded]
    exact ⟨ready, ⟨_, rfl⟩, box_of_rows some pairs, x, float⟩
  · refine Obeys.bind (keeps_ask _) fun sure _ => ?_
    cases sure with
    | false => exact nofun
    | true => exact fun _ same => Option.some.inj same ▸ usable

theorem keeps_sights (q : Query) (scales : List Value) :
    Keeps (Ready store) (fun found => ∀ f ∈ found, ∀ s ∈ f.2, s.Usable) (sights q scales) := by
  induction scales with
  | nil => exact nofun
  | cons scale rest ih =>
    refine Obeys.bind (keeps_action (keeps_screenshot _)) fun picture _ => ?_
    refine Obeys.bind (keeps_ask _) fun shape _ => ?_
    refine Obeys.bind (keeps_action (keeps_read shape)) fun seen clear => ?_
    refine Obeys.bind (filterMapM_keeps (P := Keeps (Ready store) (∀ s ∈ ·, Sighting.Usable s))
      (fun sure usable => usable) fun j member k later => ?_) fun sure usable => ?_
    · exact Obeys.bind (keeps_sure (clear j member)) later
    cases sure with
    | nil => exact ih
    | cons s sure =>
      refine Obeys.bind (keeps_action (keeps_lift _)) fun factor _ => ?_
      exact fun _ same => Option.some.inj same ▸ usable

/-! ### What is given back -/

/-- The words of a filter: one text, or the texts in a tuple or a list. -/
def Spells (s : Store) (words : List String) : Value → Prop
  | .text t => words = [t]
  | .tuple _ items => items = words.map .text
  | .list cell => s.get cell = words.map .text
  | _ => False

/-- Whether a text contains one of the words, ignoring case. -/
def mentions (words : List String) : Value → Bool
  | .text t => words.any fun word =>
    Store.within (Text.points (Text.lower word)) (Text.points (Text.lower t))
  | _ => false

theorem anyM_contains (words : List String) (t : String) :
    (words.map .text).anyM (contains (.text t)) = .ok (mentions words (.text t)) := by
  induction words with
  | nil => rfl
  | cons word rest ih =>
    have first : contains (.text t) (.text word) =
      .ok (Store.within (Text.points (Text.lower word)) (Text.points (Text.lower t))) := rfl
    rw [List.map_cons, List.anyM, first, ih]
    simp only [mentions, List.any_cons]
    cases Store.within (Text.points (Text.lower word)) (Text.points (Text.lower t)) <;> rfl

theorem selects_eq {s : Store} {words : List String} {F : Value} (spelled : Spells s words F)
    (full : s.truth F = true) (t : String) :
    selects s F (.text t) = .ok (mentions words (.text t)) := by
  unfold selects
  rw [full]
  cases F with
  | text word =>
    obtain rfl : words = [word] := spelled
    exact congrArg Except.ok (Bool.or_false _).symm
  | tuple id items =>
    obtain rfl : items = words.map .text := spelled
    exact anyM_contains words t
  | list cell =>
    rw [← anyM_contains words t, ← (spelled : s.get cell = words.map .text)]
    rfl
  | _ => cases spelled

/-- Edges of a region by which corners can be moved. -/
def Movable (q : Query) : Prop :=
  ∀ r ∈ q.region, (∃ x, offset r.left = .ok x) ∧ ∃ y, offset r.top = .ok y

variable {q : Query} {scale : Float}

theorem Sighting.Usable.converted {s : Sighting} (usable : s.Usable) (movable : Movable q)
    (plain : q.filter = .null) : ∃ f, q.finding? store scale s = .ok (some f) := by
  obtain ⟨-, ⟨points, box⟩, x, float⟩ := usable
  obtain ⟨moved, offset⟩ : ∃ moved, (q.region.mapM fun r => offsets 2 r.left r.top) = .ok moved := by
    cases region : q.region with
    | none => exact ⟨none, rfl⟩
    | some r =>
      obtain ⟨⟨x, left⟩, y, top⟩ := movable r region
      refine ⟨some (x, y), ?_⟩
      simp only [Option.mapM, offsets, left, top]
      rfl
  have placed : Box.placed scale q.region (.corners 2 points) = .ok (points.map (place scale moved)) := by
    rw [Box.placed, offset]
    rfl
  refine ⟨⟨points.map (place scale moved), s.text, x⟩, ?_⟩
  unfold Query.finding?
  rw [plain, box]
  change (Box.placed scale q.region (.corners 2 points) >>= _) = _
  rw [placed, float]
  rfl

theorem finding_filtered {s : Sighting} {F : Value} {f : Finding} {passes : Bool} (plain : q.filter = .null)
    (found : q.finding? store scale s = .ok (some f)) (selected : selects store F s.text = .ok passes) :
    { q with filter := F }.finding? store scale s = .ok (if passes then some f else none) := by
  unfold Query.finding? at found ⊢
  rw [plain] at found
  rw [selected]
  cases passes with
  | false => rfl
  | true => exact found

theorem findings_filtered {F : Value} {passes : Value → Bool} {sure : List Sighting} (plain : q.filter = .null)
    (movable : Movable q) (usable : ∀ s ∈ sure, s.Usable)
    (selected : ∀ t, selects store F (.text t) = .ok (passes (.text t))) :
    ∃ findings, (sure.filterMapM fun s => q.finding? store scale s) = .ok findings ∧
      (sure.filterMapM fun s => { q with filter := F }.finding? store scale s) =
        .ok (findings.filter (passes ·.text)) := by
  induction sure with
  | nil => exact ⟨[], rfl, rfl⟩
  | cons s rest ih =>
    obtain ⟨isUsable, others⟩ := List.forall_mem_cons.mp usable
    obtain ⟨f, found⟩ := isUsable.converted movable plain
    obtain ⟨t, text⟩ := isUsable.text
    obtain ⟨findings, all, some⟩ := ih others
    have kept := finding_filtered plain found (text ▸ selected t)
    have same := text_of_finding? found
    refine ⟨f :: findings, ?_, ?_⟩
    · rw [List.filterMapM_cons, found]
      exact congrArg (· >>= fun fs => pure (f :: fs)) all
    · rw [List.filterMapM_cons, kept, List.filter_cons, same, text]
      cases passes (.text t) with
      | false => exact some
      | true => exact congrArg (· >>= fun fs => pure (f :: fs)) some

theorem sights_filter (F : Value) (scales : List Value) : sights { q with filter := F } scales = sights q scales := by
  induction scales with
  | nil => rfl
  | cons scale rest ih =>
    simp only [sights, ih]
    rfl

theorem run_give {found : List Sighting} {findings : List Finding} {b : Bench}
    (ok : (found.filterMapM fun s => q.finding? b.store scale s) = .ok findings) (c : Console) :
    (q.give (some (scale, found))).run (b, c) = .ok (some findings) (b, c) := by
  change Routine.run (liftM (found.filterMapM fun s => q.finding? b.store scale s) >>= fun fs => pure (some fs) : Op _) (b, c) = _
  rw [ok]
  rfl

/-- A filter selects from what is found without it, and changes nothing else. -/
theorem filter_only_selects {q : Query} {F : Value} {words : List String} {b : Bench} (plain : q.filter = .null)
    (spelled : Spells b.store words F) (full : b.store.truth F = true) (sighted : Sighted b.desk)
    (movable : Movable q) (c : Console) :
    ∃ result s, (find q).run (b, c) = ending result s ∧
      (find { q with filter := F }).run (b, c) =
        ending (result.map (Option.map (List.filter (mentions words ·.text)))) s := by
  have looked (scales : List Value) : ∃ result s, (look q scales).run (b, c) = ending result s ∧
      (look { q with filter := F } scales).run (b, c) =
        ending (result.map (Option.map (List.filter (mentions words ·.text)))) s := by
    obtain ⟨result, b', c', ran, ⟨same, -⟩, usable⟩ :=
      Keeps.run (keeps_sights q scales) ⟨rfl, sighted⟩ c
    rw [look_eq, look_eq, sights_filter (q := q) F, run_bind, run_bind, ran]
    cases result with
    | error e => exact ⟨.error e, (b', c'), rfl, rfl⟩
    | ok found =>
      cases found with
      | none => exact ⟨.ok none, (b', c'), rfl, rfl⟩
      | some found =>
        obtain ⟨scale, sure⟩ := found
        obtain ⟨findings, all, some⟩ := findings_filtered plain movable (usable _ rfl _ rfl) fun t =>
          selects_eq (same ▸ spelled) (same ▸ full) t
        exact ⟨.ok (.some findings), (b', c'), run_give all c', run_give some c'⟩
  unfold find
  cases q.scale.mul (.float 1.2) with
  | error e => exact ⟨.error e, (b, c), rfl, rfl⟩
  | ok larger =>
    cases q.scale.mul (.float 0.8) with
    | error e => exact ⟨.error e, (b, c), rfl, rfl⟩
    | ok smaller => exact looked _

/-- A result of the reader with a corner at some place from the left. -/
def sightingAt (left : Int) (text : String) : Json :=
  .array [.array [.array [.int left, .int 20]], .text text, .float 0.75]

/-- Of two texts one has the word in small letters. -/
theorem filter_only_selects_login :
    let b : Bench := ⟨{ sightings := [[sightingAt 3 "Login", sightingAt 40 "Help"]] }, {}, ""⟩
    ∃ result s, (find {}).run (b, {}) = ending result s ∧
      (find { filter := .text "LOG" }).run (b, {}) =
        ending (result.map (Option.map (List.filter (mentions ["LOG"] ·.text)))) s := by
  have clear (n : Int) (small : ∃ x, Value.floatOfInt n = .ok x) (text : String) : Clear (sightingAt n text) := by
    refine ⟨[[.int n, .int 20]], text, .float 0.75, rfl, List.cons_ne_nil _ _, ?_, _, rfl⟩
    simpa using ⟨small, _, rfl⟩
  intro b
  have spelled : Spells b.store ["LOG"] (.text "LOG") := rfl
  have sighted : Sighted b.desk := by
    simpa [b, Sighted] using ⟨clear 3 ⟨_, rfl⟩ "Login", clear 40 ⟨_, rfl⟩ "Help"⟩
  exact @filter_only_selects {} _ _ b rfl spelled rfl sighted (fun r none => by cases none) {}

/-- How many texts a run gives back, if it does not fail. -/
def findingCount : EStateM.Result Error (Bench × Console) (Option (List Finding)) → Option Nat
  | .ok found _ => some (found.getD []).length
  | .error .. => none

/-- A corner that is too far away for a double is no error if the filter drops its text. -/
theorem far_corner_is_dropped :
    let b : Bench := ⟨{ sightings := [[sightingAt (10 ^ 400) "abc"]] }, {}, ""⟩
    findingCount ((find {}).run (b, {})) = none ∧
      findingCount ((find { filter := .text "x" }).run (b, {})) = some 0 := by
  decide +kernel

end Ocr

end DeskScript
