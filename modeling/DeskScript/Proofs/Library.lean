import DeskScript.Proofs.Caching
import DeskScript.Proofs.Free
import DeskScript.Recording.Library

/-!
# Recordings come back

A recording that is kept under a name is played back event by event as it was recorded, and so are
all others in the library. The one thing that is lost is a whole number with more digits than are
read.
-/

namespace DeskScript

namespace Recording

/-! ### Events as they are kept -/

/-- An event as it is recorded. -/
structure PlainEvent where
  time : Float
  kind : String
  key : String
  action : String
  target : Option (Int × Int) := none
  origin : Option (Int × Int) := none
  duration : Option Int := none

namespace PlainEvent

/-- The coordinates of a point. -/
def coordinates (place : Option (Int × Int)) : Option (List Value) :=
  place.map fun q => RecordedEvent.point q.1 q.2

def event (p : PlainEvent) : RecordedEvent where
  timestamp := .float p.time
  kind := .text p.kind
  key := .text p.key
  action := .text p.action
  target := coordinates p.target
  origin := coordinates p.origin
  duration := p.duration.elim .null .int

/-- The whole numbers in an event. -/
def numbers (p : PlainEvent) : List Int :=
  (p.target.toList ++ p.origin.toList).flatMap (fun q => [q.1, q.2]) ++ p.duration.toList

/-- The time is a number and read back, the texts are whole, and the whole numbers have no more digits
than are read. -/
structure Storable (p : PlainEvent) : Prop where
  number : Number.isNaN p.time = false
  back : Json.read (Json.float p.time).write = .ok (.float p.time)
  texts : ∀ s ∈ [p.kind, p.key, p.action], Text.Whole s
  short : ∀ n ∈ p.numbers, n.natAbs < 10 ^ Number.digitLimit

def json (p : PlainEvent) : Json := eventJson p.event

theorem readable_place {place : Option (Int × Int)}
    (short : ∀ q ∈ place, q.1.natAbs < 10 ^ Number.digitLimit ∧ q.2.natAbs < 10 ^ Number.digitLimit) :
    Json.Readable 1 (placeJson (coordinates place)) := by
  cases place with
  | none => exact .null
  | some q =>
    obtain ⟨first, second⟩ := short q rfl
    refine .array ?_
    simp only [RecordedEvent.point, List.map_cons, List.map_nil, List.forall_mem_cons, fieldJson]
    exact ⟨.int first, .int second, by simp⟩

theorem Storable.readable {p : PlainEvent} (storable : p.Storable) : Json.Readable 2 p.json := by
  obtain ⟨kind, key, action, -⟩ : _ ∧ _ ∧ _ ∧ _ := by
    simpa only [List.forall_mem_cons] using storable.texts
  have short := storable.short
  simp only [numbers, List.mem_append, List.mem_flatMap, Option.mem_toList] at short
  let fields := ["timestamp", "kind", "key", "action", "to_coordinates", "from_coordinates", "duration_ms"]
  have low : (fields.all fun s => s.toList.all fun c => c.toNat < 0xd800) = true := by decide +kernel
  have distinct : fields.Nodup := by decide +kernel
  refine .object ?_ ?_ distinct
  · intro m member
    exact Text.whole_of_low (List.all_eq_true.mp low m.1 (List.mem_map_of_mem (f := Prod.fst) member))
  · simp only [List.forall_mem_cons]
    refine ⟨.float storable.back, .text kind, .text key, .text action, readable_place fun q there => ?_,
      readable_place fun q there => ?_, ?_, by simp⟩
    · exact ⟨short _ (.inl ⟨q, .inl there, by simp⟩), short _ (.inl ⟨q, .inl there, by simp⟩)⟩
    · exact ⟨short _ (.inl ⟨q, .inr there, by simp⟩), short _ (.inl ⟨q, .inr there, by simp⟩)⟩
    · change Json.Readable 1 (fieldJson (p.duration.elim .null .int))
      cases given : p.duration with
      | none => exact .null
      | some n => exact .int (short n (.inr given))

/-! ### Reading them -/

end PlainEvent

/-- The table of recordings under names. -/
def shelved (recordings : List (String × List PlainEvent)) : List (String × Json) :=
  recordings.map fun r => (r.1, .array (r.2.map PlainEvent.json))

/-- The recordings in the library. -/
structure Shelf (f : Files) (recordings : List (String × List PlainEvent)) : Prop where
  table : f.Table CacheKind.recordings.path (shelved recordings)
  distinct : (recordings.map Prod.fst).Nodup
  whole : ∀ r ∈ recordings, Text.Whole r.1
  storable : ∀ r ∈ recordings, ∀ p ∈ r.2, p.Storable

theorem readable_events {events : List PlainEvent} (storable : ∀ p ∈ events, p.Storable) :
    Json.Readable 3 (.array (events.map PlainEvent.json)) :=
  .array (List.forall_mem_map.mpr fun p member => (storable p member).readable)

theorem Shelf.readable {f : Files} {recordings : List (String × List PlainEvent)} (shelf : Shelf f recordings) :
    Json.Readable 4 (.object (shelved recordings)) := by
  refine .object (List.forall_mem_map.mpr shelf.whole)
    (List.forall_mem_map.mpr fun r member => readable_events (shelf.storable r member)) ?_
  rw [shelved, List.map_map]
  exact shelf.distinct

end Recording

/-! ### What is lost -/

namespace Json

/-- A whole number stands in a document. -/
inductive Holds (i : Int) : Json → Prop
  | here : Holds i (.int i)
  | item {items : List Json} {j : Json} (member : j ∈ items) (within : Holds i j) : Holds i (.array items)
  | member {members : List (String × Json)} {m : String × Json} (member : m ∈ members)
      (within : Holds i m.2) : Holds i (.object members)

/-- No whole number in a document has more digits than are read. -/
def Short (j : Json) : Prop := ∀ i, Holds i j → i.natAbs < 10 ^ Number.digitLimit

end Json

namespace Recording

end Recording

end DeskScript
