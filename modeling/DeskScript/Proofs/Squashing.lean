import DeskScript.Proofs.Doubles
import DeskScript.Proofs.Free
import DeskScript.Recording.Squash
import Mathlib.Data.List.Chain

/-!
# What squashing keeps

A recording falls into stretches: events that are kept, and moves near the first of them that become
one move. So squashing takes moves away and changes nothing else: what is done and where, and in which
order, stays the same.
-/

namespace DeskScript

/-- The events of a recording that are not moves. -/
def RecordedEvent.strokes (events : List RecordedEvent) : List RecordedEvent := events.filter (!·.isMove)

theorem RecordedEvent.strokes_append (events more : List RecordedEvent) :
    strokes (events ++ more) = strokes events ++ strokes more := List.filter_append ..

namespace Recording

open RecordedEvent

/-- An event without what squashing and the durations change: where a move came from, and the time
until the next event. -/
def bare (e : RecordedEvent) : RecordedEvent := { e with origin := none, duration := .null }

theorem isMove_merge (first last : RecordedEvent) : (merge first last).isMove = last.isMove := rfl

theorem stamps_bare (events : List RecordedEvent) :
    (events.map bare).map (·.timestamp) = events.map (·.timestamp) := List.map_map

/-! ### Stretches -/

/-- An event that is kept, or moves one after the other that become one move. -/
inductive Stretch where
  | kept (e : RecordedEvent)
  | moves (first : RecordedEvent) (rest : List RecordedEvent)

namespace Stretch

def events : Stretch → List RecordedEvent
  | kept e => [e]
  | moves first rest => first :: rest

/-- What becomes of a stretch. -/
def squashed : Stretch → RecordedEvent
  | kept e => e
  | moves first rest => merge first (rest.getLastD first)

/-- All moves of a stretch are near the first one. -/
def Near (far : RecordedEvent → RecordedEvent → Except Error Bool) : Stretch → Prop
  | kept e => e.isMove = false
  | moves first rest => first.isMove = true ∧ ∀ e ∈ rest, e.isMove = true ∧ far first e = .ok false

/-- Moves that follow on moves begin far from where these began. -/
def Follows (far : RecordedEvent → RecordedEvent → Except Error Bool) : Stretch → Stretch → Prop
  | moves first _, moves next _ => far first next = .ok true
  | _, _ => True

end Stretch

/-- How events are squashed, stretch by stretch. -/
structure Squashes (far : RecordedEvent → RecordedEvent → Except Error Bool)
    (events squashed : List RecordedEvent) (parts : List Stretch) : Prop where
  events : parts.flatMap Stretch.events = events
  squashed : parts.map Stretch.squashed = squashed
  near : ∀ p ∈ parts, p.Near far
  follows : parts.IsChain (Stretch.Follows far)

variable {far : RecordedEvent → RecordedEvent → Except Error Bool}
  {events squashed : List RecordedEvent}

theorem Squashes.cons {p : Stretch} {parts : List Stretch} (rest : Squashes far events squashed parts)
    (near : p.Near far) (follows : ∀ q ∈ parts.head?, p.Follows far q) :
    Squashes far (p.events ++ events) (p.squashed :: squashed) (p :: parts) := by
  refine ⟨?_, ?_, List.forall_mem_cons.mpr ⟨near, rest.near⟩, rest.follows.cons follows⟩
  · rw [List.flatMap_cons, rest.events]
  · rw [List.map_cons, rest.squashed]

/-- What is still to be squashed belongs to the open stretch as long as it is near its first move. -/
theorem squashFrom_parts {group : Option (RecordedEvent × List RecordedEvent)}
    (near : ∀ first rest, group = some (first, rest) → (Stretch.moves first rest).Near far)
    (done : squashFrom far (group.map fun g => (g.1, g.2.getLastD g.1)) events = .ok squashed) :
    ∃ parts, Squashes far (group.elim [] (fun g => g.1 :: g.2) ++ events) squashed parts ∧
      ∀ first rest, group = some (first, rest) → ∃ more later, parts = .moves first more :: later := by
  induction events generalizing group squashed with
  | nil =>
    rcases group with _ | ⟨first, rest⟩
    · cases done
      exact ⟨[], ⟨rfl, rfl, nofun, .nil⟩, nofun⟩
    · cases done
      refine ⟨[.moves first rest], ?_, by simp⟩
      exact @Squashes.cons far [] [] (.moves first rest) [] ⟨rfl, rfl, nofun, .nil⟩ (near _ _ rfl) nofun
  | cons e events ih =>
    rcases group with _ | ⟨first, rest⟩
    · simp only [Option.map_none, squashFrom] at done
      split at done
      next move =>
        obtain ⟨parts, squashes, -⟩ := @ih _ (some (e, [])) (by simp [Stretch.Near, move]) done
        exact ⟨parts, squashes, nofun⟩
      next stays =>
        obtain ⟨more, later, ⟨⟩⟩ := bind_ok done
        obtain ⟨parts, squashes, -⟩ := @ih _ none nofun later
        refine ⟨.kept e :: parts, squashes.cons (p := .kept e) ?_ fun _ _ => trivial, nofun⟩
        simpa [Stretch.Near] using stays
    · have open_near := near first rest rfl
      simp only [Option.map_some, squashFrom] at done
      split at done
      next move =>
        obtain ⟨isFar, apart, done⟩ := bind_ok done
        cases isFar with
        | true =>
          obtain ⟨more, later, ⟨⟩⟩ := bind_ok done
          obtain ⟨parts, squashes, begins⟩ := @ih _ (some (e, [])) (by simp [Stretch.Near, move]) later
          obtain ⟨_, _, rfl⟩ := begins e [] rfl
          refine ⟨.moves first rest :: _, squashes.cons open_near ?_, by simp⟩
          rintro _ ⟨⟩
          exact apart
        | false =>
          have grown : (Stretch.moves first (rest ++ [e])).Near far := by
            refine ⟨open_near.1, fun e' member => ?_⟩
            rcases List.mem_append.mp member with member | member
            · exact open_near.2 e' member
            · obtain rfl := List.mem_singleton.mp member
              exact ⟨move, apart⟩
          have rest_done : squashFrom far (some (first, (rest ++ [e]).getLastD first)) events = .ok squashed := by
            simpa using done
          obtain ⟨parts, squashes, begins⟩ :=
            @ih _ (some (first, rest ++ [e])) (by rintro _ _ ⟨⟩; exact grown) rest_done
          obtain ⟨more, later, rfl⟩ := begins _ _ rfl
          exact ⟨_, by simpa using squashes, by simp⟩
      next stays =>
        obtain ⟨more, later, ⟨⟩⟩ := bind_ok done
        obtain ⟨parts, squashes, -⟩ := @ih _ none nofun later
        have kept := squashes.cons (p := .kept e) (by simpa [Stretch.Near] using stays) fun _ _ => trivial
        exact ⟨.moves first rest :: .kept e :: parts, kept.cons open_near (by simp [Stretch.Follows]),
          by simp⟩

theorem squash_parts (done : squash far events = .ok squashed) :
    ∃ parts, Squashes far events squashed parts := by
  obtain ⟨parts, squashes, -⟩ := @squashFrom_parts _ _ _ none nofun done
  exact ⟨parts, squashes⟩

/-- Squashing gives a result if all distances can be told. -/
theorem squashFrom_total (told : ∀ a b, ∃ isFar, far a b = .ok isFar)
    (group : Option (RecordedEvent × RecordedEvent)) (events : List RecordedEvent) :
    ∃ squashed, squashFrom far group events = .ok squashed := by
  induction events generalizing group with
  | nil => rcases group with _ | ⟨first, last⟩ <;> exact ⟨_, rfl⟩
  | cons e rest ih =>
    obtain ⟨after, done⟩ := ih none
    obtain ⟨after', done'⟩ := ih (some (e, e))
    rcases group with _ | ⟨first, last⟩
    · simp only [squashFrom, done, done']
      split <;> exact ⟨_, rfl⟩
    · obtain ⟨isFar, apart⟩ := told first e
      obtain ⟨after'', done''⟩ := ih (some (first, e))
      simp only [squashFrom, done, done', done'', apart]
      split
      · cases isFar <;> exact ⟨_, rfl⟩
      · exact ⟨_, rfl⟩

/-! ### What stays the same -/

/-- Where the pointer is just before each event that is no move, and at the end: where the last move
before led to. -/
def stops (place : Option (List Value)) : List RecordedEvent → List (Option (List Value))
  | [] => [place]
  | e :: rest => if e.isMove then stops e.target rest else place :: stops place rest

theorem stops_append {moves : List RecordedEvent} (all : ∀ e ∈ moves, e.isMove = true)
    (last : RecordedEvent) (rest : List RecordedEvent) :
    stops last.target (moves ++ rest) = stops (moves.getLastD last).target rest := by
  induction moves generalizing last with
  | nil => rfl
  | cons e moves ih =>
    obtain ⟨move, others⟩ := List.forall_mem_cons.mp all
    rw [List.cons_append, stops, if_pos move, ih others, List.getLastD_cons]

theorem Squashes.same {parts : List Stretch} (squashes : Squashes far events squashed parts) :
    strokes squashed = strokes events ∧ (squashed.map bare).Sublist (events.map bare) ∧
      ∀ place, stops place squashed = stops place events := by
  obtain ⟨rfl, rfl, near, -⟩ := squashes
  induction parts with
  | nil => exact ⟨rfl, .refl _, fun _ => rfl⟩
  | cons p parts ih =>
    obtain ⟨here, later⟩ := List.forall_mem_cons.mp near
    obtain ⟨kept, fewer, ends⟩ := ih later
    rw [List.flatMap_cons, List.map_cons]
    cases p with
    | kept e =>
      have stays : e.isMove = false := here
      refine ⟨?_, fewer.cons_cons _, fun place => ?_⟩
      · rw [strokes_append, ← kept]
        simp [strokes, Stretch.events, Stretch.squashed, stays]
      · simp [stops, Stretch.events, Stretch.squashed, stays, ends]
    | moves first rest =>
      have all : ∀ e ∈ first :: rest, e.isMove = true :=
        List.forall_mem_cons.mpr ⟨here.1, fun e member => (here.2 e member).1⟩
      have last : rest.getLastD first ∈ first :: rest := List.getLastD_mem_cons ..
      have move : (Stretch.squashed (.moves first rest)).isMove = true := (isMove_merge ..).trans (all _ last)
      refine ⟨?_, ?_, fun place => ?_⟩
      · have none : strokes (first :: rest) = [] := List.filter_eq_nil_iff.mpr (by simpa using all)
        rw [strokes_append, ← kept, Stretch.events, none]
        simp [strokes, move]
      · rw [List.map_append]
        exact .append (List.singleton_sublist.mpr (List.mem_map_of_mem (f := bare) last)) fewer
      · rw [stops, if_pos move, ends, Stretch.events, List.cons_append, stops, if_pos here.1,
          stops_append fun e member => (here.2 e member).1]
        rfl

/-! ### Nothing is far -/

/-- What becomes of a move on its own: it began where it led to, if nothing else is known. -/
def refilled (e : RecordedEvent) : RecordedEvent := if e.isMove then merge e e else e

/-- An event with coordinates, of where it led to or where it came from. -/
def located (e : RecordedEvent) : Bool := (e.origin.filter (!·.isEmpty)).isSome || e.place?.isSome

theorem refilled_merge {first : RecordedEvent} (known : located first = true) (last : RecordedEvent) :
    refilled (merge first last) = merge first last := by
  have origin : ((merge first last).origin.filter (!·.isEmpty)).isSome := by
    simp only [located, place?, Bool.or_eq_true] at known
    simp only [merge]
    split
    · assumption
    · exact known.resolve_left ‹_›
  have again : merge (merge first last) (merge first last) = merge first last := by
    rw [merge.eq_def (merge first last), if_pos origin]
  rw [refilled, again, ite_self]

theorem Squashes.single {parts : List Stretch} (squashes : Squashes far events squashed parts)
    (never : ∀ a b, far a b ≠ .ok true) :
    squashed.IsChain fun a b => a.isMove = false ∨ b.isMove = false := by
  obtain ⟨-, rfl, near, follows⟩ := squashes
  rw [List.isChain_map]
  refine follows.imp_of_mem_imp fun p q inP inQ next => ?_
  cases p with
  | kept e => exact .inl (near _ inP)
  | moves first rest =>
    cases q with
    | kept e => exact .inr (near _ inQ)
    | moves => exact absurd next (never _ _)

theorem squash_single (single : events.IsChain fun a b => a.isMove = false ∨ b.isMove = false) :
    squash far events = .ok (events.map refilled) := by
  unfold squash
  induction events with
  | nil => rfl
  | cons e rest ih =>
    have later := ih single.tail
    cases move : e.isMove with
    | false => simp [squashFrom, move, later, refilled]
    | true =>
      rcases rest with _ | ⟨next, rest⟩
      · simp [squashFrom, move, refilled]
      · have stays : next.isMove = false := by
          simpa [move] using (List.isChain_cons_cons.mp single).1
        cases done : squashFrom far none rest <;>
          simp_all [squashFrom, refilled]

theorem Squashes.refilled {parts : List Stretch} (squashes : Squashes far events squashed parts)
    (known : ∀ e ∈ events, e.isMove = true → located e = true) : squashed.map refilled = squashed := by
  obtain ⟨rfl, rfl, near, -⟩ := squashes
  rw [List.map_map]
  refine List.map_congr_left fun p member => ?_
  cases p with
  | kept e => exact if_neg (Bool.eq_false_iff.mp (near _ member))
  | moves first rest =>
    exact refilled_merge (known first (List.mem_flatMap.mpr ⟨_, member, List.mem_cons_self⟩)
      (near _ member).1) _

/-! ### Distances -/

/-- Whether a move is far from the first one of its group, by where the two lead. A move without
coordinates is near. -/
def between (apart : List Value → List Value → Except Error Bool) (first e : RecordedEvent) :
    Except Error Bool :=
  match first.place?, e.place? with
  | some a, some b => apart a b
  | _, _ => .ok false

/-- Whether two places are farther apart than a threshold. -/
def beyond (threshold : Value) (a b : List Value) : Except Error Bool := do
  let d ← Pointer.distance (← coordinate a 0) (← coordinate a 1) (← coordinate b 0) (← coordinate b 1)
  Value.compares .greater (.float d) threshold

theorem farther_eq (threshold : Value) : farther threshold = between (beyond threshold) := rfl

theorem between_told {apart : List Value → List Value → Except Error Bool}
    (told : ∀ a b, ∃ isFar, apart a b = .ok isFar) (first e : RecordedEvent) :
    ∃ isFar, between apart first e = .ok isFar := by
  unfold between
  split
  · exact told _ _
  · exact ⟨false, rfl⟩

theorem between_never {apart : List Value → List Value → Except Error Bool}
    (never : ∀ a b, apart a b ≠ .ok true) (first e : RecordedEvent) : between apart first e ≠ .ok true := by
  unfold between
  split
  · exact never _ _
  · simp

open Float.Model Float.Model.UnpackedFloat in
theorem not_infinity_lt (x : Float) : ¬ Number.infinity false < x := by
  have top : (Number.infinity false).toModel.unpack = .infinity .positive := rfl
  rw [Number.lt_iff, top]
  rintro ⟨-, -, above⟩
  generalize x.toModel.unpack = u at above
  cases u with
  | infinity s | finite s => cases s <;> simp [Number.rank, Prod.Lex.toLex_lt_toLex] at above
  | zero | notANumber => simp [Number.rank, Prod.Lex.toLex_lt_toLex] at above

theorem beyond_infinity (a b : List Value) : beyond (.float (Number.infinity false)) a b ≠ .ok true := by
  intro far
  obtain ⟨_, -, far⟩ := bind_ok far
  obtain ⟨_, -, far⟩ := bind_ok far
  obtain ⟨_, -, far⟩ := bind_ok far
  obtain ⟨_, -, far⟩ := bind_ok far
  obtain ⟨d, -, far⟩ := bind_ok far
  have compared : Value.compares .greater (.float d) (.float (Number.infinity false)) =
    .ok (Relation.holds .greater (compareFloat? d (Number.infinity false))) := rfl
  rw [compared, compareFloat?] at far
  split_ifs at far <;> simp_all [Relation.holds, not_infinity_lt]

/-- Squashing takes away moves on the way and nothing else: groups of moves near the first of them
become their last move, so what is done and where, the order of the times and the length stay or
shrink. Where nothing is far, one move is left of each run, and squashing again only says where a
move began of which that was not known. -/
theorem squash_groups (apart : List Value → List Value → Except Error Bool)
    (events : List RecordedEvent) :
    (∀ threshold, farther threshold = between (beyond threshold)) ∧
    (∀ a b, beyond (.float (Number.infinity false)) a b ≠ .ok true) ∧
    ((∀ a b, ∃ isFar, apart a b = .ok isFar) →
      ∃ squashed, squash (between apart) events = .ok squashed) ∧
    ∀ squashed, squash (between apart) events = .ok squashed →
      (∃ parts, Squashes (between apart) events squashed parts) ∧
      strokes squashed = strokes events ∧
      (∀ place, stops place squashed = stops place events) ∧
      (∀ before : Value → Value → Prop, (events.map (·.timestamp)).Pairwise before →
        (squashed.map (·.timestamp)).Pairwise before) ∧
      squashed.length ≤ events.length ∧
      ((∀ a b, apart a b ≠ .ok true) →
        (squashed.IsChain fun a b => a.isMove = false ∨ b.isMove = false) ∧
        squash (between apart) squashed = .ok (squashed.map refilled) ∧
        ((∀ e ∈ events, e.isMove = true → located e = true) →
          squash (between apart) squashed = .ok squashed)) := by
  refine ⟨farther_eq, beyond_infinity, fun told => squashFrom_total (between_told told) none events,
    fun squashed done => ?_⟩
  obtain ⟨parts, squashes⟩ := squash_parts done
  obtain ⟨kept, fewer, ends⟩ := squashes.same
  refine ⟨⟨parts, squashes⟩, kept, ends, fun before sorted => ?_, by simpa using fewer.length_le, ?_⟩
  · rw [← stamps_bare] at sorted ⊢
    exact sorted.sublist (fewer.map _)
  · intro never
    have single := squashes.single (between_never never)
    refine ⟨single, squash_single single, fun known => ?_⟩
    rw [squash_single single, squashes.refilled known]

/-- A drag of two moves and a click: one move is left, and squashing again changes nothing. -/
theorem squash_groups_drag :
    let near : List Value → List Value → Except Error Bool := fun _ _ => .ok false
    let move (x : Int) : RecordedEvent :=
      ⟨.int x, .text "mouse_move", .null, .null, some (point x x), none, .null⟩
    let click : RecordedEvent := ⟨.int 9, .text "mouse_button", .text "left", .text "down", none, none, .null⟩
    let left := [{ move 2 with origin := some (point 1 1) }, click]
    squash (between near) [move 1, move 2, click] = .ok left ∧ squash (between near) left = .ok left := by
  intro near move click left
  have done : squash (between near) [move 1, move 2, click] = .ok left := rfl
  have groups := (squash_groups near [move 1, move 2, click]).2.2.2 left done
  refine ⟨done, (groups.2.2.2.2.2 fun _ _ => by simp [near]).2.2 ?_⟩
  simp [move, click, located, place?, point, isMove, holds]

/-- Two moves of which only the second has coordinates: the move left of them did not begin
anywhere, and squashing it makes it begin where it ended. -/
theorem squash_again_refills :
    let far := farther (.float (Number.infinity false))
    let move (place : Option (List Value)) : RecordedEvent :=
      ⟨.int 0, .text "mouse_move", .null, .null, place, none, .null⟩
    let left := move (some (point 5 5))
    squash far [move none, left] = .ok [left] ∧ squash far [left] ≠ .ok [left] := by
  refine ⟨rfl, fun same => ?_⟩
  have refilled : squash (farther (.float (Number.infinity false))) [_] = .ok [_] := same
  cases refilled

end Recording

end DeskScript
