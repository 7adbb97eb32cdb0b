import DeskScript.Proofs.Endings
import DeskScript.Proofs.Squashing
import DeskScript.Recording.Record
import Mathlib.Data.List.Forall2

/-!
# What is recorded

Deeds of the user reach the recorder one by one, while the recording waits for its start, while it
rests, and until it has seen its end. Whatever the order in which these come, a recorder that has
heard deeds is in one of three phases, and each phase says what has been put down: nothing before
the start key, every stroke until the stop key, and only clicks after it. Sorting by time changes
nothing, as the clock never runs backwards, and squashing takes moves away, but nothing else.
-/

namespace DeskScript

open Number (Onward)

/-! ### What is told of a deed -/

/-- Whether a deed is more than a move. -/
def Deed.isStroke : Deed → Bool
  | .move _ => false
  | _ => true

/-- Whether a deed presses or releases a key. -/
def Deed.isKey : Deed → Bool
  | .press _ | .release _ => true
  | _ => false

def Deed.isClick : Deed → Bool
  | .click .. => true
  | _ => false

/-- Whether the user presses the key, if there is one. -/
def UserEvent.Presses (e : UserEvent) (key : Option Key) : Prop :=
  ∃ k, key = some k ∧ e.deed = .press k

variable {e : RecordedEvent} {clock : Float}

namespace RecordedEvent

/-- How a recorded event tells of a deed: with the text of the key or the button, and for a click
with its place. A move is not told of in this way. -/
def Tells (e : RecordedEvent) : Deed → Prop
  | .press key =>
    e.kind = .text "key_down" ∧ e.key = .text key.text ∧ e.action = .text "down" ∧ e.target = none
  | .release key =>
    e.kind = .text "key_up" ∧ e.key = .text key.text ∧ e.action = .text "up" ∧ e.target = none
  | .click place button down =>
    e.kind = .text "mouse_click" ∧ e.key = .text button.text ∧
      e.action = .text (if down then "down" else "up") ∧
      e.target = some [.int place.x, .int place.y]
  | .move _ => False

/-- A move leads to the place where the pointer has been found, or to where the user moved it. -/
def Leads (e : RecordedEvent) (home : Option Point) (done : List UserEvent) : Prop :=
  ∃ p, e.target = some (point p.x p.y) ∧ (home = some p ∨ ∃ u ∈ done, u.deed = .move p)

theorem Leads.mono {home home' : Option Point} {done done' : List UserEvent}
    (leads : e.Leads home done) (found : ∀ p, home = some p → home' = some p)
    (more : ∀ u ∈ done, u ∈ done') : e.Leads home' done' := by
  obtain ⟨p, target, known | ⟨u, member, moved⟩⟩ := leads
  · exact ⟨p, target, .inl (found p known)⟩
  · exact ⟨p, target, .inr ⟨u, more u member, moved⟩⟩

/-- What has been put down: one stroke for each of these deeds, and moves to known places. -/
structure Tally (events : List RecordedEvent) (home : Option Point) (deeds : List Deed)
    (done : List UserEvent) : Prop where
  told : List.Forall₂ Tells (strokes events) deeds
  led : ∀ e ∈ events, e.isMove = true → e.Leads home done

/-- Events with time stamps that do not decrease, none of them after a time. -/
def Timed (events : List RecordedEvent) (clock : Float) : Prop :=
  ∃ times : List Float, events.map (·.timestamp) = times.map .float ∧
    (times ++ [clock]).Pairwise Onward

theorem timed_nil (clock : Float) : Timed [] clock := ⟨[], rfl, List.pairwise_singleton _ _⟩

theorem Timed.later {events : List RecordedEvent} {clock' : Float} (timed : Timed events clock)
    (onward : Onward clock clock') : Timed events clock' := by
  obtain ⟨times, stamps, ordered⟩ := timed
  refine ⟨times, stamps, ?_⟩
  rw [List.pairwise_append] at ordered ⊢
  refine ⟨ordered.1, List.pairwise_singleton _ _, fun s known t last => ?_⟩
  rw [List.mem_singleton.mp last]
  exact (ordered.2.2 s known clock (List.mem_singleton_self _)).trans onward

theorem Timed.add {events : List RecordedEvent} (timed : Timed events clock)
    (stamp : e.timestamp = .float clock) : Timed (events ++ [e]) clock := by
  obtain ⟨times, stamps, ordered⟩ := timed
  refine ⟨times ++ [clock], by simp [stamps, stamp], ?_⟩
  rw [List.pairwise_append]
  refine ⟨ordered, List.pairwise_singleton _ _, fun s known t last => ?_⟩
  rw [List.mem_singleton.mp last]
  rcases List.mem_append.mp known with earlier | same
  · exact (List.pairwise_append.mp ordered).2.2 s earlier clock (List.mem_singleton_self _)
  · rw [List.mem_singleton.mp same]
    exact .refl clock

end RecordedEvent

open RecordedEvent (Leads Tally Timed strokes strokes_append)

/-! ### A recorder at work -/

namespace Recorder

variable {r : Recorder} {heard : List UserEvent} {home : Option Point}

/-- What a recorder has put down once these events have reached it: nothing up to the start key, all
strokes up to the stop key, and clicks after it. -/
inductive Phase (r : Recorder) (home : Option Point) : List UserEvent → Prop
  | waiting {before : List UserEvent} (started : r.started = false) (stopped : r.stopped = false)
      (hearsKeys : r.hearsKeys = true) (early : ∀ e ∈ before, ¬ e.Presses r.startKey)
      (empty : r.events = []) : Phase r home before
  | running {before between : List UserEvent} {start : UserEvent} (started : r.started = true)
      (stopped : r.stopped = false) (hearsKeys : r.hearsKeys = true)
      (early : ∀ e ∈ before, ¬ e.Presses r.startKey) (opens : start.Presses r.startKey)
      (during : ∀ e ∈ between, ¬ e.Presses r.stopKey)
      (tally : Tally r.events home ((between.map (·.deed)).filter Deed.isStroke) between) :
      Phase r home (before ++ start :: between)
  | closed {before between after : List UserEvent} {start stop : UserEvent}
      (started : r.started = true) (stopped : r.stopped = true) (hearsKeys : r.hearsKeys = false)
      (early : ∀ e ∈ before, ¬ e.Presses r.startKey) (opens : start.Presses r.startKey)
      (during : ∀ e ∈ between, ¬ e.Presses r.stopKey) (closes : stop.Presses r.stopKey)
      (tally : Tally r.events home ((between.map (·.deed)).filter Deed.isStroke ++
        (after.map (·.deed)).filter Deed.isClick) (between ++ after)) :
      Phase r home (before ++ start :: between ++ stop :: after)

/-- What comes of a deed that is put down: an event of that time, which tells of a stroke or is a
move. -/
def Notes (r r' : Recorder) (time : Float) (deed : Deed) : Prop :=
  ∃ e last, r' = { r.add e with last } ∧ e.timestamp = .float time ∧
    (e.Tells deed ∨ ∃ p, deed = .move p ∧ e.isMove = true ∧
      e.target = some (RecordedEvent.point p.x p.y))

theorem notes_hear {e : UserEvent} (time : Float) (started : r.started = true)
    (heard : r.hearsKeys = true ∧ ¬ e.Presses r.stopKey ∨ e.deed.isKey = false) :
    Notes r (r.hear time e.deed).1 time e.deed := by
  cases done : e.deed with
  | press key =>
    rw [done] at heard
    obtain ⟨hearsKeys, notStop⟩ := heard.resolve_right (by simp [Deed.isKey])
    have other : some key ≠ r.stopKey := fun known => notStop ⟨key, known.symm, done⟩
    refine ⟨keyEvent time key true, r.last, ?_, rfl, .inl ⟨rfl, rfl, rfl, rfl⟩⟩
    simp [hear, hearsKeys, started, other, add]
  | release key =>
    rw [done] at heard
    obtain ⟨hearsKeys, -⟩ := heard.resolve_right (by simp [Deed.isKey])
    refine ⟨keyEvent time key false, r.last, ?_, rfl, .inl ⟨rfl, rfl, rfl, rfl⟩⟩
    simp [hear, hearsKeys, started, add]
  | move target =>
    refine ⟨moveEvent time target r.last, some target, ?_, rfl, .inr ⟨target, rfl, rfl, rfl⟩⟩
    simp [hear, started]
  | click target button down =>
    refine ⟨clickEvent time target button down, r.last, ?_, rfl, .inl ⟨rfl, rfl, rfl, rfl⟩⟩
    simp [hear, started, add]

theorem isMove_of_tells {deed : Deed} (tells : e.Tells deed) : e.isMove = false := by
  cases deed with
  | move target => exact tells.elim
  | _ => simp [RecordedEvent.isMove, RecordedEvent.holds, tells.1]

theorem isStroke_of_tells {deed : Deed} (tells : e.Tells deed) : deed.isStroke = true := by
  cases deed with
  | move target => exact tells.elim
  | _ => rfl

theorem Notes.tally {r r' : Recorder} {time : Float} {u : UserEvent}
    {deeds : List Deed} {done : List UserEvent} (notes : Notes r r' time u.deed)
    (tally : Tally r.events home deeds done) :
    Tally r'.events home (deeds ++ [u.deed].filter Deed.isStroke) (done ++ [u]) := by
  obtain ⟨e, last, rfl, -, kind⟩ := notes
  have known : ∀ e' ∈ r.events, e'.isMove = true → e'.Leads home (done ++ [u]) :=
    fun e' member move => (tally.led e' member move).mono (fun _ => id)
      fun _ => List.mem_append_left [u]
  change Tally (r.events ++ [e]) _ _ _
  rcases kind with tells | ⟨p, moved, move, target⟩
  · constructor
    · rw [strokes_append]
      exact List.rel_append tally.told (by
        simpa [strokes, isMove_of_tells tells, isStroke_of_tells tells] using tells)
    · refine List.forall_mem_append.mpr ⟨known, List.forall_mem_singleton.mpr fun move => ?_⟩
      rw [isMove_of_tells tells] at move
      cases move
  · constructor
    · rw [strokes_append]
      exact List.rel_append tally.told (by simp [strokes, moved, move, Deed.isStroke])
    · exact List.forall_mem_append.mpr ⟨known, List.forall_mem_singleton.mpr fun _ =>
        ⟨p, target, .inr ⟨u, by simp, moved⟩⟩⟩

/-- Being told where the pointer is leaves a recorder in its phase. -/
theorem Phase.placed (phase : r.Phase none heard)
    (begun : r.started = true) (time : Float) (cursor : Point) :
    (Recording.placed r time cursor).Phase (some cursor) heard := by
  have tally {deeds : List Deed} {done : List UserEvent} (tally : Tally r.events none deeds done) :
      Tally (Recording.placed r time cursor).events (some cursor) deeds done := by
    change Tally (r.events ++ [moveEvent time cursor none]) _ _ _
    constructor
    · simpa [strokes, moveEvent, RecordedEvent.isMove, RecordedEvent.holds] using tally.told
    · refine List.forall_mem_append.mpr ⟨fun e member move => ?_, List.forall_mem_singleton.mpr ?_⟩
      · exact (tally.led e member move).mono (by rintro _ ⟨⟩) fun _ => id
      · exact fun _ => ⟨cursor, rfl, .inl rfl⟩
  cases phase with
  | waiting notStarted =>
    rw [begun] at notStarted
    cases notStarted
  | running _ going hears early opens during told =>
    exact .running begun going hears early opens during (tally told)
  | closed _ ended deaf early opens during closes told =>
    exact .closed begun ended deaf early opens during closes (tally told)

/-- The five parts of what has reached a recorder that has stopped. -/
theorem Phase.parts
    (phase : r.Phase home heard) (stopped : r.stopped = true) :
    ∃ (startKey stopKey : Key) (before between after : List UserEvent) (start stop : UserEvent),
      r.startKey = some startKey ∧ r.stopKey = some stopKey ∧
      heard = before ++ start :: between ++ stop :: after ∧
      (∀ e ∈ before, e.deed ≠ .press startKey) ∧ start.deed = .press startKey ∧
      (∀ e ∈ between, e.deed ≠ .press stopKey) ∧ stop.deed = .press stopKey ∧
      Tally r.events home ((between.map (·.deed)).filter Deed.isStroke ++
        (after.map (·.deed)).filter Deed.isClick) (between ++ after) := by
  cases phase with
  | waiting _ going =>
    rw [stopped] at going
    cases going
  | running _ going =>
    rw [stopped] at going
    cases going
  | closed _ _ _ early opens during closes told =>
    obtain ⟨startKey, first, start⟩ := opens
    obtain ⟨stopKey, last, stop⟩ := closes
    exact ⟨startKey, stopKey, _, _, _, _, _, first, last, rfl,
      fun e known pressed => early e known ⟨startKey, first, pressed⟩, start,
      fun e known pressed => during e known ⟨stopKey, last, pressed⟩, stop, told⟩

/-- One more event takes a recorder from phase to phase. -/
theorem Phase.next
    (phase : r.Phase home heard) (time : Float) (e : UserEvent) :
    (r.hear time e.deed).1.Phase home (heard ++ [e]) := by
  cases phase with
  | waiting started stopped hearsKeys early empty =>
    by_cases start : e.Presses r.startKey
    · have same : (r.hear time e.deed).1 = { r with started := true } := by
        obtain ⟨key, known, pressed⟩ := start
        simp [hear, pressed, hearsKeys, started, known]
      rw [same]
      refine .running rfl stopped hearsKeys early start (by simp) ?_
      rw [empty]
      exact ⟨.nil, by simp⟩
    · have same : (r.hear time e.deed).1 = r := by
        cases pressed : e.deed with
        | press key =>
          have other : some key ≠ r.startKey := fun known => start ⟨key, known.symm, pressed⟩
          simp [hear, hearsKeys, started, other]
        | _ => simp [hear, started]
      rw [same]
      exact .waiting started stopped hearsKeys (List.forall_mem_append.mpr
        ⟨early, List.forall_mem_singleton.mpr start⟩) empty
  | running started stopped hearsKeys early opens during tally =>
    by_cases stop : e.Presses r.stopKey
    · have same : (r.hear time e.deed).1 = { r with stopped := true, hearsKeys := false } := by
        obtain ⟨key, known, pressed⟩ := stop
        simp [hear, pressed, hearsKeys, started, known]
      rw [same]
      refine .closed started rfl rfl early opens during stop ?_
      rw [List.map_nil, List.filter_nil, List.append_nil, List.append_nil]
      exact tally
    · have notes := notes_hear time started (.inl ⟨hearsKeys, stop⟩)
      have tally' := notes.tally tally
      obtain ⟨e', last, same, -⟩ := notes
      rw [List.append_assoc, List.cons_append]
      rw [same] at tally' ⊢
      refine .running started stopped hearsKeys early opens (List.forall_mem_append.mpr
        ⟨during, List.forall_mem_singleton.mpr stop⟩) ?_
      rwa [List.map_append, List.filter_append]
  | closed started stopped hearsKeys early opens during closes tally =>
    rw [List.append_assoc, List.cons_append]
    cases key : e.deed.isKey with
    | true =>
      have same : (r.hear time e.deed).1 = r := by
        cases done : e.deed <;> simp [done, Deed.isKey] at key <;> simp [hear, hearsKeys]
      have silent : e.deed.isClick = false := by
        cases done : e.deed <;> simp [done, Deed.isKey, Deed.isClick] at key ⊢
      rw [same]
      refine .closed started stopped hearsKeys early opens during closes ⟨?_, ?_⟩
      · simpa [silent] using tally.told
      · refine fun e' member move => (tally.led e' member move).mono (fun _ => id) fun u known => ?_
        rw [← List.append_assoc]
        exact List.mem_append_left [e] known
    | false =>
      have click : e.deed.isClick = e.deed.isStroke := by
        cases done : e.deed <;> simp [done, Deed.isKey, Deed.isClick, Deed.isStroke] at key ⊢
      have notes := notes_hear time started (.inr key)
      have tally' := notes.tally tally
      obtain ⟨e', last, same, -⟩ := notes
      rw [same] at tally' ⊢
      refine .closed started stopped hearsKeys early opens during closes ?_
      rw [List.map_append, List.filter_append, ← List.append_assoc, ← List.append_assoc]
      simpa only [List.map_cons, List.map_nil, List.filter_cons, List.filter_nil, click]
        using tally'

/-- All that hearing of a deed can do. -/
theorem hear_cases (r : Recorder) (time : Float) (deed : Deed) :
    (r.hear time deed).1 = r ∨ (r.hear time deed).1 = { r with started := true } ∨
      (r.hear time deed).1 = { r with stopped := true, hearsKeys := false } ∨
      ∃ e last, (r.hear time deed).1 = { r.add e with last } ∧ e.timestamp = .float time := by
  cases deed with
  | press key =>
    simp only [hear]
    split
    · exact .inl rfl
    · split
      · exact .inr (.inl rfl)
      · split
        · exact .inr (.inr (.inl rfl))
        · split
          · exact .inr (.inr (.inr ⟨keyEvent time key true, r.last, rfl, rfl⟩))
          · exact .inl rfl
  | release key =>
    simp only [hear]
    split
    · exact .inr (.inr (.inr ⟨keyEvent time key false, r.last, rfl, rfl⟩))
    · exact .inl rfl
  | move target =>
    simp only [hear]
    split
    · exact .inr (.inr (.inr ⟨moveEvent time target r.last, some target, rfl, rfl⟩))
    · exact .inl rfl
  | click target button down =>
    simp only [hear]
    split
    · exact .inr (.inr (.inr ⟨clickEvent time target button down, r.last, rfl, rfl⟩))
    · exact .inl rfl

theorem timed_hear {time : Float} (timed : Timed r.events time) (deed : Deed) :
    Timed (r.hear time deed).1.events time := by
  obtain same | same | same | ⟨e, last, same, stamp⟩ := r.hear_cases time deed
  · rwa [same]
  · rwa [same]
  · rwa [same]
  · rw [same]
    exact timed.add stamp

theorem started_hear (started : r.started = true) (time : Float) (deed : Deed) :
    (r.hear time deed).1.started = true := by
  obtain same | same | same | ⟨e, last, same, -⟩ := r.hear_cases time deed <;> rw [same]
  exacts [started, started, started]

theorem hear_keys (r : Recorder) (time : Float) (deed : Deed) :
    (r.hear time deed).1.startKey = r.startKey ∧ (r.hear time deed).1.stopKey = r.stopKey := by
  obtain same | same | same | ⟨e, last, same, -⟩ := r.hear_cases time deed <;> rw [same] <;>
    exact ⟨rfl, rfl⟩

end Recorder

/-! ### The desk while a recording runs -/

/-- A desk with a recorder that has heard of all that the user has done so far. -/
structure Desk.Records (startKey stopKey : Option Key) (home : Option Point)
    (events : List UserEvent) (d : Desk) (r : Recorder) : Prop where
  recorder : d.recorder = some r
  startKey : r.startKey = startKey
  stopKey : r.stopKey = stopKey
  heard : ∃ delivered, events = delivered ++ d.events ∧ r.Phase home delivered
  timed : Timed r.events d.clock

namespace Desk

variable {r : Recorder}

variable {startKey stopKey : Option Key} {home : Option Point} {events : List UserEvent}

theorem onward_deliver (d : Desk) (e : UserEvent) : Onward d.clock (d.deliver e).2.clock := by
  simp only [deliver]
  split
  · exact .of_lt ‹_›
  · exact .refl d.clock

theorem Records.deliver {d : Desk} {e : UserEvent} {rest : List UserEvent}
    (records : Records startKey stopKey home events { d with events := e :: rest } r) :
    ∃ r', Records startKey stopKey home events (deliver { d with events := rest } e).2 r' ∧
      (r.started = true → r'.started = true) := by
  obtain ⟨recorder, start, stop, ⟨delivered, all, phase⟩, timed⟩ := records
  have clock := onward_deliver { d with events := rest } e
  generalize same : (Desk.deliver { d with events := rest } e).2 = d' at clock ⊢
  have recorder' : d'.recorder = some (r.hear d'.clock e.deed).1 := by
    rw [← same]
    simp [Desk.deliver, show d.recorder = some r from recorder]
  have events' : d'.events = rest := by
    rw [← same]
    rfl
  refine ⟨_, ⟨recorder', (r.hear_keys _ _).1.trans start, (r.hear_keys _ _).2.trans stop,
    ⟨delivered ++ [e], ?_, phase.next _ e⟩, Recorder.timed_hear (timed.later clock) e.deed⟩,
    fun started => Recorder.started_hear started _ _⟩
  rw [all, events', List.append_assoc]
  rfl

theorem Records.deliverUntil {d : Desk} {limit : Float}
    (records : Records startKey stopKey home events d r) (onward : Onward d.clock limit) :
    ∃ r', Records startKey stopKey home events (deliverUntil limit d.events d).2 r' ∧
      (r.started = true → r'.started = true) ∧
      Onward (Desk.deliverUntil limit d.events d).2.clock limit := by
  refine deliverUntil_keeps (fun d => ∃ r', Records startKey stopKey home events d r' ∧
    (r.started = true → r'.started = true) ∧ Onward d.clock limit) ?_ d.events d
    ⟨r, records, id, onward⟩
  rintro d e rest due ⟨r', records', started, onward⟩
  obtain ⟨r'', records'', started'⟩ := records'.deliver
  refine ⟨r'', records'', fun begun => started' (started begun), ?_⟩
  simp only [Desk.deliver]
  split
  · exact .inl due
  · exact onward

/-- A recording that has begun is told where the pointer is. -/
theorem Records.placed {d : Desk}
    (records : Records startKey stopKey none events d r) (started : r.started = true) :
    Records startKey stopKey (some d.cursor) events
      { d with recorder := d.recorder.map fun r => Recording.placed r d.clock d.cursor }
      (Recording.placed r d.clock d.cursor) where
  recorder := by rw [records.recorder, Option.map_some]
  startKey := records.startKey
  stopKey := records.stopKey
  heard := by
    obtain ⟨delivered, all, phase⟩ := records.heard
    exact ⟨delivered, all, phase.placed started d.clock d.cursor⟩
  timed := records.timed.add rfl

end Desk

namespace Recording

variable {r : Recorder} {d : Desk}

open Routine

variable {startKey stopKey : Option Key} {home : Option Point} {events : List UserEvent}

theorem ends_recorder {post : Except Error Recorder → Desk → Prop}
    (known : d.recorder = some r) : recorder.Ends post d ↔ post (.ok r) d := by
  change post (.ok (d.recorder.getD _)) d ↔ _
  rw [known, Option.getD_some]

theorem ends_next (records : d.Records startKey stopKey home events r) :
    Action.deliverNext.Ends
      (OnSuccess fun _ d' => ∃ r', d'.Records startKey stopKey home events r') d := by
  apply Action.ends_deliverNext
  · exact fun _ => trivial
  · intro e rest next
    have same : d = { d with events := e :: rest } := by rw [← next]
    rw [same] at records
    obtain ⟨r', records', -⟩ := records.deliver
    exact ⟨r', records'⟩

theorem ends_rest (records : d.Records startKey stopKey home events r) :
    (Action.sleep 0.01).Ends
      (OnSuccess fun _ d' => ∃ r', d'.Records startKey stopKey home events r') d := by
  apply Action.ends_sleep
  · exact fun _ => trivial
  · intro acts _
    have onward : Onward d.clock (d.clock + 0.01) := .add d.clock (by decide) (by decide)
    obtain ⟨r', records', -, before⟩ := Desk.Records.deliverUntil (d := { d with acts })
      ⟨records.recorder, records.startKey, records.stopKey, records.heard, records.timed⟩ onward
    exact ⟨r', records'.recorder, records'.startKey, records'.stopKey, records'.heard,
      records'.timed.later before⟩

theorem ends_awaitStart
    (records : d.Records startKey stopKey home events r) (fuel : ℕ) :
    (awaitStart fuel).Ends (OnSuccess fun _ d' =>
      ∃ r', d'.Records startKey stopKey home events r' ∧ r'.started = true) d := by
  induction fuel generalizing d r with
  | zero => trivial
  | succ fuel ih =>
    rw [awaitStart, ends_bind, ends_recorder records.recorder, Then]
    split
    · exact ⟨r, records, ‹_›⟩
    · rw [ends_bind]
      refine (ends_next records).mono ?_
      rintro (e | ⟨⟩) d' next
      · trivial
      · obtain ⟨r', records'⟩ := next
        exact ih records'

theorem ends_awaitStop
    (records : d.Records startKey stopKey home events r) (fuel : ℕ) :
    (awaitStop fuel).Ends (OnSuccess fun _ d' =>
      ∃ r', d'.Records startKey stopKey home events r' ∧ r'.stopped = true) d := by
  induction fuel generalizing d r with
  | zero => trivial
  | succ fuel ih =>
    rw [awaitStop, ends_bind, ends_recorder records.recorder, Then]
    split
    · exact ⟨r, records, ‹_›⟩
    · rw [ends_bind]
      refine (ends_next records).mono ?_
      rintro (e | ⟨⟩) d' next
      · trivial
      · obtain ⟨r', records'⟩ := next
        rw [Then, ends_bind, ends_recorder records'.recorder, Then]
        split
        · exact ⟨r', records', ‹_›⟩
        · rw [ends_bind]
          refine (ends_rest records').mono ?_
          rintro (e | ⟨⟩) d' rested
          · trivial
          · obtain ⟨r', records'⟩ := rested
            exact ih records'

/-! ### What becomes of the events -/

theorem sort_of_timed {events : List RecordedEvent} (timed : Timed events clock) :
    events.mergeSort notLater = events := by
  obtain ⟨times, stamps, ordered⟩ := timed
  have pairs : (events.map (·.timestamp)).Pairwise
      fun v w => ∀ s t, v = .float s → w = .float t → ¬ t < s := by
    rw [stamps, List.pairwise_map]
    refine (List.pairwise_append.mp ordered).1.imp fun onward s' t' => ?_
    rintro ⟨⟩ ⟨⟩
    exact onward.not_lt
  apply List.mergeSort_of_pairwise
  refine (List.pairwise_map.mp pairs).imp fun {a b} order => ?_
  simp only [notLater]
  split
  · rename_i s t earlier later
    simpa using order s t earlier later
  · rfl

theorem attachDurations_keeps {events timed : List RecordedEvent}
    (done : attachDurations events = .ok timed) : timed.map bare = events.map bare := by
  induction events generalizing timed with
  | nil =>
    cases done
    rfl
  | cons e rest ih =>
    cases rest with
    | nil =>
      cases done
      rfl
    | cons next rest =>
      rw [attachDurations] at done
      obtain ⟨ms, -, done⟩ := bind_ok done
      obtain ⟨more, later, last⟩ := bind_ok done
      cases last
      rw [List.map_cons, ih later]
      rfl

theorem strokes_bare (events : List RecordedEvent) :
    strokes (events.map bare) = (strokes events).map bare := List.filter_map

theorem tells_bare {events : List RecordedEvent} {deeds : List Deed} :
    List.Forall₂ RecordedEvent.Tells (events.map bare) deeds ↔
      List.Forall₂ RecordedEvent.Tells events deeds := by
  rw [List.forall₂_map_left_iff]
  refine ⟨fun all => all.imp ?_, fun all => all.imp ?_⟩ <;> intro e deed tells <;>
    cases deed <;> exact tells

/-- What a recording is made of, once its recorder has stopped. -/
theorem finish_keeps {far : RecordedEvent → RecordedEvent → Except Error Bool}
    {events recorded : List RecordedEvent} {home : Option Point} {deeds : List Deed}
    {done : List UserEvent} (timed : Timed events clock) (tally : Tally events home deeds done)
    (finished : (squash far events >>= attachDurations) = .ok recorded) :
    Tally recorded home deeds done ∧
      ∃ times : List Float, recorded.map (·.timestamp) = times.map .float ∧
        times.Pairwise fun s t => ¬ t < s := by
  obtain ⟨squashed, squashes, attaches⟩ := bind_ok finished
  obtain ⟨parts, parted⟩ := squash_parts squashes
  obtain ⟨kept, fewer, -⟩ := parted.same
  have same := attachDurations_keeps attaches
  rw [← same] at fewer
  refine ⟨⟨?_, fun e member move => ?_⟩, ?_⟩
  · rw [← tells_bare, ← strokes_bare, same, strokes_bare, tells_bare, kept]
    exact tally.told
  · obtain ⟨e', member', same'⟩ := List.mem_map.mp (fewer.subset (List.mem_map_of_mem member))
    have target : e'.target = e.target := congrArg (·.target) same'
    have move' : e'.isMove = true := (congrArg (·.isMove) same').trans move
    obtain ⟨p, place, known⟩ := tally.led e' member' move'
    exact ⟨p, target.symm.trans place, known⟩
  · obtain ⟨times, stamps, ordered⟩ := timed
    have fewer' := fewer.map (·.timestamp)
    rw [stamps_bare, stamps_bare, stamps, List.sublist_map_iff] at fewer'
    obtain ⟨some, some_sublist, same⟩ := fewer'
    exact ⟨some, same, ((List.pairwise_append.mp ordered).1.sublist some_sublist).imp Onward.not_lt⟩

theorem listening_ok {startName stopName : Value}
    (listens : listening startName stopName = .ok r) :
    listenedKey startName (.special "space") = .ok r.startKey ∧
      listenedKey stopName (.special "esc") = .ok r.stopKey ∧
      ∀ d : Desk,
        ({ d with recorder := some r } : Desk).Records r.startKey r.stopKey none d.events r := by
  obtain ⟨startKey, start, listens⟩ := bind_ok listens
  obtain ⟨stopKey, stop, listens⟩ := bind_ok listens
  cases listens
  exact ⟨start, stop, fun d => ⟨rfl, rfl, rfl, ⟨[], rfl, .waiting rfl rfl rfl (by simp) rfl⟩,
    RecordedEvent.timed_nil d.clock⟩⟩

/-- What has been gathered in the end comes from a recorder that has stopped. -/
theorem ends_gather (startName stopName : Value) (d : Desk) :
    (gather startName stopName).Ends (OnSuccess fun events d' => Timed events d'.clock ∧
      ∃ r : Recorder, listenedKey startName (.special "space") = .ok r.startKey ∧
        listenedKey stopName (.special "esc") = .ok r.stopKey ∧ r.stopped = true ∧
        r.events = events ∧ ∃ delivered home, d.events = delivered ++ d'.events ∧
        r.Phase (some home) delivered) d := by
  rw [gather, ends_bind, ends_lift]
  cases listens : listening startName stopName with
  | error e => trivial
  | ok r₀ =>
    obtain ⟨start, stop, records⟩ := listening_ok listens
    rw [Then, ends_bind, Action.ends_sayLine, Then, ends_bind, ends_modify, Then, ends_bind,
      ends_get, Then, ends_bind]
    refine (ends_awaitStart (records d) _).mono ?_
    rintro (e | ⟨⟩) d₁ begun
    · trivial
    · obtain ⟨r₁, records₁, started₁⟩ := begun
      obtain ⟨r₂, records₂, started₂, -⟩ := records₁.deliverUntil (.refl d₁.clock)
      rw [Then, ends_bind, Action.ends_heard, Then, ends_bind, ends_modify, Then, ends_bind,
        ends_get, Then, ends_bind]
      refine (ends_awaitStop (records₂.placed (started₂ started₁)) _).mono ?_
      rintro (e | ⟨⟩) d₃ ended
      · trivial
      · obtain ⟨r₃, records₃, stopped⟩ := ended
        rw [Then, ends_bind, ends_recorder records₃.recorder, Then, ends_bind, ends_modify, Then,
          ends_pure]
        obtain ⟨delivered, all, phase⟩ := records₃.heard
        exact ⟨records₃.timed, r₃, start.trans (by rw [records₃.startKey]),
          stop.trans (by rw [records₃.stopKey]), stopped, rfl, delivered, _, all, phase⟩

/-- A recording is what has been gathered, squashed and with durations: sorting changes nothing. -/
theorem record_ok_iff {threshold startName stopName : Value} {d d' : Desk} {c : Console}
    {recorded : List RecordedEvent} :
    (∃ c', (record threshold startName stopName).run (d, c) = .ok recorded (d', c')) ↔
      ∃ events c', (gather startName stopName).run (d, c) = .ok events (d', c') ∧
        (squash (farther threshold) events >>= attachDurations) = .ok recorded := by
  constructor
  · rintro ⟨c', done⟩
    obtain ⟨events, ⟨d₁, c₁⟩, gathers, rest⟩ := run_bind_ok.mp done
    obtain ⟨timed, -⟩ := (ends_gather startName stopName d).of_run_ok gathers
    rw [sort_of_timed timed] at rest
    obtain ⟨squashed, _, lifted, rest⟩ := run_bind_ok.mp rest
    obtain ⟨squashes, rfl⟩ := run_lift_ok.mp lifted
    obtain ⟨attached, _, lifted, rest⟩ := run_bind_ok.mp rest
    obtain ⟨attaches, rfl⟩ := run_lift_ok.mp lifted
    cases rest
    exact ⟨events, c₁, gathers, by rw [squashes]; exact attaches⟩
  · rintro ⟨events, c₁, gathers, finished⟩
    obtain ⟨timed, -⟩ := (ends_gather startName stopName d).of_run_ok gathers
    cases squashes : squash (farther threshold) events with
    | error e =>
      rw [squashes] at finished
      cases finished
    | ok squashed =>
      rw [squashes] at finished
      refine ⟨c₁.say .script
        (s!"✓ Recording stopped! Captured {recorded.length} events (compressed).\n" ++ "\n"),
        run_bind_ok.mpr ⟨events, (d', c₁), gathers, ?_⟩⟩
      rw [sort_of_timed timed]
      refine run_bind_ok.mpr ⟨squashed, (d', c₁), run_lift_ok.mpr ⟨squashes, rfl⟩, ?_⟩
      exact run_bind_ok.mpr ⟨recorded, (d', c₁), run_lift_ok.mpr ⟨finished, rfl⟩, rfl⟩

/-- A recording loses and duplicates nothing. What the user does falls into five parts: what comes
before the start key is pressed, that press, what comes before the stop key is pressed, that
press, and what is delivered after it. The strokes of the recording are those of the third part,
one for each and in their order, and after them the clicks of the last part. Its moves lead to the
place where the pointer was found at the start, or to where the user moved it in those two parts.
Its time stamps do not decrease. -/
theorem record_tells_each_stroke_once {threshold startName stopName : Value} {d d' : Desk}
    {c c' : Console} {recorded : List RecordedEvent}
    (done : (record threshold startName stopName).run (d, c) = .ok recorded (d', c')) :
    ∃ (startKey stopKey : Key) (before between after : List UserEvent) (start stop : UserEvent),
      listenedKey startName (.special "space") = .ok (some startKey) ∧
      listenedKey stopName (.special "esc") = .ok (some stopKey) ∧
      d.events = before ++ start :: between ++ stop :: after ++ d'.events ∧
      (∀ e ∈ before, e.deed ≠ .press startKey) ∧ start.deed = .press startKey ∧
      (∀ e ∈ between, e.deed ≠ .press stopKey) ∧ stop.deed = .press stopKey ∧
      List.Forall₂ RecordedEvent.Tells (recorded.filter (!·.isMove))
        ((between.map (·.deed)).filter Deed.isStroke ++ (after.map (·.deed)).filter Deed.isClick) ∧
      (∃ home : Point, ∀ e ∈ recorded, e.isMove = true → ∃ p : Point,
        e.target = some [.int p.x, .int p.y] ∧
          (p = home ∨ ∃ u ∈ between ++ after, u.deed = .move p)) ∧
      ∃ times : List Float, recorded.map (·.timestamp) = times.map .float ∧
        times.Pairwise fun s t => ¬ t < s := by
  obtain ⟨events, c₁, gathers, finished⟩ := record_ok_iff.mp ⟨c', done⟩
  obtain ⟨timed, r, start, stop, stopped, rfl, delivered, home, all, phase⟩ :=
    (ends_gather startName stopName d).of_run_ok gathers
  obtain ⟨startKey, stopKey, before, between, after, first, last, first_key, last_key, parts, early,
    opens, during, closes, tally⟩ := phase.parts stopped
  obtain ⟨⟨told, led⟩, stamps⟩ := finish_keeps timed tally finished
  refine ⟨startKey, stopKey, before, between, after, first, last, by rw [start, first_key],
    by rw [stop, last_key], by rw [all, parts], early, opens, during, closes, told, ⟨home, ?_⟩,
    stamps⟩
  intro e member move
  obtain ⟨p, target, known | moved⟩ := led e member move
  · exact ⟨p, target, .inl (Option.some.inj known).symm⟩
  · exact ⟨p, target, .inr moved⟩

/-- A user who starts a recording, taps a key, moves, clicks and stops, all but the first before the
recording looks again whether it is over. -/
def tapping : Desk :=
  { events := [⟨0.5, .press (.typed "b")⟩, ⟨1, .press (.special "space")⟩,
      ⟨1.2, .release (.special "space")⟩, ⟨2, .press (.typed "a")⟩, ⟨2.001, .move ⟨9, 9⟩⟩,
      ⟨2.002, .click ⟨9, 9⟩ .left true⟩, ⟨2.004, .press (.special "esc")⟩,
      ⟨2.006, .click ⟨9, 9⟩ .left false⟩, ⟨5, .release (.special "esc")⟩] }

/-- Whether a recording with the usual keys, and the desk after it, pass a test. -/
def recordsSuch (d : Desk) (such : List RecordedEvent → Desk → Bool) : Bool :=
  match (gather .null .null).run (d, {}) with
  | .ok events (d', _) =>
    match squash (farther (.int 50)) events >>= attachDurations with
    | .ok recorded => such recorded d'
    | .error _ => false
  | .error _ _ => false

theorem of_recordsSuch {such : List RecordedEvent → Desk → Bool}
    (passed : recordsSuch d such = true) :
    ∃ recorded d' c', (record (.int 50) .null .null).run (d, {}) = .ok recorded (d', c') ∧
      such recorded d' = true := by
  unfold recordsSuch at passed
  split at passed
  · rename_i events d' c' gathers
    split at passed
    · rename_i recorded finished
      obtain ⟨c'', done⟩ := record_ok_iff.mpr ⟨events, c', gathers, finished⟩
      exact ⟨recorded, d', c'', done, passed⟩
    · cases passed
  · cases passed

theorem record_tells_each_stroke_once_tapping : ∃ recorded d' c',
    (record (.int 50) .null .null).run (tapping, {}) = .ok recorded (d', c') ∧
    recorded.length = 6 ∧ d'.events.length = 1 ∧
    ∃ (before between after : List UserEvent) (start stop : UserEvent),
      tapping.events = before ++ start :: between ++ stop :: after ++ d'.events ∧
      List.Forall₂ RecordedEvent.Tells (recorded.filter (!·.isMove))
        ((between.map (·.deed)).filter Deed.isStroke ++
          (after.map (·.deed)).filter Deed.isClick) := by
  have passed : recordsSuch tapping (fun recorded d' =>
      recorded.length = 6 ∧ d'.events.length = 1) = true := by
    decide +kernel
  obtain ⟨recorded, d', c', done, such⟩ := of_recordsSuch passed
  obtain ⟨count, left⟩ := of_decide_eq_true such
  obtain ⟨-, -, before, between, after, start, stop, -, -, parts, -, -, -, -, told, -, -⟩ :=
    record_tells_each_stroke_once done
  exact ⟨recorded, d', c', done, count, left, before, between, after, start, stop, parts, told⟩

end Recording

end DeskScript
