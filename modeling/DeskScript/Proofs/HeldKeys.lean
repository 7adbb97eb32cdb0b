import DeskScript.Proofs.KeyTexts
import DeskScript.Proofs.Recorded

/-!
# Keys that are held

On a keyboard each press of a key is followed by its release before the key is pressed again. What
is recorded of a key is what the user does with it between the start key and the stop key. So its
presses and releases take turns as well, but they begin with a release if the key is down when the
recording begins, as the start key always is.
-/

namespace DeskScript

/-! ### Strokes of one key -/

/-- Whether a deed presses the key, or releases it. -/
def Deed.stroke? (key : Key) : Deed → Option Bool
  | .press k => if k = key then some true else none
  | .release k => if k = key then some false else none
  | _ => none

/-- Whether a recorded event presses the key, or releases it. -/
def RecordedEvent.stroke? (key : Key) (e : RecordedEvent) : Option Bool :=
  if holds e.key key.text then
    if holds e.kind "key_down" then some true
    else if holds e.kind "key_up" then some false
    else none
  else none

/-- All that a user does with a key, a press being `true`. -/
def strokesOf (key : Key) (events : List UserEvent) : List Bool :=
  events.filterMap (·.deed.stroke? key)

/-- All that a recording does with a key. -/
def recordedStrokesOf (key : Key) (events : List RecordedEvent) : List Bool :=
  events.filterMap (·.stroke? key)

/-- Presses and releases that take turns, beginning with a press or with a release. -/
def TakeTurns : Bool → List Bool → Prop
  | _, [] => True
  | down, stroke :: rest => stroke = down ∧ TakeTurns (!down) rest

/-- A key that was pressed last. -/
def Held (key : Key) (events : List UserEvent) : Prop :=
  (strokesOf key events).getLast? = some true

instance (key : Key) (events : List UserEvent) : Decidable (Held key events) :=
  inferInstanceAs (Decidable (_ = _))

/-- Whose turn it is after some strokes depends on the last one. -/
theorem takeTurns_append {down : Bool} {first second : List Bool}
    (turns : TakeTurns down (first ++ second)) :
    TakeTurns (first.getLast?.elim down (!·)) second := by
  induction first generalizing down with
  | nil => exact turns
  | cons stroke rest ih =>
    obtain ⟨rfl, turns⟩ := turns
    cases rest with
    | nil => exact turns
    | cons next rest =>
      have later := ih turns
      rw [List.getLast?_cons] at later
      rwa [List.getLast?_cons_cons, List.getLast?_cons]

theorem takeTurns_prefix {down : Bool} {first second : List Bool}
    (turns : TakeTurns down (first ++ second)) : TakeTurns down first := by
  induction first generalizing down with
  | nil => trivial
  | cons stroke rest ih => exact ⟨turns.1, ih turns.2⟩

theorem strokesOf_append (key : Key) (first second : List UserEvent) :
    strokesOf key (first ++ second) = strokesOf key first ++ strokesOf key second :=
  List.filterMap_append

/-! ### What is recorded of a key -/

namespace Recording

open RecordedEvent (strokes)

/-- A deed with a key that a keyboard has, if with any. -/
def OnRealKeys (deed : Deed) : Prop :=
  ∀ key, deed = .press key ∨ deed = .release key → key.Real

variable {key : Key}

theorem stroke?_of_tells {e : RecordedEvent} {deed : Deed} (tells : e.Tells deed)
    (onReal : OnRealKeys deed) (real : key.Real) : e.stroke? key = deed.stroke? key := by
  have texts {k : Key} (real' : k.Real) : k.text = key.text ↔ k = key :=
    ⟨Key.text_injective real' real, fun same => by rw [same]⟩
  cases deed with
  | press k =>
    simp [RecordedEvent.stroke?, Deed.stroke?, RecordedEvent.holds, tells.1, tells.2.1,
      texts (onReal k (.inl rfl))]
  | release k =>
    simp [RecordedEvent.stroke?, Deed.stroke?, RecordedEvent.holds, tells.1, tells.2.1,
      texts (onReal k (.inr rfl))]
  | move p => exact tells.elim
  | click p button down =>
    simp [RecordedEvent.stroke?, Deed.stroke?, RecordedEvent.holds, tells.1]

theorem filterMap_stroke?_of_tells {events : List RecordedEvent} {deeds : List Deed}
    (told : List.Forall₂ RecordedEvent.Tells events deeds)
    (onReal : ∀ deed ∈ deeds, OnRealKeys deed) (real : key.Real) :
    events.filterMap (·.stroke? key) = deeds.filterMap (·.stroke? key) := by
  induction told with
  | nil => rfl
  | cons tells rest ih =>
    rw [List.forall_mem_cons] at onReal
    rw [List.filterMap_cons, List.filterMap_cons, stroke?_of_tells tells onReal.1 real, ih onReal.2]

theorem recordedStrokesOf_strokes (key : Key) (events : List RecordedEvent) :
    recordedStrokesOf key (strokes events) = recordedStrokesOf key events := by
  rw [recordedStrokesOf, recordedStrokesOf, strokes, List.filterMap_filter]
  apply List.filterMap_congr
  intro e _
  cases move : e.isMove with
  | false => rfl
  | true =>
    have kind : e.kind = .text "mouse_move" := RecordedEvent.holds_iff.mp move
    simp [RecordedEvent.stroke?, RecordedEvent.holds, kind]

theorem filterMap_stroke?_deeds (key : Key) (between after : List UserEvent) :
    ((between.map (·.deed)).filter Deed.isStroke ++
      (after.map (·.deed)).filter Deed.isClick).filterMap (·.stroke? key) =
    strokesOf key between := by
  have clicks : ((after.map (·.deed)).filter Deed.isClick).filterMap (·.stroke? key) = [] := by
    rw [List.filterMap_eq_nil_iff]
    intro deed member
    have click := (List.mem_filter.mp member).2
    cases deed with
    | click p button down => rfl
    | _ => cases click
  rw [List.filterMap_append, clicks, List.append_nil, List.filterMap_filter, List.filterMap_map,
    strokesOf]
  apply List.filterMap_congr
  intro e _
  simp only [Function.comp_apply]
  cases e.deed <;> rfl

/-- What is recorded of a key is what the user does with it between the start and the stop. -/
theorem recordedStrokesOf_told {recorded : List RecordedEvent} {between after : List UserEvent}
    (real : key.Real)
    (told : List.Forall₂ RecordedEvent.Tells (strokes recorded)
      ((between.map (·.deed)).filter Deed.isStroke ++ (after.map (·.deed)).filter Deed.isClick))
    (onReal : ∀ e ∈ between ++ after, OnRealKeys e.deed) :
    recordedStrokesOf key recorded = strokesOf key between := by
  have deeds : ∀ deed ∈ (between.map (·.deed)).filter Deed.isStroke ++
      (after.map (·.deed)).filter Deed.isClick, OnRealKeys deed := by
    intro deed member
    rw [List.mem_append, List.mem_filter, List.mem_filter, List.mem_map, List.mem_map] at member
    obtain ⟨⟨e, among, rfl⟩, -⟩ | ⟨⟨e, among, rfl⟩, -⟩ := member
    · exact onReal e (List.mem_append_left _ among)
    · exact onReal e (List.mem_append_right _ among)
  rw [← recordedStrokesOf_strokes, recordedStrokesOf, filterMap_stroke?_of_tells told deeds real,
    filterMap_stroke?_deeds]

/-- After strokes that take turns it is the turn of a press, unless the key is held. -/
theorem takeTurns_after {before between rest : List UserEvent}
    (turns : TakeTurns true (strokesOf key (before ++ between ++ rest))) :
    TakeTurns (!decide (Held key before)) (strokesOf key between) := by
  rw [strokesOf_append, strokesOf_append, List.append_assoc] at turns
  have later := takeTurns_prefix (takeTurns_append turns)
  cases last : (strokesOf key before).getLast? with
  | none => simpa [Held, last] using later
  | some stroke => cases stroke <;> simpa [Held, last] using later

theorem takeTurns_both_iff {held : Bool} {strokes : List Bool} (turns : TakeTurns (!held) strokes) :
    TakeTurns true strokes ↔ held = false ∨ strokes = [] := by
  cases strokes with
  | nil => exact ⟨fun _ => .inr rfl, fun _ => trivial⟩
  | cons stroke rest =>
    constructor
    · intro pressed
      have same : true = !held := pressed.1.symm.trans turns.1
      exact .inl (by simpa using same)
    · rintro (free | none)
      · rwa [free] at turns
      · cases none

/-- The presses and releases of a key in a recording are those of the user between the start key
and the stop key. If the user presses and releases each key in turns, so does the recording; but a
key that is down right after the start key has been pressed, as that one is, is released first. -/
theorem record_takes_turns {threshold startName stopName : Value} {d d' : Desk} {c c' : Console}
    {recorded : List RecordedEvent}
    (done : (record threshold startName stopName).run (d, c) = .ok recorded (d', c'))
    (onReal : ∀ e ∈ d.events, OnRealKeys e.deed)
    (turns : ∀ key, TakeTurns true (strokesOf key d.events)) :
    ∃ (startKey : Key) (before rest : List UserEvent) (start : UserEvent),
      listenedKey startName (.special "space") = .ok (some startKey) ∧
      d.events = before ++ start :: rest ∧ (∀ e ∈ before, e.deed ≠ .press startKey) ∧
      start.deed = .press startKey ∧ Held startKey (before ++ [start]) ∧
      ∀ key, key.Real →
        TakeTurns (!decide (Held key (before ++ [start]))) (recordedStrokesOf key recorded) ∧
        (TakeTurns true (recordedStrokesOf key recorded) ↔
          ¬ Held key (before ++ [start]) ∨ recordedStrokesOf key recorded = []) := by
  obtain ⟨events, c₁, gathers, finished⟩ := record_ok_iff.mp ⟨c', done⟩
  obtain ⟨timed, r, start, stop, stopped, rfl, delivered, home, all, phase⟩ :=
    (ends_gather startName stopName d).of_run_ok gathers
  obtain ⟨startKey, stopKey, before, between, after, first, last, first_key, -, parts, early, opens,
    -, -, tally⟩ := phase.parts stopped
  obtain ⟨⟨told, -⟩, -⟩ := finish_keeps timed tally finished
  -- The strokes of the user are those up to the start, those in between and the others.
  have spread : d.events = (before ++ [first]) ++ between ++ (last :: after ++ d'.events) := by
    simp [all, parts]
  have held : Held startKey (before ++ [first]) := by
    simp [Held, strokesOf, opens, Deed.stroke?]
  refine ⟨startKey, before, between ++ (last :: after ++ d'.events), first,
    by rw [start, first_key], by simp [spread], early, opens, held, ?_⟩
  intro key real
  have same : recordedStrokesOf key recorded = strokesOf key between := by
    apply recordedStrokesOf_told real told
    intro e among
    apply onReal
    rw [spread]
    simp only [List.mem_append, List.mem_cons] at among ⊢
    tauto
  have recorded_turns := takeTurns_after (spread ▸ turns key)
  rw [← same] at recorded_turns
  refine ⟨recorded_turns, ?_⟩
  rw [takeTurns_both_iff recorded_turns, decide_eq_false_iff_not]

/-- A user who holds a key when the recording starts, and releases it after typing a letter. -/
def shifting : Desk :=
  { events := [⟨0.5, .press (.special "shift")⟩, ⟨1, .press (.special "space")⟩,
      ⟨1.25, .release (.special "space")⟩, ⟨2, .press (.typed "a")⟩, ⟨2.25, .release (.typed "a")⟩,
      ⟨2.5, .release (.special "shift")⟩, ⟨3, .press (.special "esc")⟩] }

theorem shifting_takes_turns (key : Key) : TakeTurns true (strokesOf key shifting.events) := by
  by_cases shift : Key.special "shift" = key
  · subst shift
    exact ⟨rfl, rfl, trivial⟩
  by_cases space : Key.special "space" = key
  · subst space
    exact ⟨rfl, rfl, trivial⟩
  by_cases letter : Key.typed "a" = key
  · subst letter
    exact ⟨rfl, rfl, trivial⟩
  by_cases esc : Key.special "esc" = key
  · subst esc
    exact ⟨rfl, trivial⟩
  have none : strokesOf key shifting.events = [] := by
    simp [strokesOf, shifting, Deed.stroke?, shift, space, letter, esc]
  rw [none]
  trivial

theorem shifting_onRealKeys : ∀ e ∈ shifting.events, OnRealKeys e.deed := by
  have letter : Key.Real (.typed (Text.single 97)) := .typed (by decide)
  have shift : Key.Real (.special "shift") := .special (by decide)
  have space : Key.Real (.special "space") := .special (by decide)
  have esc : Key.Real (.special "esc") := .special (by decide)
  rw [show Text.single 97 = "a" by decide] at letter
  intro e among key touched
  simp only [shifting, List.mem_cons, List.not_mem_nil, or_false] at among
  rcases among with rfl | rfl | rfl | rfl | rfl | rfl | rfl <;> grind

theorem record_takes_turns_shifting : ∃ recorded d' c',
    (record (.int 50) .null .null).run (shifting, {}) = .ok recorded (d', c') ∧
    recordedStrokesOf (.typed "a") recorded = [true, false] ∧
    recordedStrokesOf (.special "shift") recorded = [false] ∧
    ∃ (before rest : List UserEvent) (start : UserEvent),
      shifting.events = before ++ start :: rest ∧ Held (.special "space") (before ++ [start]) ∧
      ∀ key, key.Real →
        TakeTurns (!decide (Held key (before ++ [start]))) (recordedStrokesOf key recorded) := by
  have passed : recordsSuch shifting (fun recorded _ =>
      recordedStrokesOf (.typed "a") recorded = [true, false] ∧
      recordedStrokesOf (.special "shift") recorded = [false]) = true := by
    decide +kernel
  obtain ⟨recorded, d', c', done, such⟩ := of_recordsSuch passed
  obtain ⟨typed, held⟩ := of_decide_eq_true such
  obtain ⟨startKey, before, rest, start, usual, parts, -, -, down, turns⟩ :=
    record_takes_turns done shifting_onRealKeys shifting_takes_turns
  cases usual
  exact ⟨recorded, d', c', done, typed, held, before, rest, start, parts, down,
    fun key real => (turns key real).1⟩

theorem start_key_is_released_first :
    (∀ e ∈ shifting.events, OnRealKeys e.deed) ∧
    (∀ key, TakeTurns true (strokesOf key shifting.events)) ∧
    ∃ recorded d' c', (record (.int 50) .null .null).run (shifting, {}) = .ok recorded (d', c') ∧
      recordedStrokesOf (.special "space") recorded = [false] ∧
      ¬ TakeTurns true (recordedStrokesOf (.special "space") recorded) := by
  have passed : recordsSuch shifting (fun recorded _ =>
      recordedStrokesOf (.special "space") recorded = [false]) = true := by
    decide +kernel
  obtain ⟨recorded, d', c', done, such⟩ := of_recordsSuch passed
  have first : recordedStrokesOf (.special "space") recorded = [false] := of_decide_eq_true such
  refine ⟨shifting_onRealKeys, shifting_takes_turns, recorded, d', c', done, first, ?_⟩
  rw [first]
  rintro ⟨⟨⟩, -⟩

end Recording

end DeskScript
