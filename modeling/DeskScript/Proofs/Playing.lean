import DeskScript.Proofs.Endings
import DeskScript.Recording.Playback

/-!
# What a playback does

A playback presses and releases what the recording says, event by event, while the user goes on
with what they do. Waiting and moving the pointer press and release nothing; they only let the user
go on, and the listener for the stop key hears of it. So what has been pressed and released at any
end of a playback is a first part of what the recording says.
-/

namespace DeskScript

open Routine

/-- A press or a release of a key or a button. -/
structure Touch where
  label : String
  down : Bool
  deriving DecidableEq, Repr

/-- The press or the release that a device did. -/
def DeviceAct.touch? : DeviceAct → Option Touch
  | .press label => some ⟨label, true⟩
  | .release label => some ⟨label, false⟩
  | _ => none

/-- All presses and releases among what devices did. -/
def touches (acts : Array DeviceAct) : List Touch := acts.toList.filterMap (·.touch?)

theorem touches_push (acts : Array DeviceAct) (act : DeviceAct) :
    touches (acts.push act) = touches acts ++ act.touch?.toList := by
  rw [touches, Array.toList_push, List.filterMap_append, touches]
  cases act <;> rfl

/-- The press or the release that a recorded event asks for: a click with coordinates asks for
that of its button, a key event for that of its key, if it has one. -/
def RecordedEvent.touch? (e : RecordedEvent) : Option Touch :=
  if e.isClick then
    if e.place?.isSome then
      (Recording.clickedButton e.key).toOption.map (⟨·, holds e.action "down"⟩)
    else none
  else if holds e.kind "key_down" then (Recording.recordedKey? e.key).map (⟨·.label, true⟩)
  else if holds e.kind "key_up" then (Recording.recordedKey? e.key).map (⟨·.label, false⟩)
  else none

/-! ### While the user goes on -/

/-- A listener after deeds of the user. -/
def StopWatch.after (s : StopWatch) (done : List UserEvent) : StopWatch :=
  done.foldl (fun s e => (s.hear e.deed).1) s

/-- A listener is stopped by its key. -/
theorem StopWatch.stopped_after (key : Key) (done : List UserEvent) :
    (({ key } : StopWatch).after done).stopped = true ↔ ∃ e ∈ done, e.deed = .press key := by
  -- A listener that has been stopped hears nothing more, so the first press of its key decides.
  have idle (s : StopWatch) (inactive : s.active = false) (done : List UserEvent) :
      s.after done = s := by
    induction done with
    | nil => rfl
    | cons e rest ih =>
      have deaf : (s.hear e.deed).1 = s := by
        cases e.deed <;> simp [hear, inactive]
      rw [after, List.foldl_cons, deaf]
      exact ih
  induction done with
  | nil => simp [after]
  | cons e rest ih =>
    rw [after, List.foldl_cons, ← after]
    by_cases stops : e.deed = .press key
    · rw [stops]
      simp [hear, idle, stops]
    · have ignored : (({ key } : StopWatch).hear e.deed).1 = { key } := by
        cases deed : e.deed with
        | press other =>
          have different : key ≠ other := by
            rintro rfl
            exact stops deed
          simp [hear, different]
        | _ => rfl
      rw [ignored]
      exact ih.trans (by simp [stops])

variable {made : List Touch}

namespace Desk

/-- From one moment to a later one the user has done some deeds, of which the listeners have heard,
and devices have made some presses and releases. -/
structure Goes (d : Desk) (done : List UserEvent) (made : List Touch) (d' : Desk) : Prop where
  events : d.events = done ++ d'.events
  watches : d'.watches = d.watches.map (·.after done)
  touches : touches d'.acts = touches d.acts ++ made

/-- The user has done nothing in the meantime. -/
theorem goes_of_events {d d' : Desk} (events : d'.events = d.events)
    (watches : d'.watches = d.watches)
    (touched : DeskScript.touches d'.acts = DeskScript.touches d.acts ++ made) :
    d.Goes [] made d' :=
  ⟨events.symm, by simp [watches, StopWatch.after], touched⟩

theorem Goes.refl (d : Desk) : d.Goes [] [] d := goes_of_events rfl rfl (List.append_nil _).symm

theorem Goes.trans {d d₁ d₂ : Desk} {done later : List UserEvent} {more : List Touch}
    (first : d.Goes done made d₁) (second : d₁.Goes later more d₂) :
    d.Goes (done ++ later) (made ++ more) d₂ where
  events := by rw [first.events, second.events, List.append_assoc]
  watches := by
    rw [second.watches, first.watches, List.map_map]
    simp [StopWatch.after, Function.comp_def]
  touches := by rw [second.touches, first.touches, List.append_assoc]

theorem goes_deliver {d : Desk} (e : UserEvent) (rest : List UserEvent)
    (next : d.events = e :: rest) : d.Goes [e] [] (deliver { d with events := rest } e).2 where
  events := next
  watches := by simp [deliver, StopWatch.after]
  touches := (List.append_nil _).symm

theorem goes_deliverUntil (limit : Float) (d : Desk) :
    ∃ done, d.Goes done [] (deliverUntil limit d.events d).2 := by
  refine deliverUntil_keeps (fun d' => ∃ done, d.Goes done [] d') ?_ d.events d ⟨[], Goes.refl d⟩
  rintro d' e rest - ⟨done, goes⟩
  exact ⟨_, goes.trans (goes_deliver e rest rfl)⟩

end Desk

/-! ### Actions that press nothing -/

/-- An action that presses and releases nothing, however it ends. -/
def Action.Quiet {α : Type} (a : Action α) : Prop :=
  ∀ d : Desk, a.Ends (fun _ d' => ∃ done, d.Goes done [] d') d

namespace Action

variable {α β : Type}

@[grind ←] theorem quiet_pure (a : α) : (pure a : Action α).Quiet := fun d => ⟨[], .refl d⟩

@[grind ←] theorem quiet_throw (e : Error) : (throw e : Action α).Quiet := fun d => ⟨[], .refl d⟩

@[grind ←] theorem quiet_lift (x : Except Error α) : (liftM x : Action α).Quiet :=
  fun d => ends_lift.mpr ⟨[], .refl d⟩

@[grind ←] theorem quiet_get : (get : Action Desk).Quiet := fun d => ⟨[], .refl d⟩

@[grind ←] theorem Quiet.bind {x : Action β} {f : β → Action α} (first : x.Quiet)
    (rest : ∀ b, (f b).Quiet) : (x >>= f).Quiet := by
  intro d
  refine ends_bind.mpr ((first d).mono ?_)
  rintro (e | b) d' ⟨done, goes⟩
  · exact ⟨done, goes⟩
  · refine (rest b d').mono ?_
    rintro result d'' ⟨later, goes'⟩
    exact ⟨done ++ later, goes.trans goes'⟩

@[grind ←] theorem quiet_random : random.Quiet :=
  fun d => ⟨[], Desk.goes_of_events rfl rfl (List.append_nil (touches d.acts)).symm⟩

@[grind ←] theorem quiet_note {act : DeviceAct} (quiet : act.touch? = none) : (note act).Quiet :=
  fun d => ⟨[], Desk.goes_of_events rfl rfl (by simp [touches_push, quiet])⟩

@[grind ←] theorem quiet_sleep (seconds : Float) : (sleep seconds).Quiet := by
  intro d
  refine ends_sleep (fun e => ⟨[], .refl d⟩) fun acts noted => ?_
  obtain ⟨done, goes⟩ := Desk.goes_deliverUntil (d.clock + seconds) { d with acts }
  refine ⟨done, goes.events, goes.watches, goes.touches.trans ?_⟩
  obtain rfl | rfl := noted
  · rfl
  · simp [touches_push, DeviceAct.touch?]

end Action

namespace Chance

@[grind ←] theorem quiet_uniform (low high : Value) : (uniform low high).Quiet := by
  unfold uniform
  grind

@[grind ←] theorem quiet_uniformReal (low high : Float) : (uniformReal low high).Quiet := by
  unfold uniformReal
  grind

@[grind ←] theorem quiet_drawBelow (limit : Float) (fuel : Nat) : (drawBelow limit fuel).Quiet := by
  induction fuel with
  | zero => exact Action.quiet_throw _
  | succ fuel ih =>
    unfold drawBelow
    grind

@[grind ←] theorem quiet_below (n : Int) : (below n).Quiet := by
  unfold below
  grind

@[grind ←] theorem quiet_choice {α : Type} (a b : α) : (choice a b).Quiet := by
  unfold choice
  grind

end Chance

namespace Pointer

@[grind ←] theorem quiet_position : position.Quiet := by
  unfold position
  grind

@[grind ←] theorem quiet_jump (x y duration : Value) : (jump x y duration).Quiet := by
  unfold jump
  refine (Action.quiet_note rfl).bind fun _ => ?_
  refine (Action.quiet_lift _).bind fun _ => (Action.quiet_lift _).bind fun _ => ?_
  exact fun d => ⟨[], Desk.goes_of_events rfl rfl (List.append_nil (touches d.acts)).symm⟩

@[grind ←] theorem quiet_way (x y : Value) : (Way.to x y).Quiet := by
  unfold Way.to
  repeat' with_reducible refine Action.Quiet.bind ?_ fun _ => ?_
  all_goals grind

@[grind ←] theorem quiet_keepTime (start stepTime : Float) (i : Nat) :
    (keepTime start stepTime i).Quiet := by
  unfold keepTime
  grind

@[grind ←] theorem quiet_follow (x y : Float) : (follow x y).Quiet := by
  unfold follow
  grind

@[grind ←] theorem quiet_remaining (x y : Value) : (remaining x y).Quiet := by
  unfold remaining
  grind

@[grind ←] theorem quiet_run (p : Plan) (left : Nat) : (p.run left).Quiet := by
  induction left with
  | zero => exact Action.quiet_pure _
  | succ left ih =>
    unfold Plan.run
    grind

@[grind ←] theorem quiet_moveCurved (x y : Value) (c : Curve) : (moveCurved x y c).Quiet := by
  unfold moveCurved
  dsimp only
  repeat' first
    | with_reducible refine Action.Quiet.bind ?_ fun _ => ?_
    | split
  all_goals grind

@[grind ←] theorem quiet_moveTo (x y speed : Value) (handLike : Bool) (scatter : Value) :
    (moveTo x y speed handLike scatter).Quiet := by
  unfold moveTo
  dsimp only
  repeat' first
    | with_reducible refine Action.Quiet.bind ?_ fun _ => ?_
    | split
  all_goals grind

end Pointer

/-! ### Playing events -/

/-- An action that makes the presses and releases that are asked for, in order, and all of them
unless it fails. -/
def Action.Makes (asked : List Touch) (a : Action Unit) : Prop :=
  ∀ d : Desk, a.Ends (fun result d' => ∃ done made, d.Goes done made d' ∧ made <+: asked ∧
    (result = .ok () → made = asked)) d

namespace Action

theorem Quiet.makes {a : Action Unit} (quiet : a.Quiet) : a.Makes [] := by
  intro d
  refine (quiet d).mono ?_
  rintro result d' ⟨done, goes⟩
  exact ⟨done, [], goes, List.prefix_rfl, fun _ => rfl⟩

theorem makes_throw (asked : List Touch) (e : Error) : Makes asked (throw e) :=
  fun d => ⟨[], [], .refl d, List.nil_prefix, by rintro ⟨⟩⟩

theorem makes_note {act : DeviceAct} {t : Touch} (touch : act.touch? = some t) :
    (note act).Makes [t] :=
  fun d => ⟨[], [t], Desk.goes_of_events rfl rfl (by simp [touches_push, touch]),
    List.prefix_rfl, fun _ => rfl⟩

end Action

theorem Keyboard.makes_sendButton (button : String) (down : Bool) :
    (sendButton button down).Makes [⟨button, down⟩] := by
  rw [sendButton]
  cases down <;> exact Action.makes_note rfl

theorem Keyboard.makes_send (key : Key) (down : Bool) :
    (send key down).Makes [⟨key.label, down⟩] := by
  cases key with
  | typed t =>
    rw [send]
    split
    · cases down <;> exact Action.makes_note rfl
    · exact Action.makes_throw _ _
  | special name => cases down <;> exact Action.makes_note rfl
  | trait t => cases down <;> exact Action.makes_note rfl

theorem RecordedEvent.touch?_of_isMove {e : RecordedEvent} (move : e.isMove = true) :
    e.touch? = none := by
  have kind : e.kind = .text "mouse_move" := holds_iff.mp move
  simp [touch?, isClick, holds, kind]

namespace Recording

theorem makes_performKey {e : RecordedEvent} (other : e.isClick = true → e.place? = none) :
    (perform.performKey e).Makes e.touch?.toList := by
  by_cases click : e.isClick = true
  -- A click without coordinates comes here as well, and no key is read from it.
  · have kind : e.kind = .text "mouse_click" := RecordedEvent.holds_iff.mp click
    have nothing : e.touch? = none := by simp [RecordedEvent.touch?, click, other click]
    have idle : perform.performKey e = pure () := by
      simp [perform.performKey, RecordedEvent.holds, kind]
    rw [nothing, idle]
    exact (Action.quiet_pure ()).makes
  · rw [perform.performKey, RecordedEvent.touch?, if_neg click]
    cases down : RecordedEvent.holds e.kind "key_down" with
    | true =>
      cases recordedKey? e.key with
      | none => exact (Action.quiet_pure ()).makes
      | some key => exact Keyboard.makes_send key true
    | false =>
      cases up : RecordedEvent.holds e.kind "key_up" with
      | true =>
        cases recordedKey? e.key with
        | none => exact (Action.quiet_pure ()).makes
        | some key => exact Keyboard.makes_send key false
      | false => exact (Action.quiet_pure ()).makes

theorem makes_perform (e : RecordedEvent) : (perform e).Makes e.touch?.toList := by
  rw [perform]
  split
  · rename_i place there
    split
    · rename_i move
      rw [RecordedEvent.touch?_of_isMove move]
      apply Action.Quiet.makes
      grind
    · split
      · rename_i click
        rw [RecordedEvent.touch?, if_pos click, there]
        cases clickedButton e.key with
        | error fault => exact Action.makes_throw _ fault
        | ok button => exact Keyboard.makes_sendButton button _
      · exact makes_performKey (by simp [*])
  · exact makes_performKey (by simp [*])

theorem quiet_awaitTurn (zero : Value) (start : Float) (e : RecordedEvent) :
    (awaitTurn zero start e).Quiet := by
  unfold awaitTurn
  repeat' with_reducible refine Action.Quiet.bind ?_ fun _ => ?_
  all_goals grind

/-- Whether a listener has been stopped. -/
def hasStopped (watch : Nat) (d : Desk) : Bool := (d.watches[watch]?.map (·.stopped)).getD false

theorem play_cons (watch : Nat) (zero : Value) (start : Float) (e : RecordedEvent)
    (rest : List RecordedEvent) : play watch zero start (e :: rest) = (do
      let d ← get
      if hasStopped watch d then pure ()
      else do
        awaitTurn zero start e
        perform e
        play watch zero start rest) := rfl

/-- What events ask for is made in order, until there is an error or the listener is stopped. -/
theorem ends_play (watch : Nat) (zero : Value) (start : Float) (events : List RecordedEvent)
    (d : Desk) : (play watch zero start events).Ends (fun result d' => ∃ done made,
      d.Goes done made d' ∧ made <+: events.filterMap (·.touch?) ∧
      (result = .ok () → hasStopped watch d' = false → made = events.filterMap (·.touch?))) d := by
  induction events generalizing d with
  | nil => exact ⟨[], [], .refl d, List.prefix_rfl, fun _ _ => rfl⟩
  | cons e rest ih =>
    rw [play_cons, ends_bind, ends_get, Then]
    cases stopped : hasStopped watch d with
    | true =>
      refine ⟨[], [], .refl d, List.nil_prefix, fun _ running => ?_⟩
      cases stopped.symm.trans running
    | false =>
      have asked : (e :: rest).filterMap (·.touch?) =
          e.touch?.toList ++ rest.filterMap (·.touch?) := by
        rw [List.filterMap_cons]
        cases e.touch? <;> rfl
      rw [asked]
      -- The wait, the event and the rest may each fail; what has been made until then is a first part.
      refine ends_bind.mpr ((quiet_awaitTurn zero start e d).mono ?_)
      rintro (fault | _) d₁ ⟨waited, goes⟩
      · exact ⟨waited, [], goes, List.nil_prefix, by rintro ⟨⟩⟩
      refine ends_bind.mpr ((makes_perform e d₁).mono ?_)
      rintro (fault | _) d₂ ⟨done, made, goes', first, all⟩
      · exact ⟨waited ++ done, made, goes.trans goes', first.trans (List.prefix_append _ _),
          by rintro ⟨⟩⟩
      refine (ih d₂).mono ?_
      rintro result d' ⟨later, more, goes'', next, whole⟩
      refine ⟨_, _, goes.trans (goes'.trans goes''), ?_, fun ok running => ?_⟩
      · rw [all rfl, List.nil_append]
        exact (List.prefix_append_right_inj _).mpr next
      · rw [all rfl, whole ok running]
        rfl

/-- Once the listener has been stopped, no event is played that has not been begun. -/
theorem run_play_stopped {watch : Nat} {zero : Value} {start : Float}
    {before : List RecordedEvent} {s s' : Desk × Console}
    (played : (play watch zero start before).run s = .ok () s')
    (stopped : hasStopped watch s'.1 = true) (after : List RecordedEvent) :
    (play watch zero start (before ++ after)).run s = .ok () s' := by
  induction before generalizing s with
  | nil =>
    cases played
    cases after with
    | nil => rfl
    -- The listener is asked before the next event is begun.
    | cons e rest =>
      rw [List.nil_append, play_cons]
      refine run_bind_ok.mpr ⟨s'.1, s', rfl, ?_⟩
      rw [if_pos stopped]
      rfl
  | cons e rest ih =>
    rw [play_cons] at played
    rw [List.cons_append, play_cons]
    obtain ⟨d, s₁, got, played⟩ := run_bind_ok.mp played
    refine run_bind_ok.mpr ⟨d, s₁, got, ?_⟩
    split at played
    · rw [if_pos ‹_›]
      exact played
    · obtain ⟨_, s₂, waits, played⟩ := run_bind_ok.mp played
      obtain ⟨_, s₃, performs, played⟩ := run_bind_ok.mp played
      rw [if_neg ‹_›]
      exact run_bind_ok.mpr ⟨_, s₂, waits, run_bind_ok.mpr ⟨_, s₃, performs, ih played⟩⟩

/-! ### A whole playback -/

theorem filterMap_touch?_retarget (target : List Value) (events : List RecordedEvent) :
    (retarget target events).filterMap (·.touch?) = events.filterMap (·.touch?) := by
  induction events with
  | nil => rfl
  | cons e rest ih =>
    rw [retarget]
    split
    · rename_i move
      have first : e.isMove = true := (Bool.and_eq_true _ _ ▸ move).1
      have other : ({ e with target := some target } : RecordedEvent).isMove = true := first
      rw [List.filterMap_cons, List.filterMap_cons, RecordedEvent.touch?_of_isMove first,
        RecordedEvent.touch?_of_isMove other]
    · rw [List.filterMap_cons, List.filterMap_cons, ih]

theorem quiet_approach (jitter : Value) (events : List RecordedEvent) :
    (approach jitter events).Quiet := by
  unfold approach
  repeat' first
    | with_reducible refine Action.Quiet.bind ?_ fun _ => ?_
    | split
  all_goals grind

/-- Another place to start at changes nothing about what the events ask for. -/
theorem touches_approach (jitter : Value) (events : List RecordedEvent) (d : Desk) :
    (approach jitter events).Ends (OnSuccess fun played _ =>
      played.filterMap (·.touch?) = events.filterMap (·.touch?)) d := by
  unfold approach
  split
  · exact rfl
  · repeat refine ends_onSuccess_bind _ fun _ _ => ?_
    exact filterMap_touch?_retarget _ events

end Recording

/-- The user has pressed a key from one moment to a later one. -/
def Desk.Pressed (key : Key) (d d' : Desk) : Prop :=
  ∃ done, d.events = done ++ d'.events ∧ ∃ e ∈ done, e.deed = .press key

/-- The desk with one more listener. -/
def Desk.listening (d : Desk) (key : Key) : Desk := { d with watches := d.watches ++ [{ key }] }

namespace Recording

/-- A listener has been stopped if its key has been pressed since it began to listen. -/
theorem hasStopped_iff {d d' : Desk} {key : Key} {done : List UserEvent}
    (goes : (d.listening key).Goes done made d') :
    hasStopped d.watches.length d' = true ↔ d.Pressed key d' := by
  have watch : d'.watches[d.watches.length]? = some (({ key } : StopWatch).after done) := by
    rw [goes.watches]
    simp [Desk.listening]
  rw [hasStopped, watch]
  refine (StopWatch.stopped_after key done).trans ⟨fun pressed => ⟨done, goes.events, pressed⟩, ?_⟩
  rintro ⟨others, same, pressed⟩
  rwa [← List.append_cancel_right (same.symm.trans goes.events)]

theorem ends_opening (events : List RecordedEvent) (stopName jitter : Value) (b : Bench) :
    (opening events stopName jitter).Ends (fun result b' =>
      b'.desk.events <:+ b.desk.events ∧ touches b'.desk.acts = touches b.desk.acts ∧
      ∀ watch played, result = .ok (watch, played) → watch = b.desk.watches.length ∧
        played.filterMap (·.touch?) = events.filterMap (·.touch?) ∧
        ∃ key done, stopKey b.store stopName = .ok key ∧
          (b.desk.listening key).Goes done [] b'.desk) b := by
  rw [opening, ends_bind, ends_get, Then, ends_bind]
  cases stops : stopKey b.store stopName with
  | error e => exact ⟨List.suffix_rfl, rfl, by rintro _ _ ⟨⟩⟩
  | ok key =>
    have listens := (quiet_approach jitter events _).and
      (touches_approach jitter events (b.desk.listening key))
    refine ends_bind.mpr (Op.ends_ofAction.mpr (?_ : (watchFor key).Ends _ b.desk))
    refine ends_bind.mpr (Op.ends_ofAction.mpr (listens.mono ?_))
    rintro (fault | played) d' ⟨⟨done, goes⟩, same⟩
    · refine ⟨⟨done, goes.events.symm⟩, goes.touches.trans (List.append_nil _), by rintro _ _ ⟨⟩⟩
    · refine ⟨⟨done, goes.events.symm⟩, goes.touches.trans (List.append_nil _), ?_⟩
      rintro _ _ ⟨⟩
      exact ⟨rfl, same, key, done, rfl, goes⟩

/-- The end of a playback changes nothing but the listener, and says how it went. -/
theorem run_closing (watch : Nat) (d : Desk) (c : Console) : ∃ watches,
    (closing watch).run (d, c) = .ok () ({ d with watches }, c.say .script
      ((if hasStopped watch d then "Playback interrupted." else "Playback finished.") ++
        "\n")) := by
  have same : hasStopped watch
      { d with watches := d.watches.modify watch fun s => { s with active := false } } =
        hasStopped watch d := by
    simp only [hasStopped, List.getElem?_modify]
    cases d.watches[watch]? <;> simp
  refine ⟨d.watches.modify watch fun s => { s with active := false }, ?_⟩
  rw [← same]
  rfl

theorem ends_closing (watch : Nat) (d : Desk) : (closing watch).Ends (fun _ d' =>
    d'.events = d.events ∧ d'.acts = d.acts) d := ⟨rfl, rfl⟩

/-- What a playback has done, however it ends. -/
theorem ends_playback (events : List RecordedEvent) (stopName jitter : Value) (b : Bench) :
    (playback events stopName jitter).Ends (fun result b' =>
      b'.desk.events <:+ b.desk.events ∧ ∃ made,
        touches b'.desk.acts = touches b.desk.acts ++ made ∧
        made <+: events.filterMap (·.touch?) ∧
        (result = .ok () →
          (∀ key, stopKey b.store stopName = .ok key → ¬ b.desk.Pressed key b'.desk) →
          made = events.filterMap (·.touch?))) b := by
  unfold playback
  refine ends_bind.mpr (Op.ends_ofAction.mpr ?_)
  cases events with
  | nil => exact ⟨List.suffix_rfl, [], (List.append_nil _).symm, List.nil_prefix, fun _ _ => rfl⟩
  | cons first rest =>
    refine ends_bind.mpr ((ends_opening (first :: rest) stopName jitter b).mono ?_)
    rintro (fault | ⟨watch, played⟩) b₁ ⟨fewer, quiet, ready⟩
    · exact ⟨fewer, [], by rw [quiet, List.append_nil], List.nil_prefix, by rintro ⟨⟩⟩
    obtain ⟨rfl, same, key, done, stops, goes⟩ := ready watch played rfl
    refine ends_bind.mpr (ends_get.mpr (ends_bind.mpr (Op.ends_ofAction.mpr ?_)))
    refine (ends_play _ first.timestamp b₁.desk.clock played b₁.desk).mono ?_
    rintro result d' ⟨later, made, goes', part, whole⟩
    have reached := goes.trans goes'
    rw [same] at part whole
    cases result with
    | error fault =>
      exact ⟨⟨_, reached.events.symm⟩, made, reached.touches, part, by rintro ⟨⟩⟩
    | ok _ =>
      refine Op.ends_ofAction.mpr ((ends_closing _ d').mono ?_)
      rintro result d'' ⟨left, acts⟩
      refine ⟨⟨_, left ▸ reached.events.symm⟩, made, acts ▸ reached.touches, part, ?_⟩
      intro _ undisturbed
      refine whole rfl (Bool.eq_false_iff.mpr fun stopped => undisturbed key stops ?_)
      obtain ⟨delivered, parts, pressed⟩ := (hasStopped_iff reached).mp stopped
      exact ⟨delivered, left ▸ parts, pressed⟩

/-- A playback up to the point where so many of its events have been played. -/
def playFirst (n : Nat) (events : List RecordedEvent) (stopName jitter : Value) : Op Unit := do
  Action.sayLine "Playing back..."
  match events with
  | [] => return
  | first :: _ =>
    let (watch, played) ← opening events stopName jitter
    play watch first.timestamp (← get).desk.clock (played.take n)

/-- If the stop key has been pressed by the time when some events have been played, the playback
ends there. -/
theorem run_playback_stopped {n : Nat} {events : List RecordedEvent} {stopName jitter : Value}
    {b b₁ : Bench} {c c₁ : Console} {key : Key}
    (ran : (playFirst n events stopName jitter).run (b, c) = .ok () (b₁, c₁))
    (stops : stopKey b.store stopName = .ok key) (pressed : b.desk.Pressed key b₁.desk) :
    ∃ watches, (playback events stopName jitter).run (b, c) =
      .ok () ({ b₁ with desk := { b₁.desk with watches } },
        c₁.say .script "Playback interrupted.\n") := by
  unfold playFirst at ran
  unfold playback
  obtain ⟨_, s, said, ran⟩ := run_bind_ok.mp ran
  cases events with
  | nil =>
    cases said
    cases ran
    obtain ⟨done, same, e, among, -⟩ := pressed
    rw [List.self_eq_append_left.mp same] at among
    cases among
  | cons first rest =>
    obtain ⟨⟨watch, played⟩, ⟨b₀, c₀⟩, opened, ran⟩ := run_bind_ok.mp ran
    obtain ⟨_, _, ⟨⟩, ran⟩ := run_bind_ok.mp ran
    obtain ⟨d₁, plays, rfl⟩ := Op.run_ofAction_ok.mp ran
    cases said
    obtain ⟨-, -, ready⟩ := (ends_opening (first :: rest) stopName jitter b).of_run_ok opened
    obtain ⟨rfl, -, key', done, stops', goes⟩ := ready watch played rfl
    cases stops.symm.trans stops'
    obtain ⟨later, made, goes', -, -⟩ := (ends_play _ _ _ _ _).of_run_ok plays
    have stopped := (hasStopped_iff (goes.trans goes')).mpr pressed
    have all := run_play_stopped plays stopped (played.drop n)
    rw [List.take_append_drop] at all
    obtain ⟨watches, closes⟩ := run_closing b.desk.watches.length d₁ c₁
    rw [if_pos stopped] at closes
    refine ⟨watches, run_bind_ok.mpr ⟨(), _, rfl, run_bind_ok.mpr ⟨_, _, opened, ?_⟩⟩⟩
    refine run_bind_ok.mpr ⟨b₀, (b₀, c₀), rfl,
      run_bind_ok.mpr ⟨(), ({ b₀ with desk := d₁ }, c₁), ?_, ?_⟩⟩
    · exact Op.run_ofAction_ok.mpr ⟨d₁, all, rfl⟩
    · exact Op.run_ofAction_ok.mpr ⟨_, closes, rfl⟩

/-- A playback makes the presses and releases that its events ask for, in order. However it ends, it
has made a first part of them: all of them if it ends without an error and the stop key has not been
pressed. If the stop key has been pressed by the time when some of the events have been played, no
more of them are. -/
theorem playback_makes_first_part (events : List RecordedEvent) (stopName jitter : Value)
    (b : Bench) (c : Console) : ∃ result b' c' made,
      (playback events stopName jitter).run (b, c) = ending result (b', c') ∧
      b'.desk.events <:+ b.desk.events ∧
      touches b'.desk.acts = touches b.desk.acts ++ made ∧ made <+: events.filterMap (·.touch?) ∧
      (result = .ok () →
        (∀ key, stopKey b.store stopName = .ok key → ¬ b.desk.Pressed key b'.desk) →
        made = events.filterMap (·.touch?)) ∧
      ∀ n key b₁ c₁, (playFirst n events stopName jitter).run (b, c) = .ok () (b₁, c₁) →
        stopKey b.store stopName = .ok key → b.desk.Pressed key b₁.desk →
        result = .ok () ∧ b'.desk = { b₁.desk with watches := b'.desk.watches } ∧
          c' = c₁.say .script "Playback interrupted.\n" := by
  obtain ⟨result, b', c', ran, fewer, made, touched, part, whole⟩ :=
    (ends_playback events stopName jitter b).run c
  refine ⟨result, b', c', made, ran, fewer, touched, part, whole, ?_⟩
  intro n key b₁ c₁ first stops pressed
  obtain ⟨watches, ended⟩ := run_playback_stopped first stops pressed
  rw [ran] at ended
  cases result with
  | error fault => cases ended
  | ok _ =>
    cases ended
    exact ⟨rfl, rfl, rfl⟩

/-- A recording of two letters that are typed, the second of which is not released. -/
def typing : List RecordedEvent :=
  [Recorder.keyEvent 0 (.typed "a") true, Recorder.keyEvent 1 (.typed "a") false,
    Recorder.keyEvent 2 (.typed "b") true]

/-- Whether a run ends without an error, at a desk that passes a test. -/
def endsSuch (such : Desk → Bool) : EStateM.Result Error (Bench × Console) Unit → Bool
  | .ok _ s => such s.1.desk
  | .error .. => false

theorem of_endsSuch {such : Desk → Bool} {r : EStateM.Result Error (Bench × Console) Unit}
    (passed : endsSuch such r = true) : ∃ b c, r = .ok () (b, c) ∧ such b.desk = true := by
  cases r with
  | ok _ s => exact ⟨s.1, s.2, rfl, passed⟩
  | error e s => cases passed

theorem playback_makes_first_part_typing :
    (∃ b' c', (playback typing).run (⟨{}, {}, ""⟩, {}) = .ok () (b', c') ∧
      touches b'.desk.acts = [⟨"a", true⟩, ⟨"a", false⟩, ⟨"b", true⟩]) ∧
    ∃ b' c', (playback typing).run (⟨{ events := [⟨0.5, .press (.special "esc")⟩] }, {}, ""⟩, {}) =
        .ok () (b', c') ∧
      touches b'.desk.acts = [⟨"a", true⟩, ⟨"a", false⟩] := by
  constructor
  · obtain ⟨result, b', c', made, ran, -, touched, -, whole, -⟩ :=
      playback_makes_first_part typing (.text "esc") (.int 1) ⟨{}, {}, ""⟩ {}
    have passed : endsSuch (fun _ => true) ((playback typing).run (⟨{}, {}, ""⟩, {})) = true := by
      decide +kernel
    obtain ⟨_, _, ended, -⟩ := of_endsSuch passed
    cases result with
    | error e => cases ended.symm.trans ran
    | ok _ =>
      refine ⟨b', c', ran, ?_⟩
      rw [touched, whole rfl]
      · decide +kernel
      · rintro key - ⟨done, same, e, among, -⟩
        rw [(List.append_eq_nil_iff.mp same.symm).1] at among
        cases among
  · obtain ⟨result, b', c', made, ran, -, -, -, -, stops⟩ := playback_makes_first_part typing
      (.text "esc") (.int 1) ⟨{ events := [⟨0.5, .press (.special "esc")⟩] }, {}, ""⟩ {}
    have passed : endsSuch (fun d => d.events.isEmpty &&
          touches d.acts = [⟨"a", true⟩, ⟨"a", false⟩])
        ((playFirst 2 typing (.text "esc") (.int 1)).run
          (⟨{ events := [⟨0.5, .press (.special "esc")⟩] }, {}, ""⟩, {})) = true := by
      decide +kernel
    obtain ⟨b₁, c₁, first, such⟩ := of_endsSuch passed
    simp only [Bool.and_eq_true, List.isEmpty_iff, decide_eq_true_eq] at such
    obtain ⟨rfl, same, -⟩ := stops 2 (.special "esc") b₁ c₁ first rfl
      ⟨_, by rw [such.1, List.append_nil], _, List.mem_singleton_self _, rfl⟩
    refine ⟨b', c', ran, ?_⟩
    rw [same]
    exact such.2

end Recording

end DeskScript
