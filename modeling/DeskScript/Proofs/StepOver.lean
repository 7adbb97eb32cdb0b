import DeskScript.Proofs.Stepping

/-!
# Stepping over

A call that is stepped over is made of checks that are deeper. None of them pauses off the breakpoint
lines, but each leaves its line behind as the last one, and a check on the last line goes by. So the
next pause is where it would be without the deeper checks exactly if that line makes no difference.
-/

namespace DeskScript

/-- A pause, with the checks that go by before it. -/
abbrev Stop := List Check × Check

/-- One more check goes by before a pause. -/
def Stop.later (c : Check) (stop : Stop) : Stop := (c :: stop.1, stop.2)

theorem Stop.later_injective (c : Check) : Function.Injective (Stop.later c) := by
  rintro ⟨gone, stop⟩ ⟨gone', stop'⟩ same
  simp only [later, Prod.mk.injEq, List.cons.injEq, true_and] at same
  exact Prod.ext same.1 same.2

/-- The first pause on a trail. -/
def pausedAt : List Passed → Option Stop
  | [] => none
  | v :: rest =>
    if v.answer.isSome then some ([], v.toCheck) else (pausedAt rest).map (.later v.toCheck)

namespace Debugger

/-- The first of some checks at which a debugger pauses. -/
def nextPause (d : Debugger) : List Check → Option Stop
  | [] => none
  | c :: rest =>
    match d.check c.line c.depth with
    | .ok (some _, _) => some ([], c)
    | .ok (none, d') => (d'.nextPause rest).map (.later c)
    | .error _ => none

theorem nextPause_trail {d d' : Debugger} {trace : List Passed} (trail : Trail d trace d') :
    pausedAt trace = d.nextPause (trace.map Passed.toCheck) := by
  induction trace generalizing d with
  | nil => rfl
  | cons v later ih =>
    obtain ⟨between, passes, rest⟩ := trail.step
    cases answer : v.answer with
    | none =>
      simp only [Passes, answer] at passes
      simp [pausedAt, nextPause, answer, passes, ih rest]
    | some c =>
      simp only [Passes, answer] at passes
      obtain ⟨reason, paused, check, -⟩ := passes
      simp [pausedAt, nextPause, answer, check]

/-- A debugger that steps over calls below a depth. -/
def passing (lines : List Int) (depth : Int) (last : Option LineMark) : Debugger :=
  ⟨lines, .next, some depth, last⟩

theorem eq_over_of_obey {before d : Debugger} {depth : Int}
    (asked : before.obey? depth .next = some d) :
    d = passing before.breakpoints depth before.lastLine := by
  cases asked
  rfl

section Over

variable {lines : List Int} {depth : Int} {last : Option LineMark} {c : Check} {later : List Check}

/-- Stepping over, a check pauses on a breakpoint line, and where it is not deeper and not on the
last line. -/
theorem check_over : ∃ reason d',
    (passing lines depth last).check c.line c.depth = .ok (reason, d') ∧
    (reason.isSome ↔ c.line ∈ lines ∨ c.depth ≤ depth ∧ ¬last.any (·.isAt c.line)) ∧
    (reason = none → d' = passing lines depth (some (.number c.line))) := by
  have ready : (passing lines depth last).Ready := fun _ => rfl
  obtain ⟨reason, d', check, -⟩ := ready.check c.line c.depth (.number c.line)
  have checked := checked_of_check check
  refine ⟨reason, d', check, ?_, checked.goesBy⟩
  have due : (passing lines depth last).Due c.line c.depth ↔
      c.depth ≤ depth ∧ ¬last.any (·.isAt c.line) := by
    simp [Due, passing, and_comm]
  rw [checked.pauses, due]
  rfl

theorem nextPause_over_pauses
    (stop : c.line ∈ lines ∨ c.depth ≤ depth ∧ ¬last.any (·.isAt c.line)) :
    (passing lines depth last).nextPause (c :: later) = some ([], c) := by
  obtain ⟨reason, d', check, pauses, -⟩ := @check_over lines depth last c
  obtain ⟨reason, rfl⟩ := Option.isSome_iff_exists.mp (pauses.mpr stop)
  simp only [nextPause, check]

theorem nextPause_over_goesBy
    (passes : ¬(c.line ∈ lines ∨ c.depth ≤ depth ∧ ¬last.any (·.isAt c.line))) :
    (passing lines depth last).nextPause (c :: later) =
      ((passing lines depth (some (.number c.line))).nextPause later).map (.later c) := by
  obtain ⟨reason, d', check, pauses, goesBy⟩ := @check_over lines depth last c
  cases reason with
  | some reason => exact absurd (pauses.mp rfl) passes
  | none => simp only [nextPause, check, goesBy rfl]

/-- A check that stepping over does not take for a part of a call. -/
def kept (lines : List Int) (depth : Int) (c : Check) : Bool := c.depth ≤ depth || c.line ∈ lines

/-- Whether the deeper checks make no difference: as long as there is no pause, a check that is not
deeper is on the line of the check before it exactly if it is on the line of the last check before it
that was not deeper either. -/
def undisturbed (lines : List Int) (depth : Int) :
    Option LineMark → Option LineMark → List Check → Bool
  | _, _, [] => true
  | last, above, c :: later =>
    if c.line ∈ lines then true
    else if depth < c.depth then undisturbed lines depth (some (.number c.line)) above later
    else last.any (·.isAt c.line) == above.any (·.isAt c.line) &&
      (!last.any (·.isAt c.line) ||
        undisturbed lines depth (some (.number c.line)) (some (.number c.line)) later)

/-- What is seen of a pause without the deeper checks. -/
def seen (lines : List Int) (depth : Int) (stop : Stop) : Stop :=
  (stop.1.filter (kept lines depth), stop.2)

theorem seen_later_of_deep (deep : ¬kept lines depth c) :
    seen lines depth ∘ Stop.later c = seen lines depth := by
  funext stop
  simp [seen, Stop.later, deep]

theorem seen_later_of_kept (keep : kept lines depth c) :
    seen lines depth ∘ Stop.later c = Stop.later c ∘ seen lines depth := by
  funext stop
  simp [seen, Stop.later, keep]

theorem later_ne_now (found : Option Stop) : some ([], c) ≠ found.map (Stop.later c) := by
  cases found <;> simp [Stop.later]

theorem seen_nextPause (checks : List Check) (last above : Option LineMark) :
    ((passing lines depth last).nextPause checks).map (seen lines depth) =
        (passing lines depth above).nextPause (checks.filter (kept lines depth)) ↔
      undisturbed lines depth last above checks := by
  induction checks generalizing last above with
  | nil => simp [nextPause, undisturbed]
  | cons c later ih =>
    by_cases stop : c.line ∈ lines
    · have keep : kept lines depth c = true := by simp [kept, stop]
      rw [List.filter_cons_of_pos keep, nextPause_over_pauses (Or.inl stop),
        nextPause_over_pauses (Or.inl stop)]
      simp [undisturbed, stop, seen]
    by_cases deep : depth < c.depth
    · have drop : ¬kept lines depth c = true := by simp [kept, stop, deep]
      have passes : ¬(c.line ∈ lines ∨ c.depth ≤ depth ∧ ¬last.any (·.isAt c.line)) := by
        rintro (on | ⟨above, -⟩)
        · exact stop on
        · omega
      rw [List.filter_cons_of_neg drop, nextPause_over_goesBy passes, Option.map_map,
        seen_later_of_deep drop, ih, undisturbed, if_neg stop, if_pos deep]
    · have shallow : c.depth ≤ depth := Int.not_lt.mp deep
      have keep : kept lines depth c = true := by simp [kept, shallow]
      rw [List.filter_cons_of_pos keep, undisturbed, if_neg stop, if_neg deep]
      -- The check goes by where it is on the last line.
      have goesBy : ∀ {last : Option LineMark}, last.any (·.isAt c.line) = true →
          ∀ rest, (passing lines depth last).nextPause (c :: rest) =
            ((passing lines depth (some (.number c.line))).nextPause rest).map (.later c) :=
        fun moved rest => nextPause_over_goesBy (by simp [stop, moved])
      have pauses : ∀ {last : Option LineMark}, last.any (·.isAt c.line) = false →
          ∀ rest, (passing lines depth last).nextPause (c :: rest) = some ([], c) :=
        fun same rest => nextPause_over_pauses (Or.inr ⟨shallow, by simp [same]⟩)
      cases first : last.any (·.isAt c.line) <;> cases second : above.any (·.isAt c.line)
      · rw [pauses first, pauses second]
        simp [seen]
      · rw [pauses first, goesBy second]
        exact iff_of_false (later_ne_now _) (by simp)
      · rw [goesBy first, pauses second, Option.map_map, seen_later_of_kept keep, ← Option.map_map]
        exact iff_of_false (later_ne_now _).symm (by simp)
      · rw [goesBy first, goesBy second, Option.map_map, seen_later_of_kept keep,
          ← Option.map_map, (Option.map_injective (Stop.later_injective c)).eq_iff, ih]
        simp

/-- Stepping over, only checks that are kept pause. -/
theorem kept_of_nextPause {checks : List Check} {last : Option LineMark} {stop : Stop}
    (found : (passing lines depth last).nextPause checks = some stop) :
    kept lines depth stop.2 := by
  induction checks generalizing last stop with
  | nil => simp [nextPause] at found
  | cons c later ih =>
    by_cases pauses : c.line ∈ lines ∨ c.depth ≤ depth ∧ ¬last.any (·.isAt c.line)
    · rw [nextPause_over_pauses pauses] at found
      cases found
      rcases pauses with on | ⟨shallow, -⟩
      · simp [kept, on]
      · simp [kept, shallow]
    · rw [nextPause_over_goesBy pauses] at found
      obtain ⟨stop', found', rfl⟩ := Option.map_eq_some_iff.mp found
      have keep := ih found'
      exact keep

end Over

end Debugger

open Debugger

/-- How far stepping over takes a call as one step. After the command at a depth, any trail of checks
pauses next where the debugger says, and never at a deeper check off the breakpoint lines. Without the
deeper checks the pause is at the same statement exactly if the line that they leave behind makes no
difference; what else they do never counts. -/
theorem step_over_minds_last_line {before d : Debugger} {depth : Int}
    (asked : before.obey? depth .next = some d) :
    (∀ trace d', Trail d trace d' → pausedAt trace = d.nextPause (trace.map Passed.toCheck)) ∧
    ∀ checks : List Check,
      (∀ stop, d.nextPause checks = some stop → kept d.breakpoints depth stop.2) ∧
      ((d.nextPause checks).map (seen d.breakpoints depth) =
          d.nextPause (checks.filter (kept d.breakpoints depth)) ↔
        undisturbed d.breakpoints depth d.lastLine d.lastLine checks) := by
  refine ⟨fun trace d' trail => nextPause_trail trail, fun checks => ?_⟩
  obtain rfl := eq_over_of_obey asked
  exact ⟨fun stop found => kept_of_nextPause found, seen_nextPause checks _ _⟩

/-- A call that is stepped over to the next line. -/
theorem step_over_minds_last_line_call : ∃ before d : Debugger,
    before.obey? 0 .next = some d ∧ undisturbed d.breakpoints 0 d.lastLine d.lastLine
      [⟨1, 1⟩, ⟨4, 0⟩] ∧
    (d.nextPause [⟨1, 1⟩, ⟨4, 0⟩]).map (seen d.breakpoints 0) = d.nextPause [⟨4, 0⟩] := by
  refine ⟨⟨[2], .run, some 0, some (.number 3)⟩, _, rfl, rfl, ?_⟩
  exact ((step_over_minds_last_line rfl).2 [⟨1, 1⟩, ⟨4, 0⟩]).2.mpr rfl

/-- A breakpoint on line 2, and stepping over from there and from line 3. -/
def steppedToCall : List Passed := [⟨⟨2, 0⟩, some .next⟩, ⟨⟨3, 0⟩, some .next⟩]

theorem trail_steppedToCall {later : List Passed} {d : Debugger}
    (rest : Trail ⟨[2], .next, some 0, some (.number 3)⟩ later d) :
    Trail { breakpoints := [2] } (steppedToCall ++ later) d := by
  refine .check 0 {} (s := .awaiting ["n"] { breakpoints := [2] }) rfl
    ⟨[], { line := "n" }, rfl, rfl⟩ ?_
  exact .check 0 {} (s := .awaiting ["n"] ⟨[2], .next, some 0, some (.number 2)⟩) rfl
    ⟨[], { line := "n" }, rfl, rfl⟩ rest

/-- A check within a call, on another line, makes stepping over pause on the line that it should have
left: without that check the statement goes by, and the pause is on the next line. -/
theorem step_over_stays_on_line :
    (∃ d, Trail { breakpoints := [2] }
      (steppedToCall ++ [⟨⟨1, 1⟩, none⟩, ⟨⟨3, 0⟩, some .resume⟩, ⟨⟨4, 0⟩, none⟩]) d) ∧
    ∃ d, Trail { breakpoints := [2] }
      (steppedToCall ++ [⟨⟨3, 0⟩, none⟩, ⟨⟨4, 0⟩, some .resume⟩]) d := by
  constructor
  · refine ⟨⟨[2], .run, some 0, some (.number 4)⟩, trail_steppedToCall ?_⟩
    refine .check 0 {} (s := .awaiting [] ⟨[2], .next, some 0, some (.number 3)⟩) rfl rfl ?_
    refine .check 0 {} (s := .awaiting ["c"] ⟨[2], .next, some 0, some (.number 1)⟩) rfl
      ⟨[], { line := "c" }, rfl, rfl⟩ ?_
    exact .check 0 {} (s := .awaiting [] ⟨[2], .run, some 0, some (.number 3)⟩) rfl rfl (.nil _)
  · refine ⟨⟨[2], .run, some 0, some (.number 4)⟩, trail_steppedToCall ?_⟩
    refine .check 0 {} (s := .awaiting [] ⟨[2], .next, some 0, some (.number 3)⟩) rfl rfl ?_
    exact .check 0 {} (s := .awaiting ["c"] ⟨[2], .next, some 0, some (.number 3)⟩) rfl
      ⟨[], { line := "c" }, rfl, rfl⟩ (.nil _)

end DeskScript
