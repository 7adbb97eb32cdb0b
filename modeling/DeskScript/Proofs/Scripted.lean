import DeskScript.Proofs.Innocent
import DeskScript.Proofs.Proper

/-!
# Frames of scripts

The functions of an interpreter come from scripts that have been parsed, or from what was typed at
the prompt of the debugger, which is parsed as well. So they can be checked, whatever scripts have
been run before and however their runs ended.
-/

namespace DeskScript

open Syntax

/-! ### What the debugger evaluates -/

namespace Pause

variable {α β : Type}

/-- A pause that blames no tree, and in which nothing is evaluated that has not been parsed. -/
def Parsed : Pause α → Prop
  | done _ => True
  | fail e => e.blamesTree = false
  | say _ next | set _ next | memory next => next.Parsed
  | ask next => ∀ line, (next line).Parsed
  | look next => ∀ view, (next view).Parsed
  | attempt t next => (∃ source, parse source = .ok t) ∧ ∀ r, (next r).Parsed

theorem parsed_bind {pause : Pause α} {f : α → Pause β} (first : pause.Parsed)
    (rest : ∀ a, (f a).Parsed) : (pause >>= f).Parsed := by
  induction pause with
  | done a => exact rest a
  | fail e => exact first
  | say s next ih => exact ih first
  | ask next ih => exact fun line => ih line (first line)
  | look next ih => exact fun view => ih view (first view)
  | set d next ih => exact ih first
  | memory next ih => exact ih first
  | attempt t next ih => exact ⟨first.1, fun r => ih r (first.2 r)⟩

theorem parsed_lift {x : Except Error α} (innocent : Innocent x) : (liftM x : Pause α).Parsed := by
  cases x with
  | error e => exact innocent
  | ok a => trivial

end Pause

namespace Eval

/-- What is evaluated at the prompt has been parsed. -/
theorem parsed_inspect (canEvaluate : Bool) (text : String) :
    (inspect canEvaluate text).Parsed := by
  unfold inspect
  cases parsed : parse text with
  | error e => trivial
  | ok tree =>
    cases canEvaluate with
    | false => trivial
    | true =>
      refine ⟨⟨text, parsed⟩, fun r => ?_⟩
      beta_reduce
      split
      · trivial
      · rfl
      · trivial

theorem parsed_prompt (canEvaluate : Bool) (depth : Int) (fuel : Nat) :
    (prompt canEvaluate depth fuel).Parsed := by
  induction fuel with
  | zero => rfl
  | succ fuel ih =>
    intro line view
    beta_reduce
    split
    · trivial
    · split
      · exact ih
      · exact Pause.parsed_bind (parsed_inspect canEvaluate _) fun _ => ih
      · exact ih

theorem parsed_pause (canEvaluate : Bool) (depth : Int) (fuel : Nat) (line : Int) (shown : String)
    (reason : PauseReason) : (pause canEvaluate depth fuel line shown reason).Parsed := by
  cases reason <;> exact parsed_prompt canEvaluate depth fuel

theorem innocent_lineText (store : Store) (mark : LineMark) : Innocent (lineText store mark) := by
  cases mark with
  | number line => trivial
  | other v => exact store.innocent_shown v

theorem innocent_check (d : Debugger) (line depth : Int) (mark : LineMark) :
    Innocent (d.check line depth mark) := by
  have target : ∀ operator, Innocent (d.target operator) := by
    intro operator
    unfold Debugger.target
    cases d.targetDepth <;> trivial
  unfold Debugger.check Debugger.wants
  grind

theorem parsed_checkMark (canEvaluate : Bool) (depth : Int) (mark : Option LineMark) :
    (checkMark canEvaluate depth mark).Parsed := by
  cases mark with
  | none => trivial
  | some mark =>
    refine Pause.parsed_bind (fun _ => trivial) fun view => ?_
    refine Pause.parsed_bind (Pause.parsed_lift (innocent_lineText _ mark)) fun shown => ?_
    refine Pause.parsed_bind trivial fun _ => ?_
    refine Pause.parsed_bind (Pause.parsed_lift mark.value.innocent_toInt) fun line => ?_
    refine Pause.parsed_bind (Pause.parsed_lift (innocent_check ..)) fun checked => ?_
    obtain ⟨reason, d⟩ := checked
    cases reason with
    | none => trivial
    | some reason => exact parsed_pause ..

end Eval

/-! ### Along a run -/

/-- A step after which the functions of all frames can be checked if they could before. -/
def KeepsKnown {α : Type} (x : Watched α) : Prop :=
  ∀ s, s.stack.Known → (endState (x s).2).stack.Known

section KeepsKnown

variable {α β : Type}

theorem keepsKnown_still {x : Interp α} (kept : KeepsFrames x) : KeepsKnown (.still x) := by
  intro s known
  have same := kept s
  exact same ▸ known

theorem keepsKnown_andThen {x : Watched α} {f : α → Watched β} (first : KeepsKnown x)
    (rest : ∀ a, KeepsKnown (f a)) : KeepsKnown (x.andThen f) := by
  intro s known
  have between := first s known
  cases h : (x s).2 with
  | ok a s' =>
    rw [h] at between
    rw [Watched.andThen_ok h]
    exact rest a s' between
  | error e s' =>
    rw [h] at between
    rw [Watched.andThen_error h]
    exact between

theorem keepsKnown_change {c : Change} (proper : c.Proper) : KeepsKnown (.act fun _ => .change c) :=
  fun _ known => known.change proper

theorem keepsKnown_inFrame (parameters : Bindings Value) {body : Watched Value}
    (inside : KeepsKnown body) : KeepsKnown (body.inFrame parameters) := by
  intro s known
  have last := inside { s with stack := s.stack.enter parameters } (known.enter parameters)
  rcases h : body { s with stack := s.stack.enter parameters } with ⟨acts, v | e⟩ <;>
    simp only [h, endState] at last <;> simpa only [Watched.inFrame, h, endState] using last.leave

theorem keepsKnown_outcome {x : Watched α} (kept : KeepsKnown x) : KeepsKnown x.outcome := by
  intro s known
  have last := kept s known
  rcases h : x s with ⟨acts, a | e⟩ <;>
    simp only [h, endState] at last <;> simpa only [Watched.outcome, h, endState] using last

variable {below : WatchedEvaluate}
  (kept : ∀ mode t, t.Checkable → KeepsKnown (below mode t))
include kept

theorem Pause.keepsKnown_watch (mode : Mode) {pause : Pause α} (parsed : pause.Parsed) :
    KeepsKnown (pause.watch below mode) := by
  induction pause with
  | done a => exact keepsKnown_still (keepsFrames_pure a)
  | fail e => exact keepsKnown_still (keepsFrames_throw e)
  | say s next ih =>
    exact keepsKnown_andThen (keepsKnown_still (keepsFrames_say s)) fun _ => ih parsed
  | ask next ih =>
    exact keepsKnown_andThen (keepsKnown_still (keepsFrames_ofOp _)) fun line =>
      ih line (parsed line)
  | look next ih => exact fun s => ih _ (parsed _) s
  | set d next ih => exact keepsKnown_andThen (keepsKnown_still fun _ => rfl) fun _ => ih parsed
  | memory next ih =>
    exact keepsKnown_andThen (fun _ known => known) fun _ =>
      keepsKnown_andThen (keepsKnown_still keepsFrames_listMemory) fun _ => ih parsed
  | attempt t next ih =>
    obtain ⟨⟨source, read⟩, later⟩ := parsed
    exact keepsKnown_andThen (keepsKnown_outcome (keepsKnown_andThen
      (kept _ t (checkable_of_parse read)) fun v => keepsKnown_still (keepsFrames_ofOp _)))
      fun r => ih r (later r)

theorem Eval.keepsKnown_watchCheck (mode : Mode) (t : Tree) :
    KeepsKnown (Eval.watchCheck below mode t) := by
  intro s known
  unfold watchCheck
  split
  · split
    · exact Pause.keepsKnown_watch kept mode (parsed_checkMark ..) s known
    · exact known
  · exact known

theorem Task.keepsKnown_watch (mode : Mode) {task : Task α} (proper : task.Proper) :
    KeepsKnown (task.watch below mode) := by
  induction task with
  | done a => exact keepsKnown_still (keepsFrames_pure a)
  | fail e => exact keepsKnown_still (keepsFrames_throw e)
  | perform r next ih =>
    exact keepsKnown_andThen (keepsKnown_still (keepsFrames_ofOp _)) fun v => ih v (proper v)
  | look next ih => exact fun s known => ih _ _ (proper _ _ known) s known
  | change c next ih => exact keepsKnown_andThen (keepsKnown_change proper.1) fun _ => ih proper.2
  | check t next ih =>
    exact keepsKnown_andThen (Eval.keepsKnown_watchCheck kept mode t) fun _ => ih proper.2
  | evaluate quiet t next ih =>
    exact keepsKnown_andThen (kept _ t proper.1) fun v => ih v (proper.2 v)
  | call parameters body next ih =>
    exact keepsKnown_andThen (keepsKnown_inFrame parameters (kept mode body proper.1)) fun v =>
      ih v (proper.2 v)

end KeepsKnown

theorem keepsKnown_watchAt (n : Nat) (mode : Mode) {t : Tree} (checkable : t.Checkable) :
    KeepsKnown (watchAt n mode t) := by
  induction n generalizing mode t with
  | zero => exact keepsKnown_still (keepsFrames_throw _)
  | succ n ih =>
    exact Task.keepsKnown_watch (fun mode t => ih mode) mode (Eval.proper_task checkable)

/-- The states of an interpreter between two scripts. It starts without functions; any script that
can be parsed leads on from there, however its run ends, and between two runs everything but the
frames may change. -/
inductive Scripted : State → Prop
  | start {s : State} (fresh : ∀ frame ∈ s.stack.frames, frame.functions = []) : Scripted s
  | run {s : State} (before : Scripted s) {source : String} {t : Tree}
      (parsed : parse source = .ok t) (mode : Mode) : Scripted (endState (eval mode t s))
  | pause {s s' : State} (before : Scripted s) (same : s'.stack = s.stack) : Scripted s'

/-- All functions of scripts can be checked. -/
theorem Scripted.known {s : State} (scripted : Scripted s) : s.stack.Known := by
  induction scripted with
  | start fresh =>
    intro frame member e there
    simp [fresh frame member] at there
  | @run s _ source t parsed mode ih =>
    have same := congrFun (forget_watch mode t) s
    rw [← same]
    exact keepsKnown_watchAt nestingLimit mode (checkable_of_parse parsed) s ih
  | pause _ same ih => rwa [same]

end DeskScript
