import DeskScript.Proofs.Logged
import DeskScript.Proofs.Mutation

/-!
# What happens in a run

A recorded run tells which trees were evaluated on the way and which requests the machine carried
out, each with the state before it and the way it ended, in the order in which they ended. Whatever
the debugger evaluates at its prompt belongs to it. A tree for which no level of the evaluator is
left has not been evaluated. Forgetting what a recorded run tells gives back the evaluator, and what
it tells is true.
-/

namespace DeskScript

open Syntax

/-- Something that happened. -/
inductive Happening where
  /-- A tree was evaluated. -/
  | evaluated (t : Tree) (before : State) (ended : EStateM.Result Error State Value)
  /-- A request was carried out. -/
  | performed (r : Request) (before : State) (ended : EStateM.Result Error State Value)

namespace Happening

/-- How it ended. -/
def ended : Happening → EStateM.Result Error State Value
  | evaluated _ _ ended | performed _ _ ended => ended

/-- The state after it. -/
def after (h : Happening) : State := endState h.ended

/-- What is told of an evaluation or a request is what the evaluator or the machine does. -/
def Real : Happening → Prop
  | evaluated t before ended => ∃ n mode, ended = evalAt (n + 1) mode t before
  | performed r before ended => ended = Interp.ofOp r.carryOut before

end Happening

namespace Logged

variable {ω α : Type}

/-- A step with an entry after it, however it ends. -/
def closing (entry : State → EStateM.Result Error State α → ω) (x : Logged ω α) : Logged ω α :=
  fun s => ((x s).1 ++ [entry s (x s).2], (x s).2)

/-- A step that goes on after an error. -/
def outcome (x : Logged ω α) : Logged ω (Except Error α) := fun s =>
  match x s with
  | (log, .ok a s') => (log, .ok (.ok a) s')
  | (log, .error e s') => (log, .ok (.error e) s')

theorem forget_closing (entry : State → EStateM.Result Error State α → ω) (x : Logged ω α) :
    (x.closing entry).forget = x.forget := rfl

theorem forget_outcome (x : Logged ω α) : x.outcome.forget = Eval.outcome x.forget := by
  funext s
  rcases h : x s with ⟨log, a | e⟩ <;>
    simp only [forget, outcome, Eval.outcome, tryCatch, tryCatchThe, MonadExceptOf.tryCatch,
      EStateM.tryCatch, bind, EStateM.bind, h] <;>
    rfl

end Logged

/-- What makes a value of a tree, recorded. -/
abbrev RecordedEvaluate := Mode → Tree → Logged Happening Value

/-- Does what the debugger asks for, recorded. -/
def Pause.record {α : Type} (below : RecordedEvaluate) (mode : Mode) : Pause α → Logged Happening α
  | done a => .still (return a)
  | fail e => .still (throw e)
  | say s next => (Logged.still (Eval.say s)).andThen fun _ => next.record below mode
  | ask next =>
    (Logged.still (Action.askAs .debugger "(dbg) " : Action String)).andThen fun line =>
      (next line).record below mode
  | look next => .looking fun s =>
    (next ⟨s.machine.store, s.debugger, s.machine.world.replies.length⟩).record below mode
  | set d next =>
    (Logged.still (modify fun s => { s with debugger := d })).andThen fun _ =>
      next.record below mode
  | memory next => (Logged.still Eval.listMemory).andThen fun _ => next.record below mode
  | attempt t next =>
    ((below { mode with debug := false } t).andThen fun v =>
      .still (Op.shown v : Op String)).outcome.andThen fun r => (next r).record below mode

/-- Checks a statement with the debugger, recorded. -/
def Eval.recordCheck (below : RecordedEvaluate) (mode : Mode) (t : Tree) : Logged Happening Unit :=
  fun s =>
    if mode.debug then
      match statementLine t with
      | .ok mark => (checkMark mode.canEvaluate s.stack.depth mark).record below mode s
      | .error e => ([], .error e s)
    else ([], .ok () s)

/-- Does what a task asks for, recorded. -/
def Task.record {α : Type} (below : RecordedEvaluate) (mode : Mode) : Task α → Logged Happening α
  | done a => .still (return a)
  | fail e => .still (throw e)
  | perform r next =>
    ((Logged.still r.carryOut).closing (.performed r)).andThen fun v => (next v).record below mode
  | look next => .looking fun s => (next s.machine.store s.stack).record below mode
  | change c next =>
    (Logged.still (Interp.modifyStack (·.change c))).andThen fun _ => next.record below mode
  | check t next => (Eval.recordCheck below mode t).andThen fun _ => next.record below mode
  | evaluate quiet t next =>
    (below { mode with debug := mode.debug && !quiet } t).andThen fun v =>
      (next v).record below mode
  | call parameters body next =>
    ((below mode body).inFrame parameters).andThen fun v => (next v).record below mode

/-- The value of a tree with so many levels left, recorded. -/
def recordAt : Nat → RecordedEvaluate
  | 0 => fun _ _ => .still (throw .nesting)
  | n + 1 => fun mode t => ((Eval.task t).record (recordAt n) mode).closing (.evaluated t)

/-- What happens while a tree is evaluated. -/
def happenings (mode : Mode) (t : Tree) (s : State) : List Happening :=
  (recordAt nestingLimit mode t s).1

/-! ### Forgetting the record -/

section Forget

variable {α : Type} {below : RecordedEvaluate} {evaluate : Evaluate}

theorem Pause.forget_record (agree : ∀ mode t, (below mode t).forget = evaluate mode t)
    (mode : Mode) (p : Pause α) : (p.record below mode).forget = p.run evaluate mode := by
  induction p with
  | done a => rfl
  | fail e => rfl
  | say s next ih => simp only [record, run, Logged.forget_andThen, ih]; rfl
  | ask next ih => simp only [record, run, Logged.forget_andThen, ih]; rfl
  | look next ih =>
    funext s
    exact congrFun (ih ⟨s.machine.store, s.debugger, s.machine.world.replies.length⟩) s
  | set d next ih => simp only [record, run, Logged.forget_andThen, ih]; rfl
  | memory next ih => simp only [record, run, Logged.forget_andThen, ih]; rfl
  | attempt t next ih =>
    simp only [record, run, Logged.forget_andThen, Logged.forget_outcome, agree, ih]
    rfl

theorem Eval.forget_recordCheck (agree : ∀ mode t, (below mode t).forget = evaluate mode t)
    (mode : Mode) (t : Tree) :
    (Eval.recordCheck below mode t).forget = Eval.check evaluate mode t := by
  funext s
  by_cases debug : mode.debug
  · cases h : statementLine t with
    | ok mark =>
      have same := congrFun (Pause.forget_record agree mode
        (checkMark mode.canEvaluate s.stack.depth mark)) s
      simp only [Logged.forget, recordCheck, check, debug, h, if_true]
      exact same
    | error e =>
      simp only [Logged.forget, recordCheck, check, debug, h, if_true]
      rfl
  · simp only [Logged.forget, recordCheck, check, debug]
    rfl

theorem Task.forget_record (agree : ∀ mode t, (below mode t).forget = evaluate mode t)
    (mode : Mode) (task : Task α) :
    (task.record below mode).forget = task.run evaluate mode := by
  induction task with
  | done a => rfl
  | fail e => rfl
  | perform r next ih =>
    simp only [record, run, Logged.forget_andThen, Logged.forget_closing, ih]
    rfl
  | look next ih =>
    funext s
    exact congrFun (ih s.machine.store s.stack) s
  | change c next ih => simp only [record, run, Logged.forget_andThen, ih]; rfl
  | check t next ih =>
    simp only [record, run, Logged.forget_andThen, Eval.forget_recordCheck agree, ih]
  | evaluate quiet t next ih => simp only [record, run, Logged.forget_andThen, agree, ih]
  | call parameters body next ih =>
    simp only [record, run, Logged.forget_andThen, Logged.forget_inFrame, agree, ih]

end Forget

theorem forget_recordAt (n : Nat) (mode : Mode) (t : Tree) :
    (recordAt n mode t).forget = evalAt n mode t := by
  induction n generalizing mode t with
  | zero => rfl
  | succ n ih => exact Task.forget_record ih mode (Eval.task t)

/-- Recording a run does not change it. -/
theorem record_eval (mode : Mode) (t : Tree) (s : State) :
    recordAt nestingLimit mode t s = (happenings mode t s, eval mode t s) :=
  Prod.ext rfl (congrFun (forget_recordAt nestingLimit mode t) s)

/-! ### Laws of recorded runs -/

/-- A law about the state before a run, what happens in it and the state after it: it holds as long as
nothing happens and the lists stay as they are, of one run after the other, of each request that is
carried out, and of an evaluation if it holds of all that happens on the way. -/
structure RunLaw (law : State → List Happening → State → Prop) : Prop where
  quiet {s s' : State} (same : s'.machine.store = s.machine.store) : law s [] s'
  join {s₁ s₂ s₃ : State} {log log' : List Happening} (first : law s₁ log s₂)
    (second : law s₂ log' s₃) : law s₁ (log ++ log') s₃
  performed (r : Request) (s : State) :
    law s [.performed r s (Interp.ofOp r.carryOut s)] (endState (Interp.ofOp r.carryOut s))
  evaluated {n : Nat} {mode : Mode} {t : Tree} {s : State} {log : List Happening}
    (inside : law s log (endState (evalAt (n + 1) mode t s))) :
    law s (log ++ [.evaluated t s (evalAt (n + 1) mode t s)]) (endState (evalAt (n + 1) mode t s))

/-- A recorded step of which a law holds, from every state on. -/
def Logged.Obeys {α : Type} (law : State → List Happening → State → Prop) (x : Logged Happening α) :
    Prop :=
  ∀ s, law s (x s).1 (endState (x s).2)

theorem Logged.Obeys.outcome {α : Type} {law : State → List Happening → State → Prop}
    {x : Logged Happening α} (inside : x.Obeys law) : x.outcome.Obeys law := by
  intro s
  have through := inside s
  rcases ran : x s with ⟨log, ⟨v, s'⟩ | ⟨e, s'⟩⟩ <;> rw [ran] at through <;>
    simp only [Logged.outcome, ran]
  · exact through
  · exact through

/-- A step that leaves all lists as they are. -/
def KeepsStore {α : Type} (x : Interp α) : Prop :=
  ∀ s, (endState (x s)).machine.store = s.machine.store

section KeepsStore

variable {α β : Type}

theorem keepsStore_action (a : Action α) : KeepsStore (liftM a : Interp α) := by
  intro s
  change (endState (Interp.ofOp (liftM a) s)).machine.store = _
  rw [Interp.ofOp_apply, Op.run_ofAction]
  rcases a.run (s.machine.bench.desk, s.console) with ⟨_, _, _⟩ | ⟨_, _, _⟩ <;> rfl

theorem keepsStore_shown (v : Value) : KeepsStore (liftM (Op.shown v) : Interp String) := by
  intro s
  change (endState (Interp.ofOp (Op.shown v) s)).machine.store = _
  rw [Interp.ofOp_apply, Op.shown, Op.run_ask]
  cases s.machine.bench.store.shown v <;> rfl

theorem keepsStore_listMemory : KeepsStore Eval.listMemory :=
  @Interp.within_listMemory (fun s s' => s'.machine.store = s.machine.store) (fun _ => rfl)
    (fun first second => second.trans first) fun _ => keepsStore_action _

end KeepsStore

namespace RunLaw

variable {α β : Type} {law : State → List Happening → State → Prop} (is : RunLaw law)
include is

theorem still {x : Interp α} (kept : KeepsStore x) : (Logged.still x).Obeys law :=
  fun s => is.quiet (kept s)

theorem andThen {x : Logged Happening α} {f : α → Logged Happening β} (first : x.Obeys law)
    (rest : ∀ a, (f a).Obeys law) : (x.andThen f).Obeys law := by
  intro s
  have before := first s
  rcases ran : x s with ⟨log, ⟨a, s'⟩ | ⟨e, s'⟩⟩ <;> rw [ran] at before
  · rw [Logged.andThen_ok ran]
    exact is.join before (rest a s')
  · rw [Logged.andThen_error ran]
    exact before

theorem inFrame (parameters : Bindings Value) {body : Logged Happening Value}
    (inside : body.Obeys law) : (body.inFrame parameters).Obeys law := by
  intro s
  have entered : law s [] { s with stack := s.stack.enter parameters } := is.quiet rfl
  have through := is.join entered (inside { s with stack := s.stack.enter parameters })
  rcases ran : body { s with stack := s.stack.enter parameters } with ⟨log, ⟨v, s'⟩ | ⟨e, s'⟩⟩ <;>
    rw [ran] at through <;> simp only [Logged.inFrame, ran]
  all_goals
    have left : law s' [] { s' with stack := s'.stack.leave } := is.quiet rfl
    simpa [endState] using is.join through left

variable {below : RecordedEvaluate} (holds : ∀ mode t, (below mode t).Obeys law)
include holds

theorem pause (mode : Mode) (p : Pause α) : (p.record below mode).Obeys law := by
  induction p with
  | done a => exact is.still fun s => rfl
  | fail e => exact is.still fun s => rfl
  | say s next ih => exact is.andThen (is.still (keepsStore_action _)) fun _ => ih
  | ask next ih => exact is.andThen (is.still (keepsStore_action _)) ih
  | look next ih => exact fun s => ih _ s
  | set d next ih => exact is.andThen (is.still fun s => rfl) fun _ => ih
  | memory next ih => exact is.andThen (is.still keepsStore_listMemory) fun _ => ih
  | attempt t next ih =>
    refine is.andThen (is.andThen (holds _ t) fun v => ?_).outcome ih
    exact is.still (keepsStore_shown v)

theorem recordCheck (mode : Mode) (t : Tree) : (Eval.recordCheck below mode t).Obeys law := by
  intro s
  unfold Eval.recordCheck
  split
  · split
    · exact is.pause holds mode _ s
    · exact is.quiet rfl
  · exact is.quiet rfl

theorem task (mode : Mode) (task : Task α) : (task.record below mode).Obeys law := by
  induction task with
  | done a => exact is.still fun s => rfl
  | fail e => exact is.still fun s => rfl
  | perform r next ih => exact is.andThen (fun s => is.performed r s) ih
  | look next ih => exact fun s => ih _ _ s
  | change c next ih => exact is.andThen (is.still fun s => rfl) fun _ => ih
  | check t next ih => exact is.andThen (is.recordCheck holds mode t) fun _ => ih
  | evaluate quiet t next ih => exact is.andThen (holds _ t) ih
  | call parameters body next ih => exact is.andThen (is.inFrame parameters (holds mode body)) ih

omit holds

theorem recordAt (n : Nat) (mode : Mode) (t : Tree) : (recordAt n mode t).Obeys law := by
  induction n generalizing mode t with
  | zero => exact is.still fun s => rfl
  | succ n ih =>
    intro s
    have inside := is.task ih mode (Eval.task t) s
    have same : ((Eval.task t).record (DeskScript.recordAt n) mode s).2 = evalAt (n + 1) mode t s :=
      congrFun (forget_recordAt (n + 1) mode t) s
    rw [same] at inside
    simp only [DeskScript.recordAt, Logged.closing, same]
    exact is.evaluated inside

/-- A law holds of every run. -/
theorem run (mode : Mode) (t : Tree) (s : State) :
    law s (happenings mode t s) (endState (eval mode t s)) := by
  have whole := is.recordAt nestingLimit mode t s
  rwa [record_eval] at whole

end RunLaw

/-- What a recorded run tells is true. -/
theorem real_of_mem_happenings {mode : Mode} {t : Tree} {s : State} {h : Happening}
    (member : h ∈ happenings mode t s) : h.Real := by
  have is : RunLaw fun _ log _ => ∀ h ∈ log, h.Real := by
    refine ⟨?_, ?_, ?_, ?_⟩
    · simp
    · intro _ _ _ log log' first second
      exact List.forall_mem_append.mpr ⟨first, second⟩
    · intro r s
      simp [Happening.Real]
    · intro n mode t s log inside
      refine List.forall_mem_append.mpr ⟨inside, ?_⟩
      simpa using ⟨n, mode, rfl⟩
  exact is.run mode t s h member

end DeskScript
