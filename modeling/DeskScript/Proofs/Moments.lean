import DeskScript.Proofs.Logged

/-!
# The moments of a run

While a script runs, trees are evaluated within trees. A traced run tells all that comes about on the
way, each with the state at that moment and the trees that are being evaluated just then: when a tree
begins and with what it ends, and before a request, a change of the frames or a call, what it is
about. Between two moments nothing changes but what the first of them is about, so what holds at all
of them holds all the time. Runs are traced without the debugger.
-/

namespace DeskScript

open Syntax

/-- What comes about at a moment. -/
inductive Event where
  | begins (t : Tree)
  /-- A tree has been evaluated, with a value or an error. -/
  | ends (t : Tree) (outcome : Except Error Value)
  /-- The machine is asked for something. -/
  | request (r : Request)
  /-- The frames are about to change. -/
  | change (c : Change)
  /-- A body is about to be evaluated in a frame of its own. -/
  | call (parameters : Bindings Value) (body : Tree)

/-- A moment of a run. -/
structure Moment where
  /-- The trees that are being evaluated, the innermost first. -/
  path : List Tree
  state : State
  event : Event

/-- A step that evaluates a tree, with its beginning and its end. -/
def Logged.around (path : List Tree) (t : Tree) (x : Logged Moment Value) : Logged Moment Value :=
  .noting (⟨path, ·, .begins t⟩) fun s =>
    match x s with
    | (log, .ok v s') => (log ++ [⟨path, s', .ends t (.ok v)⟩], .ok v s')
    | (log, .error e s') => (log ++ [⟨path, s', .ends t (.error e)⟩], .error e s')

theorem Logged.around_ok {path : List Tree} {t : Tree} {x : Logged Moment Value} {s s' : State}
    {log : List Moment} {v : Value} (ran : x s = (log, .ok v s')) :
    x.around path t s =
      (⟨path, s, .begins t⟩ :: (log ++ [⟨path, s', .ends t (.ok v)⟩]), .ok v s') := by
  simp [around, noting, ran]

theorem Logged.around_error {path : List Tree} {t : Tree} {x : Logged Moment Value} {s s' : State}
    {log : List Moment} {e : Error} (ran : x s = (log, .error e s')) :
    x.around path t s =
      (⟨path, s, .begins t⟩ :: (log ++ [⟨path, s', .ends t (.error e)⟩]), .error e s') := by
  simp [around, noting, ran]

/-- Does what a task asks for within some trees, traced. -/
def Task.trace {α : Type} (below : List Tree → Tree → Logged Moment Value) (path : List Tree) :
    Task α → Logged Moment α
  | done a => .still (return a)
  | fail e => .still (throw e)
  | perform r next => .noting (⟨path, ·, .request r⟩) <|
    (Logged.still r.carryOut).andThen fun v => (next v).trace below path
  | look next => .looking fun s => (next s.machine.store s.stack).trace below path
  | change c next => .noting (⟨path, ·, .change c⟩) <|
    (Logged.still (Interp.modifyStack (·.change c))).andThen fun _ => next.trace below path
  | check _ next => next.trace below path
  | evaluate _ t next => (below path t).andThen fun v => (next v).trace below path
  | call parameters body next => .noting (⟨path, ·, .call parameters body⟩) <|
    ((below path body).inFrame parameters).andThen fun v => (next v).trace below path

/-- The value of a tree within some trees, with so many levels left, traced. -/
def traceAt : Nat → List Tree → Tree → Logged Moment Value
  | 0, path, t => (Logged.still (throw .nesting)).around path t
  | n + 1, path, t => ((Eval.task t).trace (traceAt n) (t :: path)).around path t

/-- The moments of the evaluation of a tree. -/
def moments (t : Tree) (s : State) : List Moment := (traceAt nestingLimit [] t s).1

/-! ### Forgetting the moments -/

theorem Logged.forget_around (path : List Tree) (t : Tree) (x : Logged Moment Value) :
    (x.around path t).forget = x.forget := by
  funext s
  rcases ran : x s with ⟨log, v | e⟩
  · simp only [forget, around_ok ran, ran]
  · simp only [forget, around_error ran, ran]

section Forget

variable {α : Type} {below : List Tree → Tree → Logged Moment Value} {evaluate : Evaluate}
  {mode : Mode}

theorem Eval.check_off (off : mode.debug = false) (t : Tree) :
    Eval.check evaluate mode t = pure () := by
  rw [Eval.check, off]
  rfl

theorem Mode.quiet_off (off : mode.debug = false) (quiet : Bool) :
    { mode with debug := mode.debug && !quiet } = mode := by
  cases mode
  simp_all

theorem Task.forget_trace (off : mode.debug = false)
    (agree : ∀ path t, (below path t).forget = evaluate mode t) (path : List Tree) (task : Task α) :
    (task.trace below path).forget = task.run evaluate mode := by
  induction task with
  | done a => rfl
  | fail e => rfl
  | perform r next ih =>
    rw [trace, run, Logged.forget_noting, Logged.forget_andThen]
    exact congrArg (_ >>= ·) (funext ih)
  | look next ih =>
    funext s
    exact congrFun (ih s.machine.store s.stack) s
  | change c next ih =>
    rw [trace, run, Logged.forget_noting, Logged.forget_andThen]
    exact congrArg (_ >>= ·) (funext fun _ => ih)
  | check t next ih =>
    rw [trace, run, Eval.check_off off]
    exact ih
  | evaluate quiet t next ih =>
    rw [trace, run, Logged.forget_andThen, agree, Mode.quiet_off off]
    exact congrArg (_ >>= ·) (funext ih)
  | call parameters body next ih =>
    rw [trace, run, Logged.forget_noting, Logged.forget_andThen, Logged.forget_inFrame, agree]
    exact congrArg (_ >>= ·) (funext ih)

end Forget

theorem forget_traceAt {mode : Mode} (off : mode.debug = false) (n : Nat) (path : List Tree)
    (t : Tree) : (traceAt n path t).forget = evalAt n mode t := by
  induction n generalizing path t with
  | zero => rfl
  | succ n ih =>
    rw [traceAt, Logged.forget_around]
    exact Task.forget_trace off ih (t :: path) (Eval.task t)

/-- Tracing a run does not change it. -/
theorem trace_eval {mode : Mode} (off : mode.debug = false) (t : Tree) (s : State) :
    traceAt nestingLimit [] t s = (moments t s, eval mode t s) :=
  Prod.ext rfl (congrFun (forget_traceAt off nestingLimit [] t) s)

end DeskScript
