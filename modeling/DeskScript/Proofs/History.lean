import DeskScript.Interp.Eval
import DeskScript.Proofs.Console
import Mathlib.Tactic.Common

/-!
# Histories

The evaluator tells how a run ends. A watched run also tells what happened to the frames on the way,
act by act. Forgetting the acts gives back the evaluator, and replaying them from the first call
stack gives the last one, so the moments of a run are the stretches of its history.
-/

namespace DeskScript

open Syntax

/-- Something that happens during a run. -/
inductive Act where
  /-- A statement changes the frames. -/
  | change (c : Change)
  /-- A call begins. -/
  | enter (parameters : Bindings Value)
  /-- A call ends. -/
  | leave
  /-- The script asks for a line. -/
  | ask
  /-- The debugger lists a frame. -/
  | list (store : Store) (frame : Frame)

/-- What an act does to the call stack. -/
def Act.apply : Act → CallStack → CallStack
  | change c, stack => stack.change c
  | enter parameters, stack => stack.enter parameters
  | leave, stack => stack.leave
  | ask, stack | list .., stack => stack

/-- The call stack after some acts. -/
def replay (stack : CallStack) (acts : List Act) : CallStack :=
  acts.foldl (fun stack act => act.apply stack) stack

@[simp] theorem replay_nil (stack : CallStack) : replay stack [] = stack := rfl

@[simp] theorem replay_cons (stack : CallStack) (act : Act) (acts : List Act) :
    replay stack (act :: acts) = replay (act.apply stack) acts := rfl

@[simp] theorem replay_append (stack : CallStack) (first second : List Act) :
    replay stack (first ++ second) = replay (replay stack first) second :=
  List.foldl_append

/-- The state in which a step ends, whether it fails or not. -/
def endState {α : Type} : EStateM.Result Error State α → State
  | .ok _ s => s
  | .error _ s => s

/-- A step that also tells what happened on the way. -/
def Watched (α : Type) := State → List Act × EStateM.Result Error State α

namespace Watched

variable {α β : Type}

/-- The step alone. -/
def forget (x : Watched α) : Interp α := fun s => (x s).2

/-- A step during which nothing happens to the frames. -/
def still (x : Interp α) : Watched α := fun s => ([], x s)

/-- One step after the other; an error ends them. -/
def andThen (x : Watched α) (f : α → Watched β) : Watched β := fun s =>
  match x s with
  | (acts, .ok a s') => (acts ++ (f a s').1, (f a s').2)
  | (acts, .error e s') => (acts, .error e s')

theorem andThen_ok {x : Watched α} {f : α → Watched β} {s s' : State} {a : α}
    (ok : (x s).2 = .ok a s') : x.andThen f s = ((x s).1 ++ (f a s').1, (f a s').2) := by
  rcases h : x s with ⟨acts, r⟩
  obtain rfl : r = .ok a s' := by rw [← ok, h]
  simp [andThen, h]

theorem andThen_error {x : Watched α} {f : α → Watched β} {s s' : State} {e : Error}
    (failed : (x s).2 = .error e s') : x.andThen f s = ((x s).1, .error e s') := by
  rcases h : x s with ⟨acts, r⟩
  obtain rfl : r = .error e s' := by rw [← failed, h]
  simp [andThen, h]

/-- A single act. -/
def act (a : State → Act) : Watched Unit := fun s =>
  ([a s], .ok () { s with stack := (a s).apply s.stack })

/-- An operation of the machine. -/
def operation (op : Op α) : Watched α := fun s =>
  (if op.asks s.machine.bench then [.ask] else [], Interp.ofOp op s)

/-- A step between the beginning and the end of a call. -/
def inFrame (parameters : Bindings Value) (body : Watched Value) : Watched Value := fun s =>
  match body { s with stack := s.stack.enter parameters } with
  | (acts, .ok v s') =>
    (.enter parameters :: (acts ++ [.leave]), .ok v { s' with stack := s'.stack.leave })
  | (acts, .error e s') =>
    (.enter parameters :: (acts ++ [.leave]), .error e { s' with stack := s'.stack.leave })

/-- A step that goes on after an error. -/
def outcome (x : Watched α) : Watched (Except Error α) := fun s =>
  match x s with
  | (acts, .ok a s') => (acts, .ok (.ok a) s')
  | (acts, .error e s') => (acts, .ok (.error e) s')

end Watched

/-- What makes a value of a tree, watched. -/
abbrev WatchedEvaluate := Mode → Tree → Watched Value

/-- Does what the debugger asks for, watched. -/
def Pause.watch {α : Type} (below : WatchedEvaluate) (mode : Mode) : Pause α → Watched α
  | done a => .still (return a)
  | fail e => .still (throw e)
  | say s next => (Watched.still (Eval.say s)).andThen fun _ => next.watch below mode
  | ask next =>
    (Watched.still (Action.askAs .debugger "(dbg) " : Action String)).andThen fun line =>
      (next line).watch below mode
  | look next => fun s =>
    (next ⟨s.machine.store, s.debugger, s.machine.world.replies.length⟩).watch below mode s
  | set d next =>
    (Watched.still (modify fun s => { s with debugger := d })).andThen fun _ =>
      next.watch below mode
  | memory next =>
    (Watched.act fun s => .list s.machine.store s.stack.current).andThen fun _ =>
      (Watched.still Eval.listMemory).andThen fun _ => next.watch below mode
  | attempt t next =>
    ((below { mode with debug := false } t).andThen fun v =>
      .still (Op.shown v : Op String)).outcome.andThen fun r => (next r).watch below mode

/-- Checks a statement with the debugger, watched. -/
def Eval.watchCheck (below : WatchedEvaluate) (mode : Mode) (t : Tree) : Watched Unit := fun s =>
  if mode.debug then
    match statementLine t with
    | .ok mark => (checkMark mode.canEvaluate s.stack.depth mark).watch below mode s
    | .error e => ([], .error e s)
  else ([], .ok () s)

/-- Does what a task asks for, watched. -/
def Task.watch {α : Type} (below : WatchedEvaluate) (mode : Mode) : Task α → Watched α
  | done a => .still (return a)
  | fail e => .still (throw e)
  | perform r next => (Watched.operation r.carryOut).andThen fun v => (next v).watch below mode
  | look next => fun s => (next s.machine.store s.stack).watch below mode s
  | change c next => (Watched.act fun _ => .change c).andThen fun _ => next.watch below mode
  | check t next => (Eval.watchCheck below mode t).andThen fun _ => next.watch below mode
  | evaluate quiet t next =>
    (below { mode with debug := mode.debug && !quiet } t).andThen fun v =>
      (next v).watch below mode
  | call parameters body next =>
    ((below mode body).inFrame parameters).andThen fun v => (next v).watch below mode

/-- The value of a tree with so many levels left, watched. -/
def watchAt : Nat → WatchedEvaluate
  | 0 => fun _ _ => .still (throw .nesting)
  | n + 1 => fun mode t => (Eval.task t).watch (watchAt n) mode

/-- The value of a tree, watched. -/
def watch (mode : Mode) (t : Tree) : Watched Value := watchAt nestingLimit mode t

/-- What happens to the frames while a tree is evaluated. -/
def history (mode : Mode) (t : Tree) (s : State) : List Act := (watch mode t s).1

/-! ### Forgetting the acts -/

namespace Watched

variable {α β : Type}

theorem forget_andThen (x : Watched α) (f : α → Watched β) :
    (x.andThen f).forget = x.forget >>= fun a => (f a).forget := by
  funext s
  rcases h : x s with ⟨acts, a | e⟩ <;>
    simp [forget, andThen, bind, EStateM.bind, h]

theorem modifyStack_apply (f : CallStack → CallStack) (s : State) :
    Interp.modifyStack f s = .ok () { s with stack := f s.stack } := rfl

theorem forget_inFrame (parameters : Bindings Value) (body : Watched Value) :
    (body.inFrame parameters).forget = Eval.inFrame parameters body.forget := by
  funext s
  rcases h : body { s with stack := s.stack.enter parameters } with ⟨acts, v | e⟩ <;>
    simp [forget, inFrame, Eval.inFrame, modifyStack_apply, tryFinally, bind, EStateM.bind,
      MonadFinally.tryFinally', Functor.map, EStateM.map, h]

theorem forget_outcome (x : Watched α) : x.outcome.forget = Eval.outcome x.forget := by
  funext s
  rcases h : x s with ⟨acts, a | e⟩ <;>
    simp only [forget, outcome, Eval.outcome, tryCatch, tryCatchThe, MonadExceptOf.tryCatch,
      EStateM.tryCatch, bind, EStateM.bind, h] <;>
    rfl

end Watched

section Forget

variable {α : Type} {below : WatchedEvaluate} {evaluate : Evaluate}

theorem Pause.forget_watch (agree : ∀ mode t, (below mode t).forget = evaluate mode t)
    (mode : Mode) (p : Pause α) : (p.watch below mode).forget = p.run evaluate mode := by
  induction p with
  | done a => rfl
  | fail e => rfl
  | say s next ih => simp only [watch, run, Watched.forget_andThen, ih]; rfl
  | ask next ih => simp only [watch, run, Watched.forget_andThen, ih]; rfl
  | look next ih =>
    funext s
    exact congrFun (ih ⟨s.machine.store, s.debugger, s.machine.world.replies.length⟩) s
  | set d next ih => simp only [watch, run, Watched.forget_andThen, ih]; rfl
  | memory next ih => simp only [watch, run, Watched.forget_andThen, ih]; rfl
  | attempt t next ih =>
    simp only [watch, run, Watched.forget_andThen, Watched.forget_outcome, agree, ih]
    rfl

theorem Eval.forget_watchCheck (agree : ∀ mode t, (below mode t).forget = evaluate mode t)
    (mode : Mode) (t : Tree) :
    (Eval.watchCheck below mode t).forget = Eval.check evaluate mode t := by
  funext s
  by_cases debug : mode.debug
  · cases h : statementLine t with
    | ok mark =>
      have same := congrFun (Pause.forget_watch agree mode
        (checkMark mode.canEvaluate s.stack.depth mark)) s
      simp only [Watched.forget, watchCheck, check, debug, h, if_true]
      exact same
    | error e =>
      simp only [Watched.forget, watchCheck, check, debug, h, if_true]
      rfl
  · simp only [Watched.forget, watchCheck, check, debug]
    rfl

theorem Task.forget_watch (agree : ∀ mode t, (below mode t).forget = evaluate mode t)
    (mode : Mode) (task : Task α) :
    (task.watch below mode).forget = task.run evaluate mode := by
  induction task with
  | done a => rfl
  | fail e => rfl
  | perform r next ih => simp only [watch, run, Watched.forget_andThen, ih]; rfl
  | look next ih =>
    funext s
    exact congrFun (ih s.machine.store s.stack) s
  | change c next ih => simp only [watch, run, Watched.forget_andThen, ih]; rfl
  | check t next ih =>
    simp only [watch, run, Watched.forget_andThen, Eval.forget_watchCheck agree, ih]
  | evaluate quiet t next ih => simp only [watch, run, Watched.forget_andThen, agree, ih]
  | call parameters body next ih =>
    simp only [watch, run, Watched.forget_andThen, Watched.forget_inFrame, agree, ih]

end Forget

theorem forget_watchAt (n : Nat) (mode : Mode) (t : Tree) :
    (watchAt n mode t).forget = evalAt n mode t := by
  induction n generalizing mode t with
  | zero => rfl
  | succ n ih => exact Task.forget_watch ih mode (Eval.task t)

/-- Watching a run does not change it. -/
theorem forget_watch (mode : Mode) (t : Tree) : (watch mode t).forget = eval mode t :=
  forget_watchAt nestingLimit mode t

/-! ### Replaying the acts -/

/-- A step whose runs all lie within a relation. -/
def Interp.Within {α : Type} (x : Interp α) (rel : State → State → Prop) : Prop :=
  ∀ s, rel s (endState (x s))

theorem Eval.listMemory_apply (s : State) :
    Eval.listMemory s = match listing s.machine.store s.stack.current with
      | .ok lines => lines.forM say s
      | .error e => .error e s := by
  change ((liftM (listing s.machine.store s.stack.current) : Interp (List String)) >>= fun lines =>
    lines.forM say) s = _
  cases listing s.machine.store s.stack.current <;> rfl

namespace Interp

variable {α β : Type} {rel : State → State → Prop}

theorem Within.bind {x : Interp α} {f : α → Interp β} (first : x.Within rel)
    (join : ∀ {s s' s'' : State}, rel s s' → rel s' s'' → rel s s'')
    (rest : ∀ a, (f a).Within rel) : (x >>= f).Within rel := by
  intro s
  have before := first s
  simp only [Bind.bind, EStateM.bind]
  cases ran : x s with
  | ok a s' =>
    rw [ran] at before
    exact join before (rest a s')
  | error e s' =>
    rw [ran] at before
    exact before

theorem within_listMemory (refl : ∀ s, rel s s)
    (join : ∀ {s s' s'' : State}, rel s s' → rel s' s'' → rel s s'')
    (say : ∀ text, (Eval.say text).Within rel) : Eval.listMemory.Within rel := by
  have all : ∀ lines : List String, (lines.forM Eval.say).Within rel := by
    intro lines
    induction lines with
    | nil => exact refl
    | cons line rest ih => exact (say line).bind join fun _ => ih
  intro s
  rw [Eval.listMemory_apply]
  cases Eval.listing s.machine.store s.stack.current with
  | ok texts => exact all texts s
  | error e => exact refl s

end Interp

/-- A step that leaves the frames alone. -/
def KeepsFrames {α : Type} (x : Interp α) : Prop := ∀ s, (endState (x s)).stack = s.stack

section KeepsFrames

variable {α β : Type}

theorem keepsFrames_pure (a : α) : KeepsFrames (pure a) := fun _ => rfl

theorem keepsFrames_throw (e : Error) : KeepsFrames (throw e : Interp α) := fun _ => rfl

theorem keepsFrames_ofOp (op : Op α) : KeepsFrames (Interp.ofOp op) := by
  rintro ⟨⟨⟨desk, console⟩, store, templates⟩, stack, debugger⟩
  simp only [Interp.ofOp]
  cases op.run (⟨desk, store, templates⟩, console) <;> rfl

theorem keepsFrames_say (s : String) : KeepsFrames (Eval.say s) :=
  keepsFrames_ofOp (Op.ofAction (Action.sayAs .debugger (s ++ "\n")))

theorem keepsFrames_listMemory : KeepsFrames Eval.listMemory :=
  @Interp.within_listMemory (fun s s' => s'.stack = s.stack) (fun _ => rfl)
    (fun first second => second.trans first) keepsFrames_say

end KeepsFrames

/-- A watched step whose acts explain its last call stack. -/
def Faithful {α : Type} (x : Watched α) : Prop :=
  ∀ s, (endState (x s).2).stack = replay s.stack (x s).1

section Faithful

variable {α β : Type}

theorem faithful_still {x : Interp α} (kept : KeepsFrames x) : Faithful (.still x) := kept

theorem faithful_andThen {x : Watched α} {f : α → Watched β} (hx : Faithful x)
    (hf : ∀ a, Faithful (f a)) : Faithful (x.andThen f) := by
  intro s
  have first := hx s
  cases h : (x s).2 with
  | ok a s' =>
    have second := hf a s'
    simp only [h, endState] at first
    simpa only [Watched.andThen_ok h, replay_append, first] using second
  | error e s' =>
    simp only [h, endState] at first
    simpa only [Watched.andThen_error h, endState] using first

theorem faithful_act (a : State → Act) : Faithful (.act a) := fun _ => rfl

theorem faithful_operation (op : Op α) : Faithful (.operation op) := by
  intro s
  have same := keepsFrames_ofOp op s
  cases asks : op.asks s.machine.bench <;> simpa [Watched.operation, asks, Act.apply] using same

theorem faithful_inFrame (parameters : Bindings Value) {body : Watched Value}
    (hb : Faithful body) : Faithful (body.inFrame parameters) := by
  intro s
  have inside := hb { s with stack := s.stack.enter parameters }
  rcases h : body { s with stack := s.stack.enter parameters } with ⟨acts, v | e⟩ <;>
    simp_all [Watched.inFrame, endState, Act.apply]

theorem faithful_outcome {x : Watched α} (hx : Faithful x) : Faithful x.outcome := by
  intro s
  have same := hx s
  rcases h : x s with ⟨acts, a | e⟩ <;> simp_all [Watched.outcome, endState]

variable {below : WatchedEvaluate}

theorem Pause.faithful_watch (hb : ∀ mode t, Faithful (below mode t)) (mode : Mode)
    (p : Pause α) : Faithful (p.watch below mode) := by
  induction p with
  | done a => exact faithful_still (keepsFrames_pure a)
  | fail e => exact faithful_still (keepsFrames_throw e)
  | say s next ih => exact faithful_andThen (faithful_still (keepsFrames_say s)) fun _ => ih
  | ask next ih => exact faithful_andThen (faithful_still (keepsFrames_ofOp _)) ih
  | look next ih => exact fun s => ih _ s
  | set d next ih => exact faithful_andThen (faithful_still fun _ => rfl) fun _ => ih
  | memory next ih =>
    exact faithful_andThen (faithful_act _) fun _ =>
      faithful_andThen (faithful_still keepsFrames_listMemory) fun _ => ih
  | attempt t next ih =>
    exact faithful_andThen (faithful_outcome (faithful_andThen (hb _ t)
      fun v => faithful_still (keepsFrames_ofOp _))) ih

theorem Eval.faithful_watchCheck (hb : ∀ mode t, Faithful (below mode t)) (mode : Mode)
    (t : Tree) : Faithful (Eval.watchCheck below mode t) := by
  intro s
  unfold watchCheck
  split
  · split
    · exact Pause.faithful_watch hb mode _ s
    · rfl
  · rfl

theorem Task.faithful_watch (hb : ∀ mode t, Faithful (below mode t)) (mode : Mode)
    (task : Task α) : Faithful (task.watch below mode) := by
  induction task with
  | done a => exact faithful_still (keepsFrames_pure a)
  | fail e => exact faithful_still (keepsFrames_throw e)
  | perform r next ih => exact faithful_andThen (faithful_operation _) ih
  | look next ih => exact fun s => ih _ _ s
  | change c next ih => exact faithful_andThen (faithful_act _) fun _ => ih
  | check t next ih =>
    exact faithful_andThen (Eval.faithful_watchCheck hb mode t) fun _ => ih
  | evaluate quiet t next ih => exact faithful_andThen (hb _ t) ih
  | call parameters body next ih =>
    exact faithful_andThen (faithful_inFrame parameters (hb mode body)) ih

end Faithful

theorem faithful_watchAt (n : Nat) (mode : Mode) (t : Tree) : Faithful (watchAt n mode t) := by
  induction n generalizing mode t with
  | zero => exact faithful_still (keepsFrames_throw _)
  | succ n ih => exact Task.faithful_watch ih mode (Eval.task t)

/-- The call stack after a run is what its history makes of the call stack before it. -/
theorem endState_eval_stack (mode : Mode) (t : Tree) (s : State) :
    (endState (eval mode t s)).stack = replay s.stack (history mode t s) := by
  have same := congrFun (forget_watch mode t) s
  rw [← same]
  exact faithful_watchAt nestingLimit mode t s

/-! ### Runs one after the other -/

/-- The states of an interpreter between two runs. It starts with one frame, in which nothing is
declared outer; any run leads on from there, however it ends, and between two runs everything but
the frames may change. -/
inductive Reachable : State → Prop
  | start {s : State} (alone : s.stack.callers = []) (plain : s.stack.current.outer = []) :
      Reachable s
  | run {s : State} (before : Reachable s) (mode : Mode) (t : Tree) :
      Reachable (endState (eval mode t s))
  | pause {s s' : State} (before : Reachable s) (same : s'.stack = s.stack) : Reachable s'

/-- From this call stack on, these acts happen in some run of an interpreter. -/
def Occurs (stack : CallStack) (acts : List Act) : Prop :=
  ∃ s mode t before after, Reachable s ∧ history mode t s = before ++ (acts ++ after) ∧
    stack = replay s.stack before

end DeskScript
