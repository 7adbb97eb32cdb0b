import DeskScript.Proofs.Pauses
import DeskScript.Proofs.Scripted

/-!
# Debugging

A run with the debugger does what the run without it does. The two runs go side by side: between two
things that the script asks for, their states differ in the debugger and at the console only, and a
check adds to no other difference. So a run with the debugger ends as the run without it does, unless
it stops at the prompt before.
-/

namespace DeskScript

open Syntax

/-- Two states that differ at most in the debugger and in what it has read and printed. -/
structure Alike (s s' : State) : Prop where
  bench : s'.machine.bench = s.machine.bench
  stack : s'.stack = s.stack
  heard : s'.console.heard = s.console.heard

/-- A state of a run with the debugger that goes with a state of the run without it. -/
structure Shadows (s s' : State) : Prop extends Alike s s' where
  debuggable : s'.Debuggable
  known : s'.stack.Known

theorem Shadows.talked {s s' s'' : State} (shadows : Shadows s s') (talked : Talked s' s'') :
    Shadows s s'' where
  bench := talked.bench.trans shadows.bench
  stack := talked.stack.trans shadows.stack
  heard := talked.heard.trans shadows.heard
  debuggable := talked.debuggable shadows.debuggable
  known := talked.stack ▸ shadows.known

/-- Two runs that end with the same value or the same error, in states that go together. -/
def SameEnd {α : Type} (together : State → State → Prop)
    (r r' : EStateM.Result Error State α) : Prop :=
  ∃ result s s', r = ending result s ∧ r' = ending result s' ∧ together s s'

/-- A run that the debugger has stopped: at the prompt, or where it had to list values that are
nested too deeply. -/
def Stopped {α : Type} (r : EStateM.Result Error State α) : Prop :=
  AtPrompt r ∨ ∃ s, r = .error .nesting s

/-- A step of the run with the debugger does what the step without it does, or is stopped, as long
as the script asks for no line and the debugger lists short values only. -/
def Follows {α : Type} (x y : Watched α) : Prop :=
  ∀ s s', Shadows s s' → .ask ∉ (x s).1 → Listable (y s').1 →
    Stopped (y s').2 ∨ SameEnd Shadows (x s).2 (y s').2

section Follows

variable {α β : Type} {parameters : Bindings Value} {body : Watched Value} {s : State}

theorem Stopped.andThen {y : Watched α} {g : α → Watched β} (stop : Stopped (y s).2) :
    Stopped (y.andThen g s).2 := by
  rcases stop with ⟨s', ended, last⟩ | ⟨s', deep⟩
  · exact Or.inl ⟨s', congrArg Prod.snd (Watched.andThen_error ended), last⟩
  · exact Or.inr ⟨s', congrArg Prod.snd (Watched.andThen_error deep)⟩

/-- What happens in the first of two steps happens in both together. -/
theorem Watched.mem_andThen {x : Watched α} {f : α → Watched β} {act : Act} (member : act ∈ (x s).1) :
    act ∈ (x.andThen f s).1 := by
  cases h : (x s).2 with
  | ok a s' => simp [andThen_ok h, member]
  | error e s' => simp [andThen_error h, member]

theorem follows_still (result : Except Error α) :
    Follows (.still fun s => ending result s) (.still fun s => ending result s) :=
  fun s s' shadows _ _ => Or.inr ⟨result, s, s', rfl, rfl, shadows⟩

theorem follows_andThen {x y : Watched α} {f g : α → Watched β} (first : Follows x y)
    (rest : ∀ a, Follows (f a) (g a)) : Follows (x.andThen f) (y.andThen g) := by
  intro s s' shadows silent listable
  rcases first s s' shadows (fun member => silent (Watched.mem_andThen member))
    (fun store frame member => listable store frame (Watched.mem_andThen member)) with
    stop | ⟨result, s₁, s₁', endx, endy, shadows₁⟩
  · exact Or.inl stop.andThen
  · cases result with
    | error e =>
      rw [Watched.andThen_error endx, Watched.andThen_error endy]
      exact Or.inr ⟨.error e, s₁, s₁', rfl, rfl, shadows₁⟩
    | ok a =>
      rw [Watched.andThen_ok endx] at silent ⊢
      rw [Watched.andThen_ok endy] at listable ⊢
      exact rest a s₁ s₁' shadows₁ (fun member => silent (List.mem_append_right _ member))
        fun store frame member => listable store frame (List.mem_append_right _ member)

theorem follows_operation (op : Op α) : Follows (.operation op) (.operation op) := by
  intro s s' shadows silent _
  have noLine : op.asks s.machine.bench = false := by
    by_contra asks
    simp [Watched.operation, asks] at silent
  obtain ⟨result, bench, texts, same⟩ := ofOp_of_not_asks op s.machine.bench noLine
  refine Or.inr ⟨result, _, _, same s rfl, same s' shadows.bench, ?_⟩
  refine ⟨⟨rfl, shadows.stack, ?_⟩, ?_, ?_⟩
  · change (s'.console.sayAll texts).heard = (s.console.sayAll texts).heard
    rw [Console.heard_sayAll, Console.heard_sayAll, shadows.heard]
  · exact ⟨shadows.debuggable.plain, shadows.debuggable.ready⟩
  · exact shadows.known

theorem Shadows.move {s' : State} (shadows : Shadows s s') (f : CallStack → CallStack)
    (known : (f s'.stack).Known) :
    Shadows { s with stack := f s.stack } { s' with stack := f s'.stack } :=
  ⟨⟨shadows.bench, congrArg f shadows.stack, shadows.heard⟩,
    ⟨shadows.debuggable.plain, shadows.debuggable.ready⟩, known⟩

theorem follows_change {c : Change} (proper : c.Proper) :
    Follows (.act fun _ => .change c) (.act fun _ => .change c) := by
  intro s s' shadows _ _
  exact Or.inr ⟨.ok (), _, _, rfl, rfl, shadows.move _ (shadows.known.change proper)⟩

/-- A call ends as its body does, in the frames of the caller. -/
theorem Watched.inFrame_ending {s₁ : State} {result : Except Error Value}
    (ended : (body { s with stack := s.stack.enter parameters }).2 = ending result s₁) :
    body.inFrame parameters s =
      (.enter parameters :: ((body { s with stack := s.stack.enter parameters }).1 ++ [.leave]),
        ending result { s₁ with stack := s₁.stack.leave }) := by
  rcases h : body { s with stack := s.stack.enter parameters } with ⟨acts, r⟩
  obtain rfl : r = ending result s₁ := by rw [← ended, h]
  cases result <;> simp [inFrame, ending, h]

theorem Watched.mem_inFrame {act : Act}
    (member : act ∈ (body { s with stack := s.stack.enter parameters }).1) :
    act ∈ (body.inFrame parameters s).1 := by
  obtain ⟨result, s₁, ended⟩ := exists_ending (body { s with stack := s.stack.enter parameters }).2
  simp [inFrame_ending ended, member]

theorem Stopped.inFrame (stop : Stopped (body { s with stack := s.stack.enter parameters }).2) :
    Stopped (body.inFrame parameters s).2 := by
  rcases stop with ⟨s', ended, last⟩ | ⟨s', deep⟩
  · rw [Watched.inFrame_ending (show _ = ending (.error .endOfInput) s' from ended)]
    exact Or.inl ⟨_, rfl, last⟩
  · rw [Watched.inFrame_ending (show _ = ending (.error .nesting) s' from deep)]
    exact Or.inr ⟨_, rfl⟩

theorem follows_inFrame (parameters : Bindings Value) {x y : Watched Value} (inside : Follows x y) :
    Follows (x.inFrame parameters) (y.inFrame parameters) := by
  intro s s' shadows silent listable
  have entered := shadows.move (·.enter parameters) (shadows.known.enter parameters)
  rcases inside _ _ entered (fun member => silent (Watched.mem_inFrame member))
    (fun store frame member => listable store frame (Watched.mem_inFrame member)) with
    stop | ⟨result, s₁, s₁', endx, endy, shadows₁⟩
  · exact Or.inl stop.inFrame
  · rw [Watched.inFrame_ending endx, Watched.inFrame_ending endy]
    exact Or.inr ⟨result, _, _, rfl, rfl, shadows₁.move CallStack.leave shadows₁.known.leave⟩

/-- Only the run with the debugger checks a statement. -/
theorem follows_check {below below' : WatchedEvaluate} {mode : Mode} {t : Tree} (node : t.isNode) :
    Follows (Eval.watchCheck below { mode with debug := false } t)
      (Eval.watchCheck below' mode t) := by
  intro s s' shadows _ listable
  rcases check_calm node s' shadows.debuggable listable with stop | deep | ⟨s'', passed, talked⟩
  · exact Or.inl (Or.inl stop)
  · exact Or.inl (Or.inr deep)
  · exact Or.inr ⟨.ok (), s, s'', rfl, passed, shadows.talked talked⟩

/-- What a proper task asks for is done alike in both runs, if trees are evaluated alike. -/
theorem Task.follows_watch {below below' : WatchedEvaluate}
    (agree : ∀ mode t, t.Checkable → Follows (below { mode with debug := false } t) (below' mode t))
    (mode : Mode) {task : Task α} (proper : task.Proper) :
    Follows (task.watch below { mode with debug := false }) (task.watch below' mode) := by
  induction task with
  | done a => exact follows_still (.ok a)
  | fail e => exact follows_still (.error e)
  | perform r next ih => exact follows_andThen (follows_operation _) fun v => ih v (proper v)
  | look next ih =>
    intro s s' shadows
    have same : s'.machine.store = s.machine.store := congrArg Bench.store shadows.bench
    have known : s.stack.Known := shadows.stack ▸ shadows.known
    simp only [watch, same, shadows.stack]
    exact ih s.machine.store s.stack (proper _ _ known) s s' shadows
  | change c next ih => exact follows_andThen (follows_change proper.1) fun _ => ih proper.2
  | check t next ih => exact follows_andThen (follows_check proper.1) fun _ => ih proper.2
  | evaluate quiet t next ih =>
    -- Without the debugger a quiet evaluation is no different from another.
    exact follows_andThen (agree { mode with debug := mode.debug && !quiet } t proper.1) fun v =>
      ih v (proper.2 v)
  | call parameters body next ih =>
    exact follows_andThen (follows_inFrame parameters (agree mode body proper.1)) fun v =>
      ih v (proper.2 v)

end Follows

theorem follows_watchAt (n : Nat) (mode : Mode) {t : Tree} (checkable : t.Checkable) :
    Follows (watchAt n { mode with debug := false } t) (watchAt n mode t) := by
  induction n generalizing mode t with
  | zero => exact follows_still (.error .nesting)
  | succ n ih => exact Task.follows_watch (fun mode t => ih mode) mode (Eval.proper_task checkable)

/-- Debugging does not change what a script does, whatever scripts have been run before it, whatever
the world and the breakpoints are, and whatever plain lines wait at the console, as long as stepping
over and out come with a depth. A run with the debugger ends at its prompt for want of input, or it
ends as the run without it does: with the same value or error, the same frames, lists, files and
devices, and the same texts printed but for those of the debugger. The script may not ask for lines
itself, nothing may be nested too deeply, and no frame may be listed that holds a whole number too
long to be shown. -/
theorem debugging_changes_nothing {source : String} {t : Tree} (parsed : parse source = .ok t)
    (mode : Mode) {s : State} (scripted : Scripted s)
    (plain : ∀ r ∈ s.console.replies, r.Plain) (ready : s.debugger.Ready)
    (silent : .ask ∉ history { mode with debug := false } t s)
    (short : Listable (history { mode with debug := true } t s))
    (shallow : ∀ s', eval { mode with debug := true } t s ≠ .error .nesting s') :
    AtPrompt (eval { mode with debug := true } t s) ∨
      SameEnd Alike (eval { mode with debug := false } t s)
        (eval { mode with debug := true } t s) := by
  have shadows : Shadows s s := ⟨⟨rfl, rfl, rfl⟩, ⟨plain, ready⟩, scripted.known⟩
  have follows := follows_watchAt nestingLimit { mode with debug := true }
    (checkable_of_parse parsed) s s shadows silent short
  have off := congrFun (forget_watch { mode with debug := false } t) s
  have on := congrFun (forget_watch { mode with debug := true } t) s
  rw [← on] at shallow ⊢
  rw [← off]
  rcases follows with (stop | ⟨s', deep⟩) | ⟨result, s₁, s₁', first, second, together⟩
  · exact Or.inl stop
  · exact absurd deep (shallow s')
  · exact Or.inr ⟨result, s₁, s₁', first, second, together.toAlike⟩

/-! ### A pause on a breakpoint -/

/-- A breakpoint on the first line, and a line at the console that lets the run go on. -/
def breakpointState : State :=
  { machine := { world := { replies := [{ line := "c" }] } }, debugger := { breakpoints := [1] } }

/-- The run pauses on its only statement. -/
theorem debugging_changes_nothing_breakpoint : ∃ t, parse "null;" = .ok t ∧
    Scripted breakpointState ∧ (∀ r ∈ breakpointState.console.replies, r.Plain) ∧
    breakpointState.debugger.Ready ∧ .ask ∉ history { debug := false } t breakpointState ∧
    Listable (history { debug := true } t breakpointState) ∧
    (∀ s', eval { debug := true } t breakpointState ≠ .error .nesting s') ∧
    (AtPrompt (eval { debug := true } t breakpointState) ∨
      SameEnd Alike (eval { debug := false } t breakpointState)
        (eval { debug := true } t breakpointState)) := by
  obtain ⟨t, parsed, off, on, v, s', ended, -⟩ : ∃ t, parse "null;" = .ok t ∧
      (history { debug := false } t breakpointState).isEmpty ∧
      (history { debug := true } t breakpointState).isEmpty ∧
      ∃ v s', eval { debug := true } t breakpointState = .ok v s' ∧ ¬ Eval.isSignal v := by
    decide +kernel
  rw [List.isEmpty_iff] at off on
  have scripted : Scripted breakpointState := .start (by simp [breakpointState, CallStack.frames])
  have plain : ∀ r ∈ breakpointState.console.replies, r.Plain := by
    intro r member
    obtain rfl : r = { line := "c" } := by
      simpa [breakpointState, State.console] using member
    have command : Eval.command "c" = .resume := by decide +kernel
    exact ⟨rfl, rfl, by simp [command]⟩
  have ready : breakpointState.debugger.Ready := by simp [breakpointState, Debugger.Ready]
  have silent : .ask ∉ history { debug := false } t breakpointState := by simp [off]
  have short : Listable (history { debug := true } t breakpointState) := by simp [on, Listable]
  have shallow : ∀ s', eval { debug := true } t breakpointState ≠ .error .nesting s' := by
    simp [ended]
  exact ⟨t, parsed, scripted, plain, ready, silent, short, shallow,
    debugging_changes_nothing parsed {} scripted plain ready silent short shallow⟩

end DeskScript
