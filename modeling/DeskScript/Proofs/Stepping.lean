import DeskScript.Proofs.Mutation
import DeskScript.Proofs.Pauses

/-!
# Stepping

A check of a statement either goes by or pauses, and a pause takes lines from the console up to a
command that ends it. What the debugger evaluates at its prompt leaves its own state alone. So the
state of the debugger follows from the checks and the commands, and with it where the next pause is.
-/

namespace DeskScript

variable {evaluate : Evaluate}

open Syntax

/-! ### Steps that leave the debugger alone -/

/-- Between two states the debugger has not changed, and lines were taken from the console at most. -/
structure Aside (s s' : State) : Prop where
  debugger : s'.debugger = s.debugger
  replies : s'.console.replies <:+ s.console.replies

theorem Aside.refl (s : State) : Aside s s := ⟨rfl, List.suffix_rfl⟩

theorem Aside.trans {s s' s'' : State} (first : Aside s s') (second : Aside s' s'') : Aside s s'' :=
  ⟨second.debugger.trans first.debugger, second.replies.trans first.replies⟩

/-- A relation between the states before and after a step that asks nothing of what leaves the
debugger alone, and that holds of one step after the other. -/
structure Spans (rel : State → State → Prop) : Prop where
  aside {s s' : State} (aside : Aside s s') : rel s s'
  join {s s' s'' : State} (first : rel s s') (second : rel s' s'') : rel s s''

theorem spans_aside : Spans Aside := ⟨id, Aside.trans⟩

/-- A routine takes lines from the front. -/
theorem Routine.replies_suffix {σ α : Type} (r : Routine σ α) (s : σ) (c : Console) :
    ∃ result s' c', r.run (s, c) = ending result (s', c') ∧ c'.replies <:+ c.replies := by
  induction r generalizing s c with
  | done a => exact ⟨.ok a, s, c, rfl, List.suffix_rfl⟩
  | fail e => exact ⟨.error e, s, c, rfl, List.suffix_rfl⟩
  | step f next ih => exact ih (f s).1 (f s).2 c
  | say speaker t next ih => exact ih s (c.say speaker t)
  | ask speaker prompt next ih =>
    obtain ⟨replies, printed⟩ := c
    cases replies with
    | nil => exact ⟨.error .endOfInput, s, _, rfl, List.suffix_rfl⟩
    | cons reply rest =>
      obtain ⟨result, s', c', ran, suffix⟩ := ih reply s ⟨rest, _⟩
      exact ⟨result, s', c', ran, suffix.trans (List.suffix_cons reply rest)⟩

namespace Interp

variable {α β : Type} {rel : State → State → Prop}

theorem within_pure (spans : Spans rel) (a : α) : (pure a : Interp α).Within rel :=
  fun s => spans.aside (.refl s)

theorem within_throw (spans : Spans rel) (e : Error) : (throw e : Interp α).Within rel :=
  fun s => spans.aside (.refl s)

theorem within_ofOp (spans : Spans rel) (op : Op α) : (Interp.ofOp op).Within rel := by
  intro s
  refine spans.aside ?_
  obtain ⟨result, bench, c, ran, suffix⟩ := op.replies_suffix s.machine.bench s.console
  rw [Interp.ofOp_apply, ran]
  cases result <;> exact ⟨rfl, suffix⟩

theorem within_say (spans : Spans rel) (text : String) : (Eval.say text).Within rel := by
  intro s
  obtain ⟨s', said, -, debugger, replies⟩ := say_talked text s
  rw [said]
  exact spans.aside ⟨debugger, replies ▸ List.suffix_rfl⟩

/-- A frame is closed however the step in it ends. -/
theorem endState_inFrame (parameters : Bindings Value) (body : Interp Value) (s : State) :
    endState (Eval.inFrame parameters body s) =
      let last := endState (body { s with stack := s.stack.enter parameters })
      { last with stack := last.stack.leave } := by
  have same := congrFun (Watched.forget_inFrame parameters (.still body)) s
  change (Watched.inFrame parameters (.still body) s).2 = Eval.inFrame parameters body s at same
  rw [← same]
  simp only [Watched.inFrame, Watched.still]
  cases body { s with stack := s.stack.enter parameters } <;> rfl

/-- A frame is opened and closed without the debugger. -/
theorem Within.inFrame {body : Interp Value} (inside : body.Within rel) (spans : Spans rel)
    (parameters : Bindings Value) : (Eval.inFrame parameters body).Within rel := by
  intro s
  have entered : rel s { s with stack := s.stack.enter parameters } :=
    spans.aside ⟨rfl, List.suffix_rfl⟩
  rw [endState_inFrame]
  exact spans.join (spans.join entered (inside _)) (spans.aside ⟨rfl, List.suffix_rfl⟩)

theorem Within.outcome {x : Interp α} (inside : x.Within rel) : (Eval.outcome x).Within rel := by
  intro s
  have before := inside s
  simp only [Eval.outcome, tryCatch, tryCatchThe, MonadExceptOf.tryCatch, EStateM.tryCatch,
    Bind.bind, EStateM.bind]
  cases ran : x s with
  | ok a s' =>
    rw [ran] at before
    exact before
  | error e s' =>
    rw [ran] at before
    exact before

end Interp

open Interp

/-- A run of a task comes to the debugger only where it checks a statement. -/
theorem Task.within_run {α : Type} {rel : State → State → Prop} {mode : Mode}
    (spans : Spans rel) (checks : ∀ t, (Eval.check evaluate mode t).Within rel)
    (inside : ∀ inner : Mode, (inner.debug = true → mode.debug = true) →
      ∀ t, (evaluate inner t).Within rel) (task : Task α) :
    (task.run evaluate mode).Within rel := by
  induction task with
  | done a => exact within_pure spans a
  | fail e => exact within_throw spans e
  | perform r next ih => exact (within_ofOp spans _).bind spans.join ih
  | look next ih => exact fun s => ih _ _ s
  | change c next ih =>
    refine Within.bind (fun s => ?_) spans.join fun _ => ih
    exact spans.aside ⟨rfl, List.suffix_rfl⟩
  | check t next ih => exact (checks t).bind spans.join fun _ => ih
  | evaluate quiet t next ih => exact (inside _ (fun on => by simp_all) t).bind spans.join ih
  | call parameters body next ih =>
    exact ((inside mode id body).inFrame spans parameters).bind spans.join ih

/-- Without checks an evaluation does not come to the debugger. -/
theorem evalAt_aside (n : Nat) {mode : Mode} (off : mode.debug = false) (t : Tree) :
    (evalAt n mode t).Within Aside := by
  induction n generalizing mode t with
  | zero => exact within_throw spans_aside _
  | succ n ih =>
    refine Task.within_run spans_aside (fun t s => ?_) (fun inner on t => ?_) (Eval.task t)
    · simp only [Eval.check, off]
      exact .refl s
    · exact ih (by simpa [off] using on) t

/-! ### The prompt -/

theorem Pause.run_look {α : Type} {mode : Mode} (next : View → Pause α)
    (s : State) : (Pause.look next).run evaluate mode s =
      (next ⟨s.machine.store, s.debugger, s.machine.world.replies.length⟩).run evaluate mode s := rfl

theorem Pause.run_bind {α β : Type} {mode : Mode} (p : Pause α)
    (f : α → Pause β) :
    (p >>= f).run evaluate mode = p.run evaluate mode >>= fun a => (f a).run evaluate mode := by
  change (p.bind f).run evaluate mode = _
  induction p with
  | done a => rfl
  | fail e => rfl
  | say s next ih => simp only [bind, run, ih, bind_assoc]
  | ask next ih => simp only [bind, run, ih, bind_assoc]
  | look next ih => simp only [bind, run, ih, bind_assoc]
  | set d next ih => simp only [bind, run, ih, bind_assoc]
  | memory next ih => simp only [bind, run, ih, bind_assoc]
  | attempt t next ih => simp only [bind, run, ih, bind_assoc]

theorem askAtPrompt_reply {s : State} {r : Reply} {rest : List Reply}
    (waiting : s.console.replies = r :: rest) (willing : r.interrupt = false) :
    ∃ s', askAtPrompt s = .ok r.line s' ∧ s'.debugger = s.debugger ∧ s'.console.replies = rest := by
  obtain ⟨⟨⟨desk, replies, printed⟩, store, templates⟩, stack, debugger⟩ := s
  obtain rfl : replies = r :: rest := waiting
  obtain ⟨cursor, interrupt, line⟩ := r
  obtain rfl : interrupt = false := willing
  exact ⟨_, rfl, rfl, rfl⟩

theorem askAtPrompt_cases (s : State) :
    (∃ e s', askAtPrompt s = .error e s' ∧ s'.debugger = s.debugger) ∨
      ∃ r s', askAtPrompt s = .ok r.line s' ∧ s'.debugger = s.debugger ∧
        s.console.replies = r :: s'.console.replies := by
  cases waiting : s.console.replies with
  | nil =>
    obtain ⟨⟨⟨desk, replies, printed⟩, store, templates⟩, stack, debugger⟩ := s
    obtain rfl : replies = [] := waiting
    exact Or.inl ⟨_, _, rfl, rfl⟩
  | cons r rest =>
    cases interrupt : r.interrupt with
    | true =>
      obtain ⟨⟨⟨desk, replies, printed⟩, store, templates⟩, stack, debugger⟩ := s
      obtain rfl : replies = r :: rest := waiting
      obtain ⟨cursor, _, line⟩ := r
      cases interrupt
      exact Or.inl ⟨_, _, rfl, rfl⟩
    | false =>
      obtain ⟨s', asked, same, left⟩ := askAtPrompt_reply waiting interrupt
      exact Or.inr ⟨r, s', asked, same, by rw [left]⟩

theorem listMemory_aside : Eval.listMemory.Within Aside :=
  within_listMemory .refl Aside.trans (within_say spans_aside)

section Prompt

variable {s : State}

variable {n : Nat} {mode : Mode} {canEvaluate : Bool} {depth : Int}

theorem print_aside (text : String) : ((Pause.print text).run (evalAt n) mode).Within Aside :=
  (within_say spans_aside text).bind spans_aside.join fun _ => within_pure spans_aside ()

theorem attempt_aside (t : Tree) :
    (Eval.outcome (Eval.shownValue (evalAt n) mode t)).Within Aside := by
  have shown : (Eval.shownValue (evalAt n) mode t).Within Aside :=
    (evalAt_aside n rfl t).bind spans_aside.join fun _ => within_ofOp spans_aside _
  exact shown.outcome

theorem inspect_aside (text : String) :
    ((Eval.inspect canEvaluate text).run (evalAt n) mode).Within Aside := by
  unfold Eval.inspect
  split
  · exact print_aside _
  · by_cases able : canEvaluate = true
    · rw [if_pos able]
      refine (attempt_aside _).bind spans_aside.join fun result => ?_
      dsimp only
      split
      · exact print_aside _
      · exact within_throw spans_aside _
      · exact print_aside _
    · rw [if_neg able]
      exact print_aside _

/-- How a pause ends: with an error that leaves the debugger as it was, or with a command, which is
the last line that was taken. -/
inductive Answers (s : State) (depth : Int) : EStateM.Result Error State Unit → Prop
  | stops {e : Error} {s' : State} (same : s'.debugger = s.debugger) : Answers s depth (.error e s')
  | obeys {s' : State} (taken : List Reply) {r : Reply}
      (waiting : s.console.replies = taken ++ r :: s'.console.replies)
      (obeyed : s.debugger.obey? depth (Eval.command r.line) = some s'.debugger) :
      Answers s depth (.ok () s')

/-- What is done besides does not count. -/
theorem Answers.after {s s' : State} {result : EStateM.Result Error State Unit}
    (aside : Aside s s') (answers : Answers s' depth result) : Answers s depth result := by
  cases answers with
  | stops same => exact .stops (same.trans aside.debugger)
  | obeys taken waiting obeyed =>
    obtain ⟨before, split⟩ := aside.replies
    refine .obeys (before ++ taken) ?_ (aside.debugger ▸ obeyed)
    rw [← split, waiting, List.append_assoc]

theorem answers_after {x : Interp Unit} {f : Unit → Interp Unit} (first : x.Within Aside)
    (rest : ∀ s', Answers s' depth (f () s')) : Answers s depth ((x >>= f) s) := by
  have aside := first s
  simp only [bind, EStateM.bind]
  cases ran : x s with
  | ok a s' =>
    rw [ran] at aside
    exact (rest s').after aside
  | error e s' =>
    rw [ran] at aside
    exact .stops aside.debugger

theorem prompt_succ (fuel : Nat) : (Eval.prompt canEvaluate depth (fuel + 1)).run (evalAt n) mode =
    askAtPrompt >>= fun line =>
      (Eval.answer canEvaluate depth (Eval.prompt canEvaluate depth fuel) line).run (evalAt n)
        mode := rfl

theorem answer_obeys {again : Pause Unit} {line : String} {d : Debugger}
    (obeyed : s.debugger.obey? depth (Eval.command line) = some d) :
    (Eval.answer canEvaluate depth again line).run (evalAt n) mode s =
      .ok () { s with debugger := d } := by
  simp only [Eval.answer, Pause.run_look, obeyed]
  rfl

/-- A line that does not end the pause is answered besides, and then it is asked again. -/
theorem answer_aside {again : Pause Unit} {line : String}
    (refused : s.debugger.obey? depth (Eval.command line) = none)
    (rest : ∀ s', Answers s' depth (again.run (evalAt n) mode s')) :
    Answers s depth ((Eval.answer canEvaluate depth again line).run (evalAt n) mode s) := by
  simp only [Eval.answer, Pause.run_look, refused]
  cases Eval.command line with
  | memory => exact answers_after listMemory_aside rest
  | evaluate text =>
    simp only [Pause.run_bind]
    exact answers_after (inspect_aside text) rest
  | resume | step | next | out | unknown => exact rest s

theorem prompt_answers (fuel : Nat) (s : State) :
    Answers s depth ((Eval.prompt canEvaluate depth fuel).run (evalAt n) mode s) := by
  induction fuel generalizing s with
  | zero => exact .stops rfl
  | succ fuel ih =>
    rw [prompt_succ]
    simp only [bind, EStateM.bind]
    rcases askAtPrompt_cases s with ⟨e, s', asked, same⟩ | ⟨r, s', asked, same, waiting⟩
    · rw [asked]
      exact .stops same
    · rw [asked]
      have aside : Aside s s' := ⟨same, waiting ▸ List.suffix_cons _ _⟩
      cases obeyed : s'.debugger.obey? depth (Eval.command r.line) with
      | some d =>
        simp only [answer_obeys obeyed]
        exact .obeys [] waiting (same ▸ obeyed)
      | none => exact (answer_aside obeyed ih).after aside

/-- A pause opens with what it says and then asks. -/
theorem pause_opens (fuel : Nat) (line : Int) (shown : String) (reason : PauseReason) (s : State) :
    ∃ s', s'.debugger = s.debugger ∧ s'.console.replies = s.console.replies ∧
      (Eval.pause canEvaluate depth fuel line shown reason).run (evalAt n) mode s =
        (Eval.prompt canEvaluate depth fuel).run (evalAt n) mode s' := by
  have told : ∀ s, ∃ s', s'.debugger = s.debugger ∧ s'.console.replies = s.console.replies ∧
      (Pause.print s!"Paused ({reason.name}) at line {shown}" >>= fun _ =>
        Eval.prompt canEvaluate depth fuel).run (evalAt n) mode s =
          (Eval.prompt canEvaluate depth fuel).run (evalAt n) mode s' := by
    intro s
    obtain ⟨s', said, -, debugger, replies⟩ :=
      say_talked s!"Paused ({reason.name}) at line {shown}" s
    refine ⟨s', debugger, replies, ?_⟩
    change (Eval.say _ >>= fun _ => (Eval.prompt canEvaluate depth fuel).run (evalAt n) mode) s = _
    simp only [bind, EStateM.bind, said]
  by_cases stop : reason = .breakpoint
  · obtain ⟨s₁, said, -, debugger, replies⟩ := say_talked s!"Hit breakpoint at line {line}" s
    obtain ⟨s₂, debugger', replies', opens⟩ := told s₁
    refine ⟨s₂, debugger'.trans debugger, replies'.trans replies, ?_⟩
    rw [← opens]
    simp only [Eval.pause, if_pos stop]
    change (Eval.say _ >>= fun _ => Pause.run (evalAt n) mode _) s = _
    simp only [bind, EStateM.bind, said]
    rfl
  · simp only [Eval.pause, if_neg stop]
    exact told s

theorem pause_answers (fuel : Nat) (line : Int) (shown : String) (reason : PauseReason) (s : State) :
    Answers s depth ((Eval.pause canEvaluate depth fuel line shown reason).run (evalAt n) mode s) := by
  obtain ⟨s', debugger, replies, opens⟩ := pause_opens fuel line shown reason s
  rw [opens]
  exact (prompt_answers fuel s').after ⟨debugger, replies ▸ List.suffix_rfl⟩

/-- What a check of a line can do: the depth cannot be compared, or the statement goes by, or there
is a pause. -/
inductive Checks (s : State) (line depth : Int) : EStateM.Result Error State Unit → Prop
  | refuses {e : Error} {s' : State} (failed : s.debugger.check line depth = .error e)
      (same : s'.debugger = s.debugger) : Checks s line depth (.error e s')
  | goesBy {s' : State} (goes : s.debugger.check line depth = .ok (none, s'.debugger))
      (quiet : s'.console.replies = s.console.replies) : Checks s line depth (.ok () s')
  | pauses {reason : PauseReason} {d : Debugger} {result : EStateM.Result Error State Unit}
      (stops : s.debugger.check line depth = .ok (some reason, d))
      (answers : Answers { s with debugger := d } depth result) : Checks s line depth result

/-- How a check goes on in a state, once the debugger has answered. -/
def goesOn (n : Nat) (mode : Mode) (line depth : Int) (s : State) :
    Except Error (Option PauseReason × Debugger) → EStateM.Result Error State Unit
  | .error e => .error e s
  | .ok (none, d) => .ok () { s with debugger := d }
  | .ok (some reason, d) =>
    (Eval.pause mode.canEvaluate depth (s.console.replies.length + 1) line (toString line)
      reason).run (evalAt n) mode { s with debugger := d }

/-- A check says what it looks at, asks the debugger, and pauses if that is the answer. -/
theorem checkLine_opens (line : Int) (s : State) : ∃ s',
    Eval.say s!"Checking line {line} at call depth {depth}" s = .ok () s' ∧
      s'.debugger = s.debugger ∧ s'.console.replies = s.console.replies ∧
      Eval.checkLine (evalAt n) mode depth (some (.number line)) s =
        goesOn n mode line depth s' (s.debugger.check line depth) := by
  obtain ⟨s', said, -, debugger, replies⟩ :=
    say_talked s!"Checking line {line} at call depth {depth}" s
  refine ⟨s', said, debugger, replies, ?_⟩
  change (Eval.say s!"Checking line {line} at call depth {depth}" >>= fun _ =>
    (liftM (s.debugger.check line depth) >>= Eval.proceed (Eval.pause mode.canEvaluate depth
      (s.console.replies.length + 1) line (toString line)) : Pause Unit).run (evalAt n) mode) s = _
  simp only [bind, EStateM.bind, said, ← replies]
  rcases s.debugger.check line depth with e | ⟨reason | reason, d⟩ <;> rfl

theorem checkLine_checks (line : Int) (s : State) :
    Checks s line depth (Eval.checkLine (evalAt n) mode depth (some (.number line)) s) := by
  obtain ⟨s', -, debugger, replies, opens⟩ := checkLine_opens line s
  rw [opens]
  cases checked : s.debugger.check line depth with
  | error e => exact .refuses checked debugger
  | ok outcome =>
    obtain ⟨reason, d⟩ := outcome
    cases reason with
    | none => exact .goesBy checked replies
    | some reason =>
      have aside : Aside { s with debugger := d } { s' with debugger := d } :=
        ⟨rfl, replies ▸ List.suffix_rfl⟩
      exact .pauses checked ((pause_answers _ line _ reason _).after aside)

/-- The commands that let a run go on. -/
def goingOn : List DebugCommand := [.resume, .step, .next, .out]

theorem Debugger.obey_goingOn {c : DebugCommand} (ends : c ∈ goingOn) (d : Debugger) :
    ∃ d', d.obey? depth c = some d' := by
  simp only [goingOn, List.mem_cons, List.not_mem_nil, or_false] at ends
  rcases ends with rfl | rfl | rfl | rfl <;> exact ⟨_, rfl⟩

/-- A check is passed where a command to go on waits at the console. -/
theorem checkLine_passes {r : Reply} {rest : List Reply} (ready : s.debugger.Ready)
    (waiting : s.console.replies = r :: rest) (willing : r.interrupt = false)
    (ends : Eval.command r.line ∈ goingOn) (line : Int) :
    ∃ s', Eval.checkLine (evalAt n) mode depth (some (.number line)) s = .ok () s' ∧
      (s'.console.replies = s.console.replies ∨ s'.console.replies = rest) := by
  obtain ⟨s₁, -, debugger, replies, opens⟩ := checkLine_opens line s
  obtain ⟨reason, d, checked, -⟩ := ready.check line depth (.number line)
  rw [opens, checked]
  cases reason with
  | none => exact ⟨_, rfl, Or.inl replies⟩
  | some reason =>
    obtain ⟨s₂, debugger₂, replies₂, paused⟩ := @pause_opens n mode mode.canEvaluate depth
      (s₁.console.replies.length + 1) line (toString line) reason { s₁ with debugger := d }
    have left : s₂.console.replies = r :: rest := replies₂.trans (replies.trans waiting)
    obtain ⟨s₃, asked, debugger₃, replies₃⟩ := askAtPrompt_reply left willing
    obtain ⟨d', obeyed⟩ := Debugger.obey_goingOn ends s₃.debugger
    refine ⟨{ s₃ with debugger := d' }, ?_, Or.inr replies₃⟩
    refine paused.trans ?_
    simp only [prompt_succ, bind, EStateM.bind, asked]
    exact answer_obeys obeyed

end Prompt

theorem statementLine_cases (t : Tree) : (∃ e, Eval.statementLine t = .error e) ∨
    Eval.statementLine t = .ok none ∨ ∃ line, Eval.statementLine t = .ok (some (.number line)) := by
  cases t with
  | node label span children =>
    cases span with
    | none => exact Or.inr (Or.inl rfl)
    | some span => exact Or.inr (Or.inr ⟨_, rfl⟩)
  | leaf token => exact Or.inl ⟨_, rfl⟩
  | datum d => exact Or.inl ⟨_, rfl⟩

/-- The check of a statement is the check of its line, if it has one. -/
theorem check_within {rel : State → State → Prop} {n : Nat} {mode : Mode} (spans : Spans rel)
    (lines : ∀ depth line, (Eval.checkLine (evalAt n) mode depth (some (.number line))).Within rel)
    (t : Tree) : (Eval.check (evalAt n) mode t).Within rel := by
  intro s
  by_cases debug : mode.debug = true
  · simp only [Eval.check, if_pos debug]
    rcases statementLine_cases t with ⟨e, marked⟩ | marked | ⟨line, marked⟩ <;> rw [marked]
    · exact spans.aside (.refl s)
    · exact (within_say spans _).bind spans.join (fun _ => within_pure spans ()) s
    · exact lines _ line s
  · simp only [Eval.check, if_neg debug]
    exact spans.aside (.refl s)

/-! ### Trails of checks -/

/-- A check of a statement: its line, and the depth of calls. -/
structure Check where
  line : Int
  depth : Int
  deriving DecidableEq

/-- A check that a run has passed, with the command that ended the pause if there was one. -/
structure Passed extends Check where
  answer : Option DebugCommand

/-- What the console shows of a check: no line is taken, or the last one taken is the command. -/
def Answered (s s' : State) : Option DebugCommand → Prop
  | none => s'.console.replies = s.console.replies
  | some c => ∃ taken r, s.console.replies = taken ++ r :: s'.console.replies ∧
      Eval.command r.line = c

/-- The checks that are passed one after the other, from one state of the debugger to another.
Between two of them all but the debugger may have changed. -/
inductive Trail : Debugger → List Passed → Debugger → Prop
  | nil (d : Debugger) : Trail d [] d
  | check (n : Nat) (mode : Mode) {s s' : State} {v : Passed} {later : List Passed} {d : Debugger}
      (passed : Eval.checkLine (evalAt n) mode v.depth (some (.number v.line)) s = .ok () s')
      (answered : Answered s s' v.answer) (rest : Trail s'.debugger later d) :
      Trail s.debugger (v :: later) d

namespace Debugger

variable {d d' : Debugger} {v : Passed}

/-- What a passed check does to the debugger. -/
def Passes (d : Debugger) (v : Passed) (d' : Debugger) : Prop :=
  match v.answer with
  | none => d.check v.line v.depth = .ok (none, d')
  | some c => ∃ reason paused, d.check v.line v.depth = .ok (some reason, paused) ∧
      paused.obey? v.depth c = some d'

/-- A mode in which a check pauses off the breakpoints. -/
def Due (d : Debugger) (line depth : Int) : Prop :=
  match d.mode with
  | .run => False
  | .step => ¬d.lastLine.any (·.isAt line)
  | .next => ¬d.lastLine.any (·.isAt line) ∧ ∃ target, d.targetDepth = some target ∧ depth ≤ target
  | .out => ∃ target, d.targetDepth = some target ∧ depth < target

theorem due_of_wants {d : Debugger} {line depth : Int} {reason : Option PauseReason}
    (wants : d.wants line depth = .ok reason) : reason.isSome ↔ d.Due line depth := by
  cases mode : d.mode with
  | run =>
    simp only [Debugger.wants, mode] at wants
    cases wants
    simp [Due, mode]
  | step =>
    simp only [Debugger.wants, mode] at wants
    cases wants
    simp [Due, mode]
  | next =>
    cases target : d.targetDepth with
    | none => simp [Debugger.wants, mode, Debugger.target, target] at wants
    | some depth =>
      simp only [Debugger.wants, mode, Debugger.target, target] at wants
      cases wants
      simp [Due, mode, target, and_comm]
  | out =>
    cases target : d.targetDepth with
    | none => simp [Debugger.wants, mode, Debugger.target, target] at wants
    | some depth =>
      simp only [Debugger.wants, mode, Debugger.target, target] at wants
      cases wants
      simp [Due, mode, target]

/-- What a check says, and the state that it leaves. -/
structure Checked (d : Debugger) (line depth : Int) (reason : Option PauseReason) (d' : Debugger) :
    Prop where
  pauses : reason.isSome ↔ line ∈ d.breakpoints ∨ d.Due line depth
  breakpoints : d'.breakpoints = d.breakpoints
  lastLine : d'.lastLine = some (.number line)
  goesBy : reason = none → d' = { d with lastLine := some (.number line) }

theorem checked_of_check {line depth : Int} {reason : Option PauseReason}
    (check : d.check line depth = .ok (reason, d')) : d.Checked line depth reason d' := by
  by_cases stop : line ∈ d.breakpoints
  · simp only [Debugger.check, if_pos stop] at check
    cases check
    exact ⟨by simp [stop], rfl, rfl, by rintro ⟨⟩⟩
  · simp only [Debugger.check, if_neg stop] at check
    cases wants : d.wants line depth with
    | error e =>
      rw [wants] at check
      cases check
    | ok wanted =>
      have due := due_of_wants wants
      rw [wants] at check
      cases wanted with
      | none =>
        cases check
        exact ⟨by simpa [stop] using due, rfl, rfl, fun _ => rfl⟩
      | some reason =>
        cases check
        exact ⟨by simpa [stop] using due, rfl, rfl, by rintro ⟨⟩⟩

/-- A check that is passed pauses exactly on a breakpoint line or where it is due. -/
theorem Passes.pauses (passes : d.Passes v d') :
    v.answer.isSome ↔ v.line ∈ d.breakpoints ∨ d.Due v.line v.depth := by
  cases answer : v.answer with
  | none =>
    simp only [Passes, answer] at passes
    exact (checked_of_check passes).pauses
  | some c =>
    simp only [Passes, answer] at passes
    obtain ⟨reason, paused, check, -⟩ := passes
    exact (checked_of_check check).pauses

theorem Passes.goesBy (passes : d.Passes v d')
    (quiet : v.answer = none) : d' = { d with lastLine := some (.number v.line) } := by
  simp only [Passes, quiet] at passes
  exact (checked_of_check passes).goesBy rfl

theorem Passes.obeys {c : DebugCommand} (passes : d.Passes v d')
    (answer : v.answer = some c) : ∃ paused : Debugger, paused.breakpoints = d.breakpoints ∧
      paused.lastLine = some (.number v.line) ∧ paused.obey? v.depth c = some d' := by
  simp only [Passes, answer] at passes
  obtain ⟨reason, paused, check, obeyed⟩ := passes
  have checked := checked_of_check check
  exact ⟨paused, checked.breakpoints, checked.lastLine, obeyed⟩

theorem breakpoints_obey {depth : Int} {c : DebugCommand}
    (obeyed : d.obey? depth c = some d') : d'.breakpoints = d.breakpoints := by
  cases c <;> simp only [obey?, Option.some.injEq, reduceCtorEq] at obeyed <;> subst obeyed <;> rfl

theorem Passes.breakpoints (passes : d.Passes v d') :
    d'.breakpoints = d.breakpoints := by
  cases answer : v.answer with
  | none => rw [passes.goesBy answer]
  | some c =>
    obtain ⟨paused, same, -, obeyed⟩ := passes.obeys answer
    rw [breakpoints_obey obeyed, same]

end Debugger

namespace Trail

variable {d d' : Debugger} {skipped later : List Passed}

/-- The first check of a trail, and the trail from there. -/
theorem step {v : Passed} (trail : Trail d (v :: later) d') :
    ∃ between, d.Passes v between ∧ Trail between later d' := by
  cases trail with
  | @check n mode s s' _ _ _ passed answered rest =>
    refine ⟨s'.debugger, ?_, rest⟩
    have checks : Checks s v.line v.depth (Eval.checkLine (evalAt n) mode v.depth _ s) :=
      checkLine_checks v.line s
    rw [passed] at checks
    cases checks with
    | goesBy goes quiet =>
      cases answer : v.answer with
      | none => simpa only [Debugger.Passes, answer] using goes
      | some c =>
        -- The command would have been taken from the console.
        rw [answer] at answered
        obtain ⟨taken, r, waiting, -⟩ := answered
        have length := congrArg List.length waiting
        simp [quiet] at length
        omega
    | pauses stops answers =>
      cases answers with
      | @obeys _ taken r waiting obeyed =>
        cases answer : v.answer with
        | none =>
          rw [answer] at answered
          have length := congrArg List.length (answered.trans waiting)
          simp at length
          omega
        | some c =>
          rw [answer] at answered
          obtain ⟨others, r', waiting', rfl⟩ := answered
          have last : taken ++ [r] = others ++ [r'] := by
            have joined := waiting.symm.trans waiting'
            rw [List.append_cons taken, List.append_cons others] at joined
            exact List.append_cancel_right joined
          obtain ⟨-, same⟩ := List.append_inj' last rfl
          cases same
          simp only [Debugger.Passes, answer]
          exact ⟨_, _, stops, obeyed⟩

theorem split {before : List Passed} (trail : Trail d (before ++ later) d') :
    ∃ between, Trail d before between ∧ Trail between later d' := by
  induction before generalizing d with
  | nil => exact ⟨d, .nil d, trail⟩
  | cons v before ih =>
    cases trail with
    | check n mode passed answered rest =>
      obtain ⟨between, first, second⟩ := ih rest
      exact ⟨between, .check n mode passed answered first, second⟩

theorem breakpoints {trace : List Passed} (trail : Trail d trace d') :
    d'.breakpoints = d.breakpoints := by
  induction trace generalizing d with
  | nil =>
    cases trail
    rfl
  | cons v later ih =>
    obtain ⟨between, passes, rest⟩ := trail.step
    rw [ih rest, passes.breakpoints]

/-- Checks that go by only move the line. -/
theorem goesBy (trail : Trail d skipped d') (quiet : ∀ w ∈ skipped, w.answer = none) :
    d' = { d with
      lastLine := (skipped.getLast?.map fun w => LineMark.number w.line).or d.lastLine } := by
  induction skipped generalizing d with
  | nil =>
    cases trail
    rfl
  | cons v later ih =>
    obtain ⟨between, passes, rest⟩ := trail.step
    have moved := passes.goesBy (quiet v List.mem_cons_self)
    subst moved
    rw [ih rest fun w member => quiet w (List.mem_cons_of_mem v member)]
    cases later with
    | nil => rfl
    | cons w later => simp [List.getLast?_eq_some_getLast]

/-- After checks that went by, the next one pauses on a breakpoint line or where it is due. -/
theorem pauses_after {stop : Passed} (trail : Trail d (skipped ++ stop :: later) d') :
    ∃ between, Trail d skipped between ∧
      (stop.answer.isSome ↔ stop.line ∈ d.breakpoints ∨ between.Due stop.line stop.depth) := by
  obtain ⟨between, first, second⟩ := trail.split
  obtain ⟨_, passes, -⟩ := second.step
  exact ⟨between, first, first.breakpoints ▸ passes.pauses⟩

/-- Stepping, the checks that go by are all on one line. -/
theorem goesBy_step (trail : Trail d skipped d') (quiet : ∀ w ∈ skipped, w.answer = none)
    (mode : d.mode = .step) {last : Int} (at_last : d.lastLine = some (.number last)) : d' = d := by
  induction skipped generalizing d with
  | nil =>
    cases trail
    rfl
  | cons v later ih =>
    obtain ⟨between, passes, rest⟩ := trail.step
    have gone := quiet v List.mem_cons_self
    have same : last = v.line := by
      have due := passes.pauses.not.mp (by simp [gone])
      simpa [Debugger.Due, mode, at_last, LineMark.isAt] using (not_or.mp due).2
    have moved : between = d := by
      rw [passes.goesBy gone, ← same, ← at_last]
    subst moved
    exact ih rest (fun w member => quiet w (List.mem_cons_of_mem v member)) mode at_last

end Trail

/-- The states of the debugger that can come about. -/
inductive Debugger.Reached : Debugger → Prop
  | fresh : Reached {}
  | breakpoints {d : Debugger} (reached : Reached d) (lines : List Int) :
      Reached { d with breakpoints := lines }
  | check {n : Nat} {mode : Mode} {line depth : Int} {s : State} (reached : Reached s.debugger) :
      Reached (endState
        (Eval.checkLine (evalAt n) mode depth (some (.number line)) s)).debugger

namespace Debugger

/-- A check leaves the debugger ready, however it ends. -/
theorem Ready.checks {s : State} {line depth : Int} {result : EStateM.Result Error State Unit}
    (ready : s.debugger.Ready) (checks : Checks s line depth result) :
    (endState result).debugger.Ready := by
  obtain ⟨reason, d, checked, left⟩ := ready.check line depth (.number line)
  cases checks with
  | refuses failed => simp [checked] at failed
  | goesBy goes =>
    rw [checked] at goes
    cases goes
    exact left
  | pauses stops answers =>
    rw [checked] at stops
    cases stops
    cases answers with
    | stops same =>
      rw [endState, same]
      exact left
    | obeys _ _ obeyed => exact ready_of_obey obeyed

theorem Reached.ready {d : Debugger} (reached : d.Reached) : d.Ready := by
  induction reached with
  | fresh => simp [Ready]
  | breakpoints _ lines ih => exact ih
  | check _ ih => exact ih.checks (checkLine_checks _ _)

/-- The states that can come about are kept to. -/
theorem spans_reached : Spans fun s s' => s.debugger.Reached → s'.debugger.Reached :=
  ⟨fun aside reached => aside.debugger ▸ reached, fun first second => second ∘ first⟩

/-- A run keeps to the states that can come about. -/
theorem evalAt_reached (n : Nat) (mode : Mode) (t : Tree) :
    (evalAt n mode t).Within fun s s' => s.debugger.Reached → s'.debugger.Reached := by
  induction n generalizing mode t with
  | zero => exact within_throw spans_reached _
  | succ n ih =>
    refine Task.within_run spans_reached (check_within spans_reached fun _ _ _ => Reached.check)
      (fun inner _ t => ih inner t) _

end Debugger

/-- Stepping stops where it promises. On any trail of checks from a fresh debugger on, every check
on a breakpoint line pauses, and off these lines there is a pause only after a command asked for one:
after a step on the first check on another line; after stepping over at a check that is not deeper and
not on the line of the check before it; after stepping out at the first check that is less deep. In
every state of the debugger that can come about, stepping over and out have a depth to compare with, so
no comparison fails, and a check is passed where a command to go on waits; no run leaves these
states. -/
theorem stepping_stops_as_promised {lines : List Int} {trace : List Passed} {d : Debugger}
    (trail : Trail { breakpoints := lines } trace d) :
    (∀ v ∈ trace, v.line ∈ lines → v.answer.isSome) ∧
    (∀ skipped stop later, trace = skipped ++ stop :: later → (∀ w ∈ skipped, w.answer = none) →
      (stop.answer.isSome ↔ stop.line ∈ lines)) ∧
    (∀ before v c skipped stop later, trace = before ++ v :: (skipped ++ stop :: later) →
      v.answer = some c → (∀ w ∈ skipped, w.answer = none) →
      (c = .resume ∧ (stop.answer.isSome ↔ stop.line ∈ lines)) ∨
      (c = .step ∧ (stop.answer.isSome ↔ stop.line ∈ lines ∨ stop.line ≠ v.line)) ∨
      (c = .next ∧ (stop.answer.isSome ↔ stop.line ∈ lines ∨ stop.depth ≤ v.depth ∧
        stop.line ≠ (skipped.getLast?.map (·.line)).getD v.line)) ∨
      (c = .out ∧ (stop.answer.isSome ↔ stop.line ∈ lines ∨ stop.depth < v.depth))) ∧
    ∀ d : Debugger, d.Reached →
      (d.mode = .next ∨ d.mode = .out → ∃ target, d.targetDepth = some target) ∧
      (∀ line depth, ∃ checked, d.check line depth = .ok checked) ∧
      (∀ n mode line depth s r rest, s.debugger = d → s.console.replies = r :: rest →
        r.interrupt = false → Eval.command r.line ∈ goingOn →
        ∃ s' answer, Eval.checkLine (evalAt n) mode depth (some (.number line)) s = .ok () s' ∧
          Answered s s' answer) ∧
      ∀ mode t s, s.debugger = d → (endState (eval mode t s)).debugger.Reached := by
  refine ⟨?_, ?_, ?_, ?_⟩
  · intro v member stop
    obtain ⟨before, later, rfl⟩ := List.mem_iff_append.mp member
    obtain ⟨between, first, second⟩ := trail.split
    obtain ⟨_, passes, -⟩ := second.step
    refine passes.pauses.mpr (Or.inl ?_)
    rwa [first.breakpoints]
  · rintro skipped stop later rfl quiet
    obtain ⟨between, first, pauses⟩ := trail.pauses_after
    rw [pauses, first.goesBy quiet]
    simp [Debugger.Due]
  · rintro before v c skipped stop later rfl answer quiet
    obtain ⟨_, first, second⟩ := trail.split
    obtain ⟨asked, passes, third⟩ := second.step
    obtain ⟨paused, same, at_line, obeyed⟩ := passes.obeys answer
    rw [first.breakpoints] at same
    obtain ⟨between, onward, pauses⟩ := third.pauses_after
    rw [Debugger.breakpoints_obey obeyed, same] at pauses
    cases c with
    | resume =>
      cases obeyed
      refine Or.inl ⟨rfl, ?_⟩
      rw [pauses, onward.goesBy quiet]
      simp [Debugger.Due]
    | step =>
      cases obeyed
      refine Or.inr (Or.inl ⟨rfl, ?_⟩)
      rw [pauses, onward.goesBy_step quiet rfl at_line]
      simp [Debugger.Due, at_line, LineMark.isAt, eq_comm]
    | next =>
      cases obeyed
      refine Or.inr (Or.inr (Or.inl ⟨rfl, ?_⟩))
      rw [pauses, onward.goesBy quiet]
      cases skipped.getLast? <;>
        simp [Debugger.Due, at_line, LineMark.isAt, eq_comm, and_comm]
    | out =>
      cases obeyed
      refine Or.inr (Or.inr (Or.inr ⟨rfl, ?_⟩))
      rw [pauses, onward.goesBy quiet]
      simp [Debugger.Due]
    | memory | evaluate _ | unknown => cases obeyed
  · intro d reached
    refine ⟨fun mode => Option.isSome_iff_exists.mp (reached.ready mode), ?_, ?_, ?_⟩
    · intro line depth
      obtain ⟨reason, d', checked, -⟩ := reached.ready.check line depth (.number line)
      exact ⟨_, checked⟩
    · rintro n mode line depth s r rest rfl waiting willing ends
      obtain ⟨s', passed, left⟩ := checkLine_passes reached.ready waiting willing ends line
      rcases left with same | taken
      · exact ⟨s', none, passed, same⟩
      · exact ⟨s', some (Eval.command r.line), passed, [], r, by rw [waiting, taken]; rfl, rfl⟩
    · rintro mode t s rfl
      exact Debugger.evalAt_reached _ mode t s reached

/-- A state in which lines wait at the console. -/
def State.awaiting (replies : List String) (d : Debugger) : State :=
  { machine := { world := { replies := replies.map fun line => { line } } }, debugger := d }

/-- A pause on a breakpoint, a call that is stepped over, and a pause after it. -/
def steppedOver : List Passed := [⟨⟨1, 0⟩, some .next⟩, ⟨⟨5, 1⟩, none⟩, ⟨⟨2, 0⟩, some .resume⟩]

theorem trail_steppedOver :
    Trail { breakpoints := [1] } steppedOver ⟨[1], .run, some 0, some (.number 2)⟩ := by
  refine .check 0 {} (s := .awaiting ["n"] { breakpoints := [1] }) rfl
    ⟨[], { line := "n" }, rfl, rfl⟩ ?_
  refine .check 0 {} (s := .awaiting [] ⟨[1], .next, some 0, some (.number 1)⟩) rfl rfl ?_
  refine .check 0 {} (s := .awaiting ["c"] ⟨[1], .next, some 0, some (.number 5)⟩) rfl
    ⟨[], { line := "c" }, rfl, rfl⟩ ?_
  exact .nil _

theorem stepping_stops_as_promised_over :
    Trail { breakpoints := [1] } steppedOver ⟨[1], .run, some 0, some (.number 2)⟩ ∧
    (∀ v ∈ steppedOver, v.line ∈ [1] → v.answer.isSome) ∧
    ∃ (v stop : Passed) (skipped : List Passed), steppedOver = v :: (skipped ++ [stop]) ∧
      v.answer = some .next ∧ (∀ w ∈ skipped, w.answer = none) ∧
      (stop.answer.isSome ↔ stop.line ∈ [1] ∨ stop.depth ≤ v.depth ∧
        stop.line ≠ (skipped.getLast?.map (·.line)).getD v.line) := by
  have promised := stepping_stops_as_promised trail_steppedOver
  refine ⟨trail_steppedOver, promised.1, ⟨⟨1, 0⟩, some .next⟩, ⟨⟨2, 0⟩, some .resume⟩,
    [⟨⟨5, 1⟩, none⟩], rfl, rfl, by simp, ?_⟩
  rcases promised.2.2.1 [] _ .next [⟨⟨5, 1⟩, none⟩] _ [] rfl rfl (by simp) with
    ⟨⟨⟩, -⟩ | ⟨⟨⟩, -⟩ | ⟨-, past⟩ | ⟨⟨⟩, -⟩
  exact past

end DeskScript
