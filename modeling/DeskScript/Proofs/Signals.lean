import DeskScript.Proofs.Joining
import DeskScript.Proofs.Moments
import DeskScript.Proofs.Tame

/-!
# Signals

Signals are values like others, and the evaluator does not keep them apart. In a well-placed script
they stay apart all the same: from a state without signals no moment of the run has a signal in a
variable or a list, and nothing is computed with one.
-/

namespace DeskScript

open Syntax

/-! ### Operations and changes keep states clean -/

section Clean

variable {α : Type} {banned : SignalKind → Bool} {s : State}

theorem State.Clean.ofOp (clean : s.Clean banned) {op : Op α} {post : α → Prop}
    (keeps : Op.Keeps banned op post) : (endState (Interp.ofOp op s)).Clean banned ∧
      ∀ a s', Interp.ofOp op s = .ok a s' → post a := by
  obtain ⟨⟨⟨desk, console⟩, store, templates⟩, stack, debugger⟩ := s
  obtain ⟨result, bench, console', ran, free, gives⟩ :=
    keeps.run (s := ⟨desk, store, templates⟩) clean.store console
  simp only [Interp.ofOp, ran]
  cases result with
  | ok a =>
    refine ⟨⟨free, clean.stack⟩, fun b s' same => ?_⟩
    cases same
    exact gives a rfl
  | error e => exact ⟨⟨free, clean.stack⟩, fun b s' same => by cases same⟩

theorem State.Clean.enter (clean : s.Clean banned) {parameters : Bindings Value}
    (free : ∀ e ∈ parameters, e.2.Free banned) :
    ({ s with stack := s.stack.enter parameters } : State).Clean banned :=
  ⟨clean.store, clean.stack.enter free⟩

theorem State.Clean.leave (clean : s.Clean banned) :
    ({ s with stack := s.stack.leave } : State).Clean banned :=
  ⟨clean.store, clean.stack.leave⟩

end Clean

/-! ### Moments of well-placed scripts -/

/-- What comes about with nothing but clean values. The value of a tree is one that may be sent from
it, wherever the tree stands. -/
def Event.Clean (banned : SignalKind → Bool) : Event → Prop
  | begins t => ∃ opened, t.placed banned opened
  | ends t (.ok v) => (∀ opened, t.placed banned opened → v.Allowed banned opened) ∧
    ∀ label span children, t = .node label span children → Eval.Outcome banned label v
  | ends _ (.error _) => True
  | request r => r.Free banned
  | change c => c.Clean banned
  | call parameters _ => ∀ e ∈ parameters, e.2.Free banned

/-- A moment without banned signals, but those that are on their way. -/
structure Moment.Clean (banned : SignalKind → Bool) (m : Moment) : Prop where
  state : m.state.Clean banned
  path : ∀ t ∈ m.path, ∃ opened, t.placed banned opened
  event : m.event.Clean banned

/-- An evaluator that keeps banned signals apart: within well-placed trees and from clean states,
well-placed trees have clean moments only, lead to clean states, and have values that they may have. -/
def Sound (banned : SignalKind → Bool) (below : List Tree → Tree → Logged Moment Value) : Prop :=
  ∀ path t opened s, (∀ p ∈ path, ∃ opened, p.placed banned opened) → t.placed banned opened →
    s.Clean banned → Logged.Shows (Moment.Clean banned) (State.Clean banned)
      (fun v => (Event.ends t (.ok v)).Clean banned) (below path t) s

/-- The value came of the evaluation of the tree, whose moments are among the given ones. -/
def Came (banned : SignalKind → Bool) (below : List Tree → Tree → Logged Moment Value)
    (path : List Tree) (all : List Moment) (t : Tree) (v : Value) : Prop :=
  ∃ s s', s.Clean banned ∧ (below path t s).2 = .ok v s' ∧ (below path t s).1 ⊆ all

variable {v : Value} {t : Tree}

section Sound

variable {α : Type} {banned opened : SignalKind → Bool} {path : List Tree} {s : State}
  {below : List Tree → Tree → Logged Moment Value}

theorem shows_inFrame {parameters : Bindings Value} {body : Logged Moment Value} {post : Value → Prop}
    (shows : Logged.Shows (Moment.Clean banned) (State.Clean banned) post body
      { s with stack := s.stack.enter parameters }) :
    Logged.Shows (Moment.Clean banned) (State.Clean banned) post (body.inFrame parameters) s := by
  rcases ran : body { s with stack := s.stack.enter parameters } with ⟨log, ⟨v, s'⟩ | ⟨e, s'⟩⟩
  · obtain ⟨entries, kept, result⟩ := shows.of_ok ran
    exact Logged.shows_ok (by simp [Logged.inFrame, ran]) entries kept.leave result
  · obtain ⟨entries, kept⟩ := shows.of_error ran
    exact Logged.shows_error (e := e) (by simp [Logged.inFrame, ran]) entries kept.leave

/-- A run of a task that has nothing to do with banned signals. -/
theorem Task.Tame.trace (sound : Sound banned below)
    (within : ∀ p ∈ path, ∃ opened, p.placed banned opened)
    {all : List Moment} {task : Task α} {post : α → Prop} (clean : s.Clean banned)
    (tame : task.Tame banned (Came banned below path all) post)
    (part : (task.trace below path s).1 ⊆ all) :
    Logged.Shows (Moment.Clean banned) (State.Clean banned) post (task.trace below path) s := by
  induction task generalizing s with
  | done a =>
    refine Logged.shows_still clean fun b s' same => ?_
    cases same
    exact tame
  | fail e => exact Logged.shows_still clean fun b s' same => by cases same
  | perform r next ih =>
    obtain ⟨free, later⟩ := tame
    obtain ⟨kept, answered⟩ := clean.ofOp (Request.keeps_carryOut free)
    refine Logged.shows_noting ⟨clean, within, free⟩ ?_
    refine Logged.shows_andThen (Logged.shows_still kept answered) fun v s' ok clean' isAnswer => ?_
    exact ih v clean' (later v isAnswer)
      ((Logged.subset_andThen (List.cons_subset.mp part).2).2 v s' ok)
  | look next ih =>
    have shows := ih s.machine.store s.stack clean (tame _ _ clean.store clean.stack) part
    exact ⟨shows.entries, shows.kept, shows.result⟩
  | change c next ih =>
    obtain ⟨isClean, later⟩ := tame
    have clean' : ({ s with stack := s.stack.change c } : State).Clean banned :=
      ⟨clean.store, clean.stack.change isClean⟩
    refine Logged.shows_noting ⟨clean, within, isClean⟩ ?_
    refine Logged.shows_andThen (Logged.shows_still clean' fun _ _ _ => trivial)
      fun _ s' ok clean' _ => ?_
    exact ih clean' later ((Logged.subset_andThen (List.cons_subset.mp part).2).2 () s' ok)
  | check t next ih => exact ih clean tame part
  | evaluate quiet t next ih =>
    obtain ⟨opened, placed, later⟩ := tame
    obtain ⟨inside, rest⟩ := Logged.subset_andThen part
    refine Logged.shows_andThen (sound path t opened s within placed clean)
      fun v s' ok clean' ended => ?_
    exact ih v clean' (later v (ended.1 opened placed) ⟨s, s', clean, ok, inside⟩) (rest v s' ok)
  | call parameters body next ih =>
    obtain ⟨free, opened, placed, later⟩ := tame
    refine Logged.shows_noting ⟨clean, within, free⟩ ?_
    have shows := sound path body opened _ within placed (clean.enter free)
    refine Logged.shows_andThen (shows_inFrame shows) fun v s' ok clean' ended => ?_
    exact ih v clean' (later v (ended.1 opened placed))
      ((Logged.subset_andThen (List.cons_subset.mp part).2).2 v s' ok)

theorem shows_around {x : Logged Moment Value}
    (within : ∀ p ∈ path, ∃ opened, p.placed banned opened) (placed : t.placed banned opened)
    (clean : s.Clean banned)
    (shows : Logged.Shows (Moment.Clean banned) (State.Clean banned) (fun v => (Event.ends t (.ok v)).Clean banned) x s) :
    Logged.Shows (Moment.Clean banned) (State.Clean banned)
      (fun v => (Event.ends t (.ok v)).Clean banned) (x.around path t) s := by
  have first : Moment.Clean banned ⟨path, s, .begins t⟩ := ⟨clean, within, opened, placed⟩
  rcases ran : x s with ⟨log, ⟨v, s'⟩ | ⟨e, s'⟩⟩
  · obtain ⟨entries, kept, ended⟩ := shows.of_ok ran
    have last : Moment.Clean banned ⟨path, s', .ends t (.ok v)⟩ := ⟨kept, within, ended⟩
    refine Logged.shows_ok (Logged.around_ok ran) ?_ kept ended
    exact List.forall_mem_cons.mpr ⟨first, List.forall_mem_append.mpr ⟨entries, by simpa using last⟩⟩
  · obtain ⟨entries, kept⟩ := shows.of_error ran
    have last : Moment.Clean banned ⟨path, s', .ends t (.error e)⟩ := ⟨kept, within, trivial⟩
    refine Logged.shows_error (Logged.around_error ran) ?_ kept
    exact List.forall_mem_cons.mpr ⟨first, List.forall_mem_append.mpr ⟨entries, by simpa using last⟩⟩

theorem Eval.GivenBy.ended {came : Tree → Value → Prop}
    (given : Eval.GivenBy banned opened came t v) : v.Allowed banned opened ∧
      ∀ label span children, t = .node label span children → Eval.Outcome banned label v := by
  cases t with
  | node label span children =>
    refine ⟨given.allowed, fun label' span' children' same => ?_⟩
    cases same
    exact given.outcome
  | leaf l => exact ⟨Or.inl given, fun _ _ _ same => by cases same⟩
  | datum d => exact ⟨Or.inl given, fun _ _ _ same => by cases same⟩

/-- One more level of the evaluator, seen from the task of a tree. -/
theorem shows_task (sound : Sound banned below)
    (within : ∀ p ∈ path, ∃ opened, p.placed banned opened) (placed : t.placed banned opened)
    (clean : s.Clean banned) : Logged.Shows (Moment.Clean banned) (State.Clean banned)
      (Eval.GivenBy banned opened
        (Came banned below (t :: path) ((Eval.task t).trace below (t :: path) s).1) t)
      ((Eval.task t).trace below (t :: path)) s := by
  refine Task.Tame.trace sound ?_ clean (Eval.tame_task placed) (List.Subset.refl _)
  exact List.forall_mem_cons.mpr ⟨⟨opened, placed⟩, within⟩

theorem sound_traceAt (n : Nat) : Sound banned (traceAt n) := by
  induction n with
  | zero =>
    intro path t opened s within placed clean
    rw [traceAt]
    refine shows_around within placed clean ?_
    exact Logged.shows_still clean fun v s' same => by cases same
  | succ n ih =>
    intro path t opened s within placed clean
    rw [traceAt]
    refine shows_around within placed clean ?_
    have shows := shows_task ih within placed clean
    refine ⟨shows.entries, shows.kept, fun v s' ok => ⟨fun opened' placed' => ?_, ?_⟩⟩
    · exact ((shows_task ih within placed' clean).result v s' ok).ended.1
    · exact (shows.result v s' ok).ended.2

end Sound

/-! ### Where a signal comes from -/

namespace Syntax

/-- A way from the root of a tree down to a part of it that enters no function definition, with all
trees on the way, the last one first. -/
inductive Tree.Route (root : Tree) : List Tree → Prop
  | root : Route root [root]
  | down {label : Label} {span : Option Span} {children rest : List Tree} {t : Tree}
      (above : Route root (.node label span children :: rest)) (inside : label ≠ .define)
      (member : t ∈ children) : Route root (t :: .node label span children :: rest)

theorem placed_part {banned opened : SignalKind → Bool} {label : Label} {span : Option Span}
    {children : List Tree} (placed : (Tree.node label span children).placed banned opened)
    (member : t ∈ children) : ∃ opened, t.placed banned opened := by
  obtain ⟨-, parts⟩ := placed_node.mp placed
  cases children with
  | nil => cases member
  | cons first rest =>
    obtain ⟨isFirst, others⟩ := placedParts_cons.mp parts
    rcases List.mem_cons.mp member with rfl | member
    · exact ⟨_, isFirst⟩
    · exact ⟨_, others t member⟩

end Syntax

/-- A tree that sends a signal itself. -/
def Sends (t : Tree) (v : Value) : Prop :=
  ∃ label span children id kind payload, t = .node label span children ∧
    label.sends? = some kind ∧ v = .signal id kind payload

/-- A banned signal that is the value of a tree was sent by a part of the tree that was evaluated. -/
theorem exists_sender {banned opened : SignalKind → Bool} (n : Nat) {path : List Tree} {root : Tree}
    {s s' : State} (within : ∀ p ∈ path, ∃ opened, p.placed banned opened)
    (placed : t.placed banned opened) (clean : s.Clean banned) (route : root.Route (t :: path))
    (ok : (traceAt n path t s).2 = .ok v s') (notFree : ¬ v.Free banned) :
    ∃ m ∈ (traceAt n path t s).1, ∃ sender, m.event = .ends sender (.ok v) ∧ Sends sender v ∧
      root.Route (sender :: m.path) := by
  induction n generalizing path t opened s s' with
  | zero => cases ok
  | succ n ih =>
    have shows := shows_task (sound_traceAt n) within placed clean
    rcases ran : (Eval.task t).trace (traceAt n) (t :: path) s with ⟨log, ⟨w, s₁⟩ | ⟨e, s₁⟩⟩
    · rw [traceAt, Logged.around_ok ran] at ok ⊢
      cases ok
      have given := shows.result v s' (by rw [ran])
      cases t with
      | leaf l => exact absurd given notFree
      | datum d => exact absurd given notFree
      | node label span children =>
        rcases given.source with
          free | ⟨id, kind, payload, sends, isSignal⟩ | ⟨inside, c, member, came⟩
        · exact absurd free notFree
        · have isLast : (⟨path, s', .ends (.node label span children) (.ok v)⟩ : Moment) ∈
              [(⟨path, s', .ends (.node label span children) (.ok v)⟩ : Moment)] := List.mem_cons_self
          exact ⟨_, List.mem_cons_of_mem _ (List.mem_append_right _ isLast), _, rfl,
            ⟨label, span, children, id, kind, payload, rfl, sends, isSignal⟩, route⟩
        · obtain ⟨s₀, s₂, clean', ok, part⟩ := came
          obtain ⟨opened', placed'⟩ := placed_part placed member
          have within' := List.forall_mem_cons.mpr ⟨⟨opened, placed⟩, within⟩
          obtain ⟨m, there, found⟩ := ih within' placed' clean' (route.down inside member) ok
          rw [ran] at part
          exact ⟨m, List.mem_cons_of_mem _ (List.mem_append_left _ (part there)), found⟩
    · rw [traceAt, Logged.around_error ran] at ok
      cases ok

/-! ### Blocks -/

/-- Statements that run one after the other, up to the last, none with a signal for its value. -/
inductive Through (evaluate : Tree → Interp Value) : State → List Tree → State → Prop
  | nil (s : State) : Through evaluate s [] s
  | cons {t : Tree} {rest : List Tree} {v : Value} {s s₁ s' : State}
      (ok : evaluate t s = .ok v s₁) (plain : Eval.isSignal v = false)
      (after : Through evaluate s₁ rest s') : Through evaluate s (t :: rest) s'

section Block

variable {below : Evaluate} {mode : Mode}

/-- A block begins with its first statement. -/
theorem Eval.run_block_cons (off : mode.debug = false) (last : Value) (t : Tree) (rest : List Tree) :
    (block last (t :: rest)).run below mode = (do
      let v ← below mode t
      if isSignal v then return v else (block v rest).run below mode) := by
  have next : ∀ v : Value, (if isSignal v then pure v else block v rest : Task Value).run below mode =
      if isSignal v then pure v else (block v rest).run below mode := by
    intro v
    cases isSignal v <;> rfl
  have unfolded : (block last (t :: rest)).run below mode = (do
      check below mode t
      let v ← below { mode with debug := mode.debug && !false } t
      (if isSignal v then pure v else block v rest : Task Value).run below mode) := rfl
  rw [unfolded, check_off off, Mode.quiet_off off, funext next, pure_bind]

theorem Eval.run_block_ok (off : mode.debug = false) {s s' : State} (ok : below mode t s = .ok v s')
    (last : Value) (rest : List Tree) :
    (block last (t :: rest)).run below mode s =
      if isSignal v then .ok v s' else (block v rest).run below mode s' := by
  rw [run_block_cons off]
  simp only [bind, EStateM.bind, ok]
  cases isSignal v <;> rfl

theorem Eval.run_block_error (off : mode.debug = false) {e : Error} {s s' : State}
    (failed : below mode t s = .error e s') (last : Value) (rest : List Tree) :
    (block last (t :: rest)).run below mode s = .error e s' := by
  rw [run_block_cons off]
  simp only [bind, EStateM.bind, failed]

/-- A block runs through, or it ends with the first statement that has a signal for its value or
fails. -/
theorem Eval.run_block_cases (off : mode.debug = false) (last : Value) (trees : List Tree)
    (s : State) :
    (∃ v s', (block last trees).run below mode s = .ok v s' ∧ Through (below mode) s trees s' ∧
      (isSignal last = false → isSignal v = false)) ∨
    ∃ before t after s₁, trees = before ++ t :: after ∧ Through (below mode) s before s₁ ∧
      (block last trees).run below mode s = below mode t s₁ ∧
      ∀ v s', below mode t s₁ = .ok v s' → isSignal v := by
  induction trees generalizing last s with
  | nil => exact Or.inl ⟨last, s, rfl, .nil s, id⟩
  | cons t rest ih =>
    cases first : below mode t s with
    | error e s' =>
      have run := run_block_error off first last rest
      refine Or.inr ⟨[], t, rest, s, rfl, .nil s, run.trans first.symm, fun v s' ok => ?_⟩
      rw [first] at ok
      cases ok
    | ok v s₁ =>
      have run := run_block_ok off first last rest
      cases signal : isSignal v with
      | true =>
        rw [signal, if_pos rfl] at run
        refine Or.inr ⟨[], t, rest, s, rfl, .nil s, run.trans first.symm, fun w s' ok => ?_⟩
        rw [first] at ok
        cases ok
        exact signal
      | false =>
        rw [signal, if_neg Bool.false_ne_true] at run
        rw [run]
        rcases ih v s₁ with ⟨w, s', ok, through, plain⟩ | ⟨before, t', after, s₂, rfl, through, found⟩
        · exact Or.inl ⟨w, s', ok, .cons first signal through, fun _ => plain signal⟩
        · exact Or.inr ⟨t :: before, t', after, s₂, rfl, .cons first signal through, found⟩

/-- What comes after a statement with a signal for its value does not matter. -/
theorem Eval.run_block_signal (off : mode.debug = false) {before : List Tree} {s s₁ s' : State}
    (through : Through (below mode) s before s₁) (ok : below mode t s₁ = .ok v s')
    (signal : isSignal v) (last : Value) (after : List Tree) :
    (block last (before ++ t :: after)).run below mode s = .ok v s' := by
  induction through generalizing last with
  | nil s => rw [List.nil_append, run_block_ok off ok, signal, if_pos rfl]
  | cons first plain through ih =>
    rw [List.cons_append, run_block_ok off first, plain, if_neg Bool.false_ne_true]
    exact ih ok _

theorem eval_script (off : mode.debug = false) (extent : Option Span) (statements : List Tree)
    (s : State) : eval mode (.script extent statements) s =
      (Eval.block (.int 0) statements).run (evalAt (nestingLimit - 2)) mode s := by
  have unfolded : eval mode (.script extent statements) =
      evalAt (nestingLimit - 1) { mode with debug := mode.debug && !false }
        (.node .block extent statements) >>= pure := rfl
  rw [unfolded, Mode.quiet_off off, bind_pure]
  rfl

/-- A script that has a signal for its value got it from one of its statements, and does not depend
on what comes after this statement. -/
theorem eval_script_signal (off : mode.debug = false) {extent : Option Span}
    {statements : List Tree} {s s' : State}
    (ok : eval mode (.script extent statements) s = .ok v s') (signal : Eval.isSignal v) :
    ∃ before last after, statements = before ++ last :: after ∧
      ∀ others, eval mode (.script extent (before ++ last :: others)) s = .ok v s' := by
  rw [eval_script off] at ok
  have cases := @Eval.run_block_cases (evalAt (nestingLimit - 2)) mode off (.int 0) statements s
  rcases cases with ⟨w, s₁, ran, -, plain⟩ | ⟨before, last, after, s₁, rfl, through, ran, -⟩
  · cases ok.symm.trans ran
    rw [plain rfl] at signal
    cases signal
  · refine ⟨before, last, after, rfl, fun others => ?_⟩
    rw [eval_script off]
    exact Eval.run_block_signal off through (ran.symm.trans ok) signal _ others

end Block

/-! ### Well-placed scripts -/

/-- All kinds of signals. -/
def anySignal : SignalKind → Bool := fun _ => true

/-- A moment at which no signal is used like another value. -/
structure Moment.Signalless (m : Moment) : Prop where
  /-- No variable and no list holds a signal, by itself or within a tuple. -/
  state : m.state.Clean anySignal
  /-- Nothing that the machine is asked for is about a signal. -/
  request : ∀ r, m.event = .request r → r.Free anySignal
  assigned : ∀ x v, m.event = .change (.assign x v) → v.Free anySignal
  arguments : ∀ parameters body, m.event = .call parameters body →
    ∀ e ∈ parameters, e.2.Free anySignal
  operand : ∀ t v, m.event = .ends t (.ok v) → ∀ whole ∈ m.path.head?, t ∈ whole.operands →
    v.Free anySignal
  called : ∀ span children v, m.event = .ends (.node .call span children) (.ok v) →
    v.Free anySignal
  loop : ∀ span children v, m.event = .ends (.node .loop span children) (.ok v) →
    v = .int 0 ∨ ∃ id payload, v = .signal id .giveBack payload
  tick : ∀ span children v, m.event = .ends (.node (.builtin .foreachTick) span children) (.ok v) →
    Eval.isSignal v = false

theorem Moment.Clean.signalless {m : Moment} (clean : m.Clean anySignal) : m.Signalless := by
  obtain ⟨path, state, event⟩ := m
  obtain ⟨isClean, within, known⟩ := clean
  refine ⟨isClean, ?_, ?_, ?_, ?_, ?_, ?_, ?_⟩
  · rintro r rfl
    exact known
  · rintro x v rfl
    exact known
  · rintro parameters body rfl
    exact known
  · rintro t v rfl whole isHead operand
    obtain ⟨opened, placed⟩ := within whole (List.mem_of_mem_head? isHead)
    exact (known.1 _ (placed_operand placed operand)).closed_free
  · rintro span children v rfl
    exact known.2 _ _ _ rfl
  · rintro span children v rfl
    exact known.2 _ _ _ rfl
  · rintro span children v rfl
    have null : v = .null := known.2 _ _ _ rfl
    rw [null]
    rfl

theorem not_free_of_isSignal (signal : Eval.isSignal v) : ¬ v.Free anySignal := by
  intro free
  cases v with
  | signal id kind payload => cases (Value.free_signal_iff.mp free).1
  | _ => cases signal

/-- A signal that leaves a well-placed script was sent by a statement to give something back that
stands outside all functions. -/
theorem exists_giver {extent : Option Span} {statements : List Tree} {s s' : State}
    (placed : (Tree.script extent statements).placed anySignal (inFunction anySignal))
    (clean : s.Clean anySignal)
    (ok : (traceAt nestingLimit [] (.script extent statements) s).2 = .ok v s')
    (signal : Eval.isSignal v) :
    ∃ m ∈ moments (.script extent statements) s, ∃ span children,
      m.event = .ends (.node .giveBack span children) (.ok v) ∧
      (Tree.script extent statements).Route (.node .giveBack span children :: m.path) := by
  have notFree := not_free_of_isSignal signal
  have shows := sound_traceAt nestingLimit [] (.script extent statements) _ s (by simp) placed clean
  obtain ⟨m, there, sender, ended, sends, route⟩ :=
    exists_sender nestingLimit (by simp) placed clean .root ok notFree
  obtain ⟨label, span, children, id, kind, payload, rfl, sent, rfl⟩ := sends
  rcases (shows.result _ s' ok).1 _ placed with free | ⟨_, _, _, same, isOpen, -⟩
  · exact absurd free notFree
  · cases same
    -- Nothing may be sent from a script but a signal to give something back.
    cases label with
    | giveBack => exact ⟨m, there, span, children, ended, route⟩
    | breakLoop | continueLoop => cases sent; cases isOpen
    | _ => cases sent

/-- In a well-placed script, run from a state without signals, no signal becomes a value like others.
The script itself has a signal for its value only if it gives something back outside all functions,
and then nothing that follows is run. -/
theorem signals_stay_apart {mode : Mode} (off : mode.debug = false) {extent : Option Span}
    {statements : List Tree} {s : State}
    (placed : (Tree.script extent statements).placed anySignal (inFunction anySignal))
    (clean : s.Clean anySignal) :
    (∀ m ∈ moments (.script extent statements) s, m.Signalless) ∧
    (endState (eval mode (.script extent statements) s)).Clean anySignal ∧
    ∀ v s', eval mode (.script extent statements) s = .ok v s' → Eval.isSignal v →
      (∃ m ∈ moments (.script extent statements) s, ∃ span children,
        m.event = .ends (.node .giveBack span children) (.ok v) ∧
        (Tree.script extent statements).Route (.node .giveBack span children :: m.path)) ∧
      ∃ before last after, statements = before ++ last :: after ∧
        ∀ others, eval mode (.script extent (before ++ last :: others)) s = .ok v s' := by
  have traced := trace_eval off (.script extent statements) s
  have shows := sound_traceAt nestingLimit [] (.script extent statements) _ s (by simp) placed clean
  refine ⟨fun m member => (shows.entries m member).signalless, ?_, fun v s' ok signal => ⟨?_, ?_⟩⟩
  · have kept := shows.kept
    rwa [traced] at kept
  · exact exists_giver placed clean (by rw [traced]; exact ok) signal
  · exact eval_script_signal off ok signal

theorem clean_start (banned : SignalKind → Bool) : ({} : State).Clean banned := by
  refine ⟨fun items member => ?_, fun frame member => ?_⟩
  · cases Array.not_mem_empty items member
  · obtain rfl := List.mem_singleton.mp member
    exact ⟨fun e there => (by cases there), fun e there => (by cases there)⟩

/-- A function that gives something back, a loop that is left, and a script that ends early. -/
def leavingText : String :=
  "fn f() \x7b return 1; \x7d while f() \x7b break; \x7d return 2; y = 3;"

theorem signals_stay_apart_leaving : ∃ extent statements v s',
    parse leavingText = .ok (.script extent statements) ∧
    (Tree.script extent statements).placed anySignal (inFunction anySignal) ∧
    ({} : State).Clean anySignal ∧ eval {} (.script extent statements) {} = .ok v s' ∧
    Eval.isSignal v ∧ (∀ m ∈ moments (.script extent statements) {}, m.Signalless) ∧
    (endState (eval {} (.script extent statements) {})).Clean anySignal ∧
    (∃ m ∈ moments (.script extent statements) {}, ∃ span children,
      m.event = .ends (.node .giveBack span children) (.ok v) ∧
      (Tree.script extent statements).Route (.node .giveBack span children :: m.path)) ∧
    ∃ before last after, statements = before ++ last :: after ∧
      ∀ others, eval {} (.script extent (before ++ last :: others)) {} = .ok v s' := by
  obtain ⟨t, parsed, placed, v, s', ended, signal⟩ : ∃ t, parse leavingText = .ok t ∧
      t.placed anySignal (inFunction anySignal) ∧
        ∃ v s', eval {} t {} = .ok v s' ∧ Eval.isSignal v := by decide +kernel
  obtain ⟨extent, statements, rfl⟩ := (parse_iff.mp parsed).script
  have clean := clean_start anySignal
  obtain ⟨apart, kept, leaving⟩ := @signals_stay_apart {} rfl extent statements {} placed clean
  obtain ⟨giver, early⟩ := leaving v s' ended signal
  exact ⟨extent, statements, v, s', parsed, placed, clean, ended, signal, apart, kept, giver, early⟩

/-- What a tree with this label has just been evaluated to. -/
def Moment.gives (l : Label) (p : Value → Bool) (m : Moment) : Bool :=
  match m.event with
  | .ends (.node l' _ _) (.ok v) => l' = l && p v
  | _ => false

theorem Moment.of_gives {l : Label} {p : Value → Bool} {m : Moment} (gives : m.gives l p) :
    ∃ span children v, m.event = .ends (.node l span children) (.ok v) ∧ p v := by
  unfold Moment.gives at gives
  split at gives
  next l' span children v event =>
    obtain ⟨rfl, holds⟩ : l' = l ∧ p v := by simpa using gives
    exact ⟨span, children, v, event, holds⟩
  next => cases gives

/-- A function that gives back a signal. -/
def misplacedText : String := "fn g() \x7b return (if 1 \x7b return 5; \x7d); \x7d"

/-- Variables and lists without signals are not enough: a function that was defined before may give
back a signal. -/
theorem call_of_misplaced_function : ∃ before t m span children v,
    parse misplacedText = .ok before ∧ parse "g(); z = 1;" = .ok t ∧
    t.placed anySignal (inFunction anySignal) ∧
    (endState (eval {} before {})).machine.store.Free anySignal ∧
    (∀ frame ∈ (endState (eval {} before {})).stack.frames, ∀ e ∈ frame.vars, e.2.Free anySignal) ∧
    m ∈ moments t (endState (eval {} before {})) ∧
    m.event = .ends (.node .call span children) (.ok v) ∧ Eval.isSignal v := by
  obtain ⟨before, parsed, t, parsed', placed, lists, vars, m, there, gives⟩ :
      ∃ before, parse misplacedText = .ok before ∧ ∃ t, parse "g(); z = 1;" = .ok t ∧
        t.placed anySignal (inFunction anySignal) ∧
        (endState (eval {} before {})).machine.store.cells.isEmpty ∧
        (∀ frame ∈ (endState (eval {} before {})).stack.frames, frame.vars.isEmpty) ∧
        ∃ m ∈ moments t (endState (eval {} before {})), m.gives .call Eval.isSignal := by
    decide +kernel
  obtain ⟨span, children, v, ended, signal⟩ := Moment.of_gives gives
  refine ⟨before, t, m, span, children, v, parsed, parsed', placed, ?_, ?_, there, ended, signal⟩
  · intro items member
    rw [Array.isEmpty_iff.mp lists] at member
    cases Array.not_mem_empty items member
  · intro frame member e isVar
    rw [List.isEmpty_iff.mp (vars frame member)] at isVar
    cases isVar

end DeskScript
