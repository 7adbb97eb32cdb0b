import DeskScript.Proofs.Signals

/-!
# Loops and calls

A call opens a signal to give something back and lets every other value through, signals to a loop
among them. So a function that lets such a signal out steers the loop that calls it. Where no function
and no variable does, calls have no part in it: a loop that has neither break nor continue of its own
goes on until its condition is zero, something is given back or something fails, and all its rounds are
whole.
-/

namespace DeskScript

open Syntax

/-- The signals that are meant for a loop. -/
def steering : SignalKind → Bool
  | .giveBack => false
  | .breakLoop | .continueLoop => true

/-- Whether a value is a signal to a loop. -/
def Value.steers : Value → Bool
  | .signal _ kind _ => steering kind
  | _ => false

/-! ### The course of a loop -/

section Course

variable (evaluate inner : Tree → Interp Value) (condition : Tree) (statements : List Tree)

/-- The condition holds, and some statements run through. -/
def Enters (s : State) (before : List Tree) (s' : State) : Prop :=
  ∃ v s₁, evaluate condition s = .ok v s₁ ∧ Eval.continues v ∧ Through inner s₁ before s'

/-- How a loop goes on from a state and how it ends, where signals to the loop may cut a round short
or not at all. -/
inductive Course (cut : Prop) : State → EStateM.Result Error State Value → Prop
  /-- The condition is zero. -/
  | unmet {v : Value} {s s' : State} (tested : evaluate condition s = .ok v s')
      (stop : Eval.continues v = false) : Course cut s (.ok (.int 0) s')
  | untested {e : Error} {s s' : State} (failed : evaluate condition s = .error e s') :
      Course cut s (.error e s')
  /-- All statements run, and the loop goes on. -/
  | again {s s' : State} {r : EStateM.Result Error State Value}
      (ran : Enters evaluate inner condition s statements s') (rest : Course cut s' r) : Course cut s r
  /-- A statement gives something back. -/
  | givesBack {before after : List Tree} {t : Tree} {id : Nat} {payload : Value} {s s₁ s' : State}
      (parts : statements = before ++ t :: after) (ran : Enters evaluate inner condition s before s₁)
      (gives : inner t s₁ = .ok (.signal id .giveBack payload) s') :
      Course cut s (.ok (.signal id .giveBack payload) s')
  | fails {before after : List Tree} {t : Tree} {e : Error} {s s₁ s' : State}
      (parts : statements = before ++ t :: after) (ran : Enters evaluate inner condition s before s₁)
      (failed : inner t s₁ = .error e s') : Course cut s (.error e s')
  | broken {before after : List Tree} {t : Tree} {id : Nat} {payload : Value} {s s₁ s' : State}
      (cuts : cut) (parts : statements = before ++ t :: after)
      (ran : Enters evaluate inner condition s before s₁)
      (gives : inner t s₁ = .ok (.signal id .breakLoop payload) s') : Course cut s (.ok (.int 0) s')
  | continued {before after : List Tree} {t : Tree} {id : Nat} {payload : Value} {s s₁ s' : State}
      {r : EStateM.Result Error State Value} (cuts : cut) (parts : statements = before ++ t :: after)
      (ran : Enters evaluate inner condition s before s₁)
      (gives : inner t s₁ = .ok (.signal id .continueLoop payload) s') (rest : Course cut s' r) :
      Course cut s r
  /-- The loop goes round too often. -/
  | endless (s : State) : Course cut s (.error .endless s)

end Course

section Run

variable {α β : Type} {below : Evaluate} {mode : Mode} {condition : Tree} {body : Task (Option α)}
  {e : Error} {s s' : State} {c : Value}

theorem Task.run_bind (task : Task α) (f : α → Task β) :
    (task >>= f).run below mode = task.run below mode >>= fun a => (f a).run below mode := by
  induction task with
  | done a => rfl
  | fail e => rfl
  | perform r next ih =>
    have unfolded : (perform r next >>= f).run below mode =
        (do let v ← r.carryOut; (next v >>= f).run below mode) := rfl
    rw [unfolded, run, bind_assoc]
    exact congrArg (_ >>= ·) (funext ih)
  | look next ih =>
    have unfolded : (look next >>= f).run below mode =
        (do let s ← get; (next s.machine.store s.stack >>= f).run below mode) := rfl
    rw [unfolded, run, bind_assoc]
    exact congrArg (_ >>= ·) (funext fun s => ih _ _)
  | change c next ih =>
    have unfolded : (change c next >>= f).run below mode =
        (do Interp.modifyStack (·.change c); (next >>= f).run below mode) := rfl
    rw [unfolded, run, bind_assoc]
    exact congrArg (_ >>= ·) (funext fun _ => ih)
  | check t next ih =>
    have unfolded : (check t next >>= f).run below mode =
        (do Eval.check below mode t; (next >>= f).run below mode) := rfl
    rw [unfolded, run, bind_assoc]
    exact congrArg (_ >>= ·) (funext fun _ => ih)
  | evaluate quiet t next ih =>
    have unfolded : (evaluate quiet t next >>= f).run below mode =
        (do let v ← below { mode with debug := mode.debug && !quiet } t
            (next v >>= f).run below mode) := rfl
    rw [unfolded, run, bind_assoc]
    exact congrArg (_ >>= ·) (funext ih)
  | call parameters body next ih =>
    have unfolded : (call parameters body next >>= f).run below mode =
        (do let v ← Eval.inFrame parameters (below mode body); (next v >>= f).run below mode) := rfl
    rw [unfolded, run, bind_assoc]
    exact congrArg (_ >>= ·) (funext ih)

theorem Task.run_value (t : Tree) : (value t).run below mode = below mode t := by
  obtain ⟨debug, canEvaluate⟩ := mode
  cases debug <;> exact bind_pure _

namespace Eval

/-- What a round makes of the value of a loop's body. -/
def verdict : Value → Option Value
  | .signal _ .breakLoop _ => some (.int 0)
  | .signal id .giveBack payload => some (.signal id .giveBack payload)
  | _ => none

theorem run_round (condition body : Tree) :
    (round condition body).run below mode = (do
      let c ← below mode condition
      if continues c then return verdict (← below mode body) else return some (.int 0)) := by
  rw [round, Task.run_bind, Task.run_value]
  refine congrArg (_ >>= ·) (funext fun c => ?_)
  split
  · rw [Task.run_bind, Task.run_value]
    refine congrArg (_ >>= ·) (funext fun v => ?_)
    cases v with
    | signal id kind payload => cases kind <;> rfl
    | _ => rfl
  · rfl

theorem run_repeatUntil_some {a : α} (ok : body.run below mode s = .ok (some a) s') (n : Nat) :
    (repeatUntil body (n + 1)).run below mode s = .ok a s' := by
  rw [repeatUntil, Task.run_bind]
  simp only [bind, EStateM.bind, ok]
  rfl

theorem run_repeatUntil_none (ok : body.run below mode s = .ok none s') (n : Nat) :
    (repeatUntil body (n + 1)).run below mode s = (repeatUntil body n).run below mode s' := by
  rw [repeatUntil, Task.run_bind]
  simp only [bind, EStateM.bind, ok]

theorem run_repeatUntil_error (failed : body.run below mode s = .error e s') (n : Nat) :
    (repeatUntil body (n + 1)).run below mode s = .error e s' := by
  rw [repeatUntil, Task.run_bind]
  simp only [bind, EStateM.bind, failed]

end Eval

theorem Eval.run_round_error (failed : below mode condition s = .error e s') (body : Tree) :
    (round condition body).run below mode s = .error e s' := by
  rw [run_round]
  simp only [bind, EStateM.bind, failed]

theorem Eval.run_round_unmet (tested : below mode condition s = .ok c s')
    (stop : continues c = false) (body : Tree) :
    (round condition body).run below mode s = .ok (some (.int 0)) s' := by
  rw [run_round]
  simp only [bind, EStateM.bind, tested, stop]
  rfl

theorem Eval.run_round_ok {body : Tree} {v : Value} {s₁ s₂ : State}
    (tested : below mode condition s = .ok c s₁) (go : continues c)
    (ran : below mode body s₁ = .ok v s₂) :
    (round condition body).run below mode s = .ok (verdict v) s₂ := by
  rw [run_round]
  simp only [bind, EStateM.bind, tested, go, if_true, ran]
  rfl

theorem Eval.run_round_fails {body : Tree} {s₁ s₂ : State}
    (tested : below mode condition s = .ok c s₁) (go : continues c)
    (failed : below mode body s₁ = .error e s₂) :
    (round condition body).run below mode s = .error e s₂ := by
  rw [run_round]
  simp only [bind, EStateM.bind, tested, go, if_true, failed]

theorem Eval.verdict_of_plain {v : Value} (plain : isSignal v = false) : verdict v = none := by
  cases v with
  | signal id kind payload => cases plain
  | _ => rfl

theorem evalAt_block (n : Nat) (mode : Mode) (span : Option Span) (statements : List Tree) :
    evalAt (n + 1) mode (.node .block span statements) =
      (Eval.block (.int 0) statements).run (evalAt n) mode := rfl

/-- A loop takes its course. What has to be known is an invariant of the states between its rounds,
and whether its body may have a signal to the loop for its value. -/
theorem course_repeatUntil {n : Nat} (off : mode.debug = false) {cut : Prop} (inv : State → Prop)
    {span : Option Span} {statements : List Tree}
    (tests : ∀ s v s', inv s → evalAt (n + 1) mode condition s = .ok v s' → inv s')
    (runs : ∀ s v s', inv s → evalAt (n + 1) mode (.node .block span statements) s = .ok v s' → inv s' ∧ (v.steers → cut))
    (k : Nat) (holds : inv s) :
    Course (evalAt (n + 1) mode) (evalAt n mode) condition statements cut s
      ((Eval.repeatUntil (Eval.round condition (.node .block span statements)) k).run
        (evalAt (n + 1)) mode s) := by
  induction k generalizing s with
  | zero => exact .endless s
  | succ k ih =>
    cases tested : evalAt (n + 1) mode condition s with
    | error e s' =>
      rw [Eval.run_repeatUntil_error (Eval.run_round_error tested _)]
      exact .untested tested
    | ok c s₁ =>
      cases go : Eval.continues c with
      | false =>
        rw [Eval.run_repeatUntil_some (Eval.run_round_unmet tested go _)]
        exact .unmet tested go
      | true =>
        have holds₁ := tests s c s₁ holds tested
        -- The body is a block: all its statements run, or one of them ends it.
        have ended := @Eval.run_block_cases (evalAt n) mode off (.int 0) statements s₁
        rw [← evalAt_block n mode span] at ended
        rcases ended with
          ⟨v, s₂, body, through, plain⟩ | ⟨before, t, after, s₂, parts, through, body, signal⟩
        · obtain ⟨holds₂, -⟩ := runs s₁ v s₂ holds₁ body
          have round := Eval.run_round_ok tested go body
          rw [Eval.verdict_of_plain (plain rfl)] at round
          rw [Eval.run_repeatUntil_none round]
          exact .again ⟨c, s₁, tested, go, through⟩ (ih holds₂)
        · have entered : Enters (evalAt (n + 1) mode) (evalAt n mode) condition s before s₂ :=
            ⟨c, s₁, tested, go, through⟩
          cases last : evalAt n mode t s₂ with
          | error e s₃ =>
            rw [Eval.run_repeatUntil_error (Eval.run_round_fails tested go (body.trans last))]
            exact .fails parts entered last
          | ok v s₃ =>
            obtain ⟨holds₃, cuts⟩ := runs s₁ v s₃ holds₁ (body.trans last)
            have round := Eval.run_round_ok tested go (body.trans last)
            cases v with
            | signal id kind payload =>
              cases kind with
              | giveBack =>
                rw [Eval.run_repeatUntil_some round]
                exact .givesBack parts entered last
              | breakLoop =>
                rw [Eval.run_repeatUntil_some round]
                exact .broken (cuts rfl) parts entered last
              | continueLoop =>
                rw [Eval.run_repeatUntil_none round]
                exact .continued (cuts rfl) parts entered last (ih holds₃)
            | _ => cases signal _ s₃ last

end Run

/-! ### Calls -/

/-- A step that comes of two steps comes of the first and then of the second. -/
theorem Interp.bind_ok {α β : Type} {x : Interp α} {f : α → Interp β} {b : β} {s s' : State}
    (ok : (x >>= f) s = .ok b s') : ∃ a s₁, x s = .ok a s₁ ∧ f a s₁ = .ok b s' := by
  simp only [bind, EStateM.bind] at ok
  cases first : x s with
  | ok a s₁ => exact ⟨a, s₁, rfl, by simpa only [first] using ok⟩
  | error e s₁ => simp [first] at ok

/-- A call that ends with a value has evaluated the body of the function in a frame of its own. -/
theorem Eval.run_call_ok {below : Evaluate} {mode : Mode} {name : String} {args : List Value}
    {w : Value} {s s' : State} (ok : (call name args).run below mode s = .ok w s') :
    ∃ f v, s.stack.current.functions.get? name = some f ∧ args.length = f.parameters.length ∧
      inFrame (f.parameters.zip args) (below mode f.body) s = .ok v s' ∧
      w = result s'.machine.store v := by
  rw [call, Task.run_bind] at ok
  obtain ⟨f, s₁, found, ok⟩ := Interp.bind_ok ok
  rw [function, Task.run_bind] at found
  obtain ⟨stack, s₂, looked, found⟩ := Interp.bind_ok found
  cases looked
  cases there : s.stack.current.functions.get? name with
  | none =>
    rw [there] at found
    cases found
  | some f' =>
    rw [there] at found
    cases found
    split at ok
    · cases ok
    next arity =>
      rw [Task.run_bind] at ok
      obtain ⟨v, s₃, ran, ok⟩ := Interp.bind_ok ok
      have unfolded : (Task.called (f.parameters.zip args) f.body).run below mode =
          inFrame (f.parameters.zip args) (below mode f.body) >>= pure := rfl
      rw [unfolded, bind_pure] at ran
      cases ok
      exact ⟨f, v, rfl, not_not.mp arity, ran, rfl⟩

theorem carried_of_steers {store : Store} {v : Value} (steers : v.steers) : store.carried v = [v] := by
  cases v with
  | signal id kind payload => rfl
  | _ => cases steers

/-- A call has a signal to a loop for its value exactly if the body of the function has one, or gives
back just one. -/
theorem Eval.steers_result (store : Store) (v : Value) : (result store v).steers ↔
    v.steers ∨ ∃ id payload w, v = .signal id .giveBack payload ∧ store.carried payload = [w] ∧
      w.steers := by
  cases v with
  | signal id kind payload =>
    cases kind with
    | breakLoop | continueLoop => simp [result, Value.steers, steering]
    | giveBack =>
      by_cases single : ∃ w, store.carried payload = [w]
      · obtain ⟨w, only⟩ := single
        simp [result, only, Value.steers, steering]
      · have whole : result store (.signal id .giveBack payload) = payload := by
          unfold result
          simp only
          split
          next w only => exact absurd ⟨w, only⟩ single
          next => rfl
        rw [whole]
        constructor
        · exact fun steers => absurd ⟨payload, carried_of_steers steers⟩ single
        · rintro (steers | ⟨_, _, w, same, only, -⟩)
          · cases steers
          · cases same
            exact absurd ⟨w, only⟩ single
  | null => simp [result, Value.steers]
  | _ => simp [result, Value.steers]

/-! ### Break and continue of a loop's own -/

theorem Use.opens_mono {banned opened opened' : SignalKind → Bool}
    (more : ∀ k, opened k → opened' k) (use : Use) :
    ∀ k, use.opens banned opened k → use.opens banned opened' k := by
  intro k isOpen
  cases use with
  | operand | kept => exact isOpen
  | passed => exact more k isOpen
  | repeated =>
    cases k with
    | giveBack => exact more _ isOpen
    | breakLoop | continueLoop => rfl

namespace Syntax

mutual

/-- Whether a tree has a break or continue of its own: one outside the functions and the loops that it
has within. -/
def Tree.steersItself : Tree → Bool
  | .node label _ children => label ≠ .define && label ≠ .loop &&
    (label.sends?.any steering || anySteers children)
  | .leaf _ | .datum _ => false

/-- The same of some trees. -/
def anySteers : List Tree → Bool
  | [] => false
  | t :: rest => t.steersItself || anySteers rest

end

variable {banned : SignalKind → Bool}

mutual

/-- A tree may stand where more signals may be sent. -/
theorem placed_mono : ∀ (t : Tree) {opened opened' : SignalKind → Bool},
    (∀ k, opened k → opened' k) → t.placed banned opened → t.placed banned opened'
  | .node label span children, _, _, more, placed => by
    obtain ⟨sent, parts⟩ := placed_node.mp placed
    refine placed_node.mpr ⟨fun kind sends => more kind (sent kind sends), ?_⟩
    exact placedParts_mono children (Use.opens_mono more _) (Use.opens_mono more _) parts
  | .leaf _, _, _, _, _ | .datum _, _, _, _, _ => by rw [Tree.placed]

theorem placedParts_mono : ∀ (trees : List Tree) {first rest first' rest' : SignalKind → Bool},
    (∀ k, first k → first' k) → (∀ k, rest k → rest' k) → placedParts banned first rest trees →
      placedParts banned first' rest' trees
  | [], _, _, _, _, _, _, _ => by rw [placedParts]
  | t :: trees, _, _, _, _, more, more', placed => by
    rw [placedParts, Bool.and_eq_true] at placed ⊢
    exact ⟨placed_mono t more placed.1, placedParts_mono trees more' more' placed.2⟩

end

mutual

/-- A well-placed tree without break and continue of its own sends no signal to a loop. -/
theorem placed_closed : ∀ (t : Tree) {opened : SignalKind → Bool}, t.placed steering opened →
    t.steersItself = false → t.placed steering (closed steering)
  | .node label span children, opened, placed, unsteered => by
    obtain ⟨-, parts⟩ := placed_node.mp placed
    refine placed_node.mpr ⟨fun kind sends => ?_, placedParts_closed children parts fun passes => ?_⟩
    · cases label with
      | giveBack => cases sends; rfl
      | breakLoop | continueLoop => simp [Tree.steersItself, Label.sends?, steering] at unsteered
      | _ => cases sends
    · cases label with
      | define | loop => simp [Label.firstUse, Label.restUse] at passes
      | _ => simp_all [Tree.steersItself, Label.sends?]
  | .leaf _, _, _, _ | .datum _, _, _, _ => by rw [Tree.placed]

theorem placedParts_closed : ∀ (trees : List Tree) {use use' : Use} {opened : SignalKind → Bool},
    placedParts steering (use.opens steering opened) (use'.opens steering opened) trees →
    (use = .passed ∨ use' = .passed → anySteers trees = false) →
    placedParts steering (use.opens steering (closed steering)) (use'.opens steering (closed steering))
      trees
  | [], _, _, _, _, _ => by rw [placedParts]
  | t :: trees, use, use', opened, placed, unsteered => by
    rw [placedParts, Bool.and_eq_true] at placed ⊢
    have parts : use = .passed ∨ use' = .passed → t.steersItself = false ∧ anySteers trees = false :=
      fun passes => Bool.or_eq_false_iff.mp (unsteered passes)
    have others : use' = .passed ∨ use' = .passed → anySteers trees = false :=
      fun passes => (parts (Or.inr (or_self_iff.mp passes))).2
    refine ⟨?_, placedParts_closed trees placed.2 others⟩
    cases use with
    | operand | kept => exact placed.1
    | passed => exact placed_closed t placed.1 (parts (Or.inl rfl)).1
    | repeated => exact placed_mono t (fun k _ => by cases k <;> rfl) placed.1

end

end Syntax

/-! ### Where signals to a loop stay within their function -/

section Contained

variable {banned opened : SignalKind → Bool} {mode : Mode} {t : Tree} {v : Value} {s s' : State}

theorem evalAt_clean (off : mode.debug = false) {n : Nat} (placed : t.placed banned opened)
    (clean : s.Clean banned) (ok : evalAt n mode t s = .ok v s') :
    s'.Clean banned ∧ v.Allowed banned opened := by
  have shows := sound_traceAt n [] t opened s (by simp) placed clean
  have same := congrFun (forget_traceAt off n [] t) s
  have ended : (traceAt n [] t s).2 = .ok v s' := same.trans ok
  have kept := shows.kept
  rw [ended] at kept
  exact ⟨kept, (shows.result v s' ended).1 opened placed⟩

theorem Value.Free.steers (free : v.Free steering) : v.steers = false := by
  cases v with
  | signal id kind payload => exact (Value.free_signal_iff.mp free).1
  | _ => rfl

/-- The evaluation of a loop is the course of its rounds. -/
theorem evalAt_loop (n : Nat) (mode : Mode) (span : Option Span) (condition body : Tree) :
    evalAt (n + 1) mode (.node .loop span [condition, body]) =
      (Eval.repeatUntil (Eval.round condition body) Eval.roundLimit).run (evalAt n) mode := rfl

/-- A loop without break and continue of its own is not steered from elsewhere. -/
theorem course_contained (off : mode.debug = false) (clean : s.Clean steering) {condition : Tree}
    {span span' : Option Span} {statements : List Tree}
    (placed : (Syntax.Tree.node .loop span [condition, .node .block span' statements]).placed
      steering opened)
    (unsteered : (Syntax.Tree.node .block span' statements).steersItself = false) (n : Nat) :
    Course (evalAt (n + 1) mode) (evalAt n mode) condition statements False s
      (evalAt (n + 2) mode (.node .loop span [condition, .node .block span' statements]) s) := by
  obtain ⟨test, others⟩ := placedParts_cons.mp (placed_node.mp placed).2
  have body := placed_closed _ (others _ List.mem_cons_self) unsteered
  rw [evalAt_loop]
  refine course_repeatUntil off (State.Clean steering) (fun s v s' clean ok => ?_)
    (fun s v s' clean ok => ?_) _ clean
  · exact (evalAt_clean off test clean ok).1
  · obtain ⟨clean', allowed⟩ := evalAt_clean off body clean ok
    refine ⟨clean', fun steers => ?_⟩
    rw [allowed.closed_free.steers] at steers
    cases steers

/-- A moment at which calls have no part in how loops go on. -/
structure Moment.Unsteered (mode : Mode) (m : Moment) : Prop where
  called : ∀ span children v, m.event = .ends (.node .call span children) (.ok v) → v.steers = false
  /-- A loop that begins goes on until its condition is zero, something is given back or something
  fails, and all statements of its body run in every round before that. -/
  loop : ∀ span condition span' statements,
    m.event = .begins (.node .loop span [condition, .node .block span' statements]) →
    (Syntax.Tree.node .block span' statements).steersItself = false →
    ∀ n, Course (evalAt (n + 1) mode) (evalAt n mode) condition statements False m.state
      (evalAt (n + 2) mode (.node .loop span [condition, .node .block span' statements]) m.state)

theorem Moment.Clean.unsteered (off : mode.debug = false) {m : Moment} (clean : m.Clean steering) :
    m.Unsteered mode := by
  obtain ⟨path, state, event⟩ := m
  obtain ⟨isClean, -, known⟩ := clean
  constructor
  · rintro span children v rfl
    have free : v.Free steering := known.2 _ _ _ rfl
    exact free.steers
  · rintro span condition span' statements rfl unsteered n
    obtain ⟨opened, placed⟩ := known
    exact course_contained off isClean placed unsteered n

end Contained

/-- Every loop takes a course in which only the values of its statements can cut a round short, and a
call has a signal to a loop for its value exactly if the body of the function has one or gives one
back. So calls have no part in how loops go on, wherever no such signal leaves the function that it is
sent in. -/
theorem steering_leaves_with_calls {mode : Mode} (off : mode.debug = false) :
    (∀ n s span condition span' statements,
      Course (evalAt (n + 1) mode) (evalAt n mode) condition statements True s
        (evalAt (n + 2) mode (.node .loop span [condition, .node .block span' statements]) s)) ∧
    (∀ n name args s w s', (Eval.call name args).run (evalAt n) mode s = .ok w s' →
      ∃ f v, s.stack.current.functions.get? name = some f ∧
        args.length = f.parameters.length ∧
        Eval.inFrame (f.parameters.zip args) (evalAt n mode f.body) s = .ok v s' ∧
        (w.steers ↔ v.steers ∨ ∃ id payload u, v = .signal id .giveBack payload ∧
          s'.machine.store.carried payload = [u] ∧ u.steers)) ∧
    ∀ t s, t.placed steering (closed steering) → s.Clean steering →
      (∀ m ∈ moments t s, m.state.Clean steering ∧ m.Unsteered mode) ∧
        (endState (eval mode t s)).Clean steering := by
  refine ⟨fun n s span condition span' statements => ?_, fun n name args s w s' ok => ?_,
    fun t s placed clean => ?_⟩
  · rw [evalAt_loop]
    exact course_repeatUntil off (fun _ => True) (fun _ _ _ _ _ => trivial)
      (fun _ _ _ _ _ => ⟨trivial, fun _ => trivial⟩) _ trivial
  · obtain ⟨f, v, found, arity, ran, rfl⟩ := Eval.run_call_ok ok
    exact ⟨f, v, found, arity, ran, Eval.steers_result _ _⟩
  · have shows := sound_traceAt nestingLimit [] t _ s (by simp) placed clean
    refine ⟨fun m member => ?_, ?_⟩
    · have isClean := shows.entries m member
      exact ⟨isClean.state, isClean.unsteered off⟩
    · have kept := shows.kept
      rwa [trace_eval off t s] at kept

/-- Whether a loop without break and continue of its own has just begun. -/
def Moment.beginsUnsteered (m : Moment) : Bool :=
  match m.event with
  | .begins (.node .loop _ [_, .node .block span statements]) =>
    !(Syntax.Tree.node .block span statements).steersItself
  | _ => false

theorem Moment.of_beginsUnsteered {m : Moment} (begins : m.beginsUnsteered) :
    ∃ span condition span' statements,
      m.event = .begins (.node .loop span [condition, .node .block span' statements]) ∧
      (Syntax.Tree.node .block span' statements).steersItself = false := by
  unfold Moment.beginsUnsteered at begins
  split at begins
  next span condition span' statements event =>
    exact ⟨span, condition, span', statements, event, by simpa using begins⟩
  next => cases begins

/-- A function with a loop that is left, called from a loop. -/
def callingText : String :=
  "fn f() \x7b while 1 \x7b break; \x7d \x7d i = 1; while i \x7b f(); i = 0; \x7d"

theorem steering_leaves_with_calls_calling : ∃ t m span condition span' statements,
    parse callingText = .ok t ∧ t.placed steering (closed steering) ∧ ({} : State).Clean steering ∧
    m ∈ moments t {} ∧
    m.event = .begins (.node .loop span [condition, .node .block span' statements]) ∧
    (Syntax.Tree.node .block span' statements).steersItself = false ∧
    (∀ m ∈ moments t {}, m.state.Clean steering ∧ m.Unsteered {}) ∧
    ∀ n, Course (evalAt (n + 1) {}) (evalAt n {}) condition statements False m.state
      (evalAt (n + 2) {} (.node .loop span [condition, .node .block span' statements]) m.state) := by
  obtain ⟨t, parsed, placed, m, there, begins⟩ : ∃ t, parse callingText = .ok t ∧
      t.placed steering (closed steering) ∧ ∃ m ∈ moments t {}, m.beginsUnsteered := by
    decide +kernel
  obtain ⟨span, condition, span', statements, event, unsteered⟩ := Moment.of_beginsUnsteered begins
  have clean := clean_start steering
  obtain ⟨all, -⟩ := (@steering_leaves_with_calls {} rfl).2.2 t {} placed clean
  exact ⟨t, m, span, condition, span', statements, parsed, placed, clean, there, event, unsteered, all,
    (all m there).2.loop span condition span' statements event unsteered⟩

instance Value.decidableEqInt {v : Option Value} {i : Int} : Decidable (v = some (.int i)) :=
  match v with
  | some (.int j) => decidable_of_iff (j = i) (by simp)
  | none | some .null | some (.bool _) | some (.float _) | some (.nan _) | some (.complex ..)
  | some (.text _) | some (.bytes _) | some (.tuple ..) | some (.list _) | some (.set _)
  | some (.dict ..) | some .ellipsis | some (.signal ..) => isFalse (by simp)

/-- A loop without break of its own that should count to three. -/
def brokenText : String := "fn f() \x7b break; \x7d i = 0; while i < 3 \x7b i = i + 1; f(); \x7d"

/-- The call lets the signal out of its function, and the loop stops after one round. -/
theorem call_breaks_loop : ∃ t m span children v s, parse brokenText = .ok t ∧ m ∈ moments t {} ∧
    m.event = .ends (.node .call span children) (.ok v) ∧ v.steers ∧
    eval {} t {} = .ok (.int 0) s ∧ s.stack.read? "i" = some (.int 1) := by
  obtain ⟨t, parsed, ⟨m, there, gives⟩, v, s, ended, zero, one⟩ : ∃ t, parse brokenText = .ok t ∧
      (∃ m ∈ moments t {}, m.gives .call Value.steers) ∧ ∃ v s, eval {} t {} = .ok v s ∧
        some v = some (.int 0) ∧ s.stack.read? "i" = some (.int 1) := by decide +kernel
  obtain ⟨span, children, w, event, steers⟩ := Moment.of_gives gives
  cases zero
  exact ⟨t, m, span, children, w, s, parsed, there, event, steers, ended, one⟩

end DeskScript
