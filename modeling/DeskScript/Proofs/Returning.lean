import DeskScript.Proofs.Loops

/-!
# What a function gives back

A statement that gives a value back ends all blocks, choices and loops around it: the value goes
through them in a signal, and the call opens the signal. A tuple or a list of one item is opened with
it, so the call has the item for its value. Every other value comes out as it went in.
-/

namespace DeskScript

open Syntax

/-! ### Ways to a statement that gives back -/

section Ways

variable (evaluate : Evaluate) (mode : Mode)

/-- Statements are checked and run one after the other, and none of them ends in a signal. -/
inductive Passes : State → List Tree → State → Prop
  | nil (s : State) : Passes s [] s
  | cons {t : Tree} {rest : List Tree} {w : Value} {s s₁ s₂ s' : State}
      (checked : Eval.check evaluate mode t s = .ok () s₁) (ran : evaluate mode t s₁ = .ok w s₂)
      (plain : Eval.isSignal w = false) (later : Passes s₂ rest s') : Passes s (t :: rest) s'

/-- A loop goes round so many times, and nothing ends it. -/
inductive Rounds (condition body : Tree) : Nat → State → State → Prop
  | zero (s : State) : Rounds condition body 0 s s
  | succ {k : Nat} {c w : Value} {s s₁ s₂ s' : State} (tested : evaluate mode condition s = .ok c s₁)
      (goes : Eval.continues c) (ran : evaluate mode body s₁ = .ok w s₂) (on : Eval.verdict w = none)
      (later : Rounds condition body k s₂ s') : Rounds condition body (k + 1) s s'

end Ways

/-- With so many levels left, the evaluation of a tree ends at a statement that gives back this value,
in this state, whatever blocks, choices and loops stand around the statement. -/
inductive Returns (mode : Mode) (v : Value) (s' : State) : Nat → Tree → State → Prop
  | here {n : Nat} {span : Option Span} {e : Tree} {s : State} (value : evalAt n mode e s = .ok v s') :
      Returns mode v s' (n + 1) (.node .giveBack span [e]) s
  | statement {n : Nat} {span : Option Span} {t : Tree} {s : State} (inner : Returns mode v s' n t s) :
      Returns mode v s' (n + 1) (.node .expression span [t]) s
  | block {n : Nat} {span : Option Span} {before after : List Tree} {t : Tree} {s s₁ s₂ : State}
      (ran : Passes (evalAt n) mode s before s₁) (checked : Eval.check (evalAt n) mode t s₁ = .ok () s₂)
      (inner : Returns mode v s' n t s₂) :
      Returns mode v s' (n + 1) (.node .block span (before ++ t :: after)) s
  | choice {n : Nat} {span : Option Span} {condition yes no : Tree} {c : Value} {s s₁ : State}
      (tested : evalAt n mode condition s = .ok c s₁)
      (inner : Returns mode v s' n (if s₁.machine.store.truth c then yes else no) s₁) :
      Returns mode v s' (n + 1) (.node .choice span [condition, yes, no]) s
  | shortChoice {n : Nat} {span : Option Span} {condition yes : Tree} {c : Value} {s s₁ : State}
      (tested : evalAt n mode condition s = .ok c s₁) (truth : s₁.machine.store.truth c)
      (inner : Returns mode v s' n yes s₁) :
      Returns mode v s' (n + 1) (.node .choice span [condition, yes]) s
  | loop {n k : Nat} {span : Option Span} {condition body : Tree} {c : Value} {s s₁ s₂ : State}
      (rounds : Rounds (evalAt n) mode condition body k s s₁) (few : k < Eval.roundLimit)
      (tested : evalAt n mode condition s₁ = .ok c s₂) (goes : Eval.continues c)
      (inner : Returns mode v s' n body s₂) :
      Returns mode v s' (n + 1) (.node .loop span [condition, body]) s

/-! ### The signal on its way -/

/-- The state after a signal has been made. -/
def State.signalled (s : State) (kind : SignalKind) (v : Value) : State :=
  { s with machine.store := (s.machine.store.signal kind v).2 }

section Run

variable {below : Evaluate} {mode : Mode}

theorem Task.run_checked (t : Tree) : (checked t).run below mode = Eval.check below mode t :=
  bind_pure_unit

theorem Eval.run_block_passes {before : List Tree} {s s₁ : State} (passes : Passes below mode s before s₁)
    (last : Value) (rest : List Tree) : ∃ last', (block last (before ++ rest)).run below mode s =
      (block last' rest).run below mode s₁ := by
  induction passes generalizing last with
  | nil s => exact ⟨last, rfl⟩
  | @cons t rest' w s s₁ s₂ s' checked ran plain later ih =>
    obtain ⟨last', same⟩ := ih w
    refine ⟨last', Eq.trans ?_ same⟩
    rw [List.cons_append, block, Task.run_bind, Task.run_checked]
    simp only [bind, EStateM.bind, checked]
    change (Task.value t >>= fun v => if isSignal v then pure v else block v (rest' ++ rest)).run
      below mode s₁ = _
    rw [Task.run_bind, Task.run_value]
    simp only [bind, EStateM.bind, ran, plain, Bool.false_eq_true, if_false]

theorem Eval.run_repeatUntil_rounds {condition body : Tree} {k : Nat} {s s₁ : State}
    (rounds : Rounds below mode condition body k s s₁) (left : Nat) :
    (repeatUntil (round condition body) (k + left)).run below mode s =
      (repeatUntil (round condition body) left).run below mode s₁ := by
  induction rounds with
  | zero s => rw [Nat.zero_add]
  | @succ k c w s s₁ s₂ s' tested goes ran on later ih =>
    have round : (round condition body).run below mode s = .ok none s₂ := by
      rw [run_round_ok tested goes ran, on]
    rw [Nat.succ_add, run_repeatUntil_none round (k + left), ih]

end Run

/-- The statement's signal is the value of everything around it. -/
theorem Returns.evalAt {mode : Mode} {v : Value} {s' s : State} {n : Nat} {t : Tree}
    (returns : Returns mode v s' n t s) : DeskScript.evalAt n mode t s =
      .ok (.signal s'.machine.store.signals .giveBack v) (s'.signalled .giveBack v) := by
  induction returns with
  | @here n span e s value =>
    change (Task.value e >>= fun v => Task.request (.signal .giveBack v)).run _ mode s = _
    rw [Task.run_bind, Task.run_value]
    simp only [bind, EStateM.bind, value]
    rfl
  | @statement n span t s inner ih =>
    change (Task.value t).run _ mode s = _
    rw [Task.run_value, ih]
  | @block n span before after t s s₁ s₂ ran checked inner ih =>
    obtain ⟨last, same⟩ := Eval.run_block_passes ran (.int 0) (t :: after)
    rw [evalAt_block, same, Eval.block, Task.run_bind, Task.run_checked]
    simp only [bind, EStateM.bind, checked]
    change (Task.value t >>= fun v => if Eval.isSignal v then pure v else Eval.block v after).run
      _ mode s₂ = _
    rw [Task.run_bind, Task.run_value]
    simp only [bind, EStateM.bind, ih, Eval.isSignal, if_true]
    rfl
  | @choice n span condition yes no c s s₁ tested inner ih =>
    change (Task.value condition >>= fun c => Task.truth c >>= fun b =>
      if b then Task.value yes else Task.value no).run _ mode s = _
    rw [Task.run_bind, Task.run_value]
    simp only [bind, EStateM.bind, tested]
    change (if s₁.machine.store.truth c then Task.value yes else Task.value no : Task Value).run
      _ mode s₁ = _
    split at ih
    next holds => rw [if_pos holds, Task.run_value, ih]
    next fails => rw [if_neg fails, Task.run_value, ih]
  | @shortChoice n span condition yes c s s₁ tested truth inner ih =>
    change (Task.value condition >>= fun c => Task.truth c >>= fun b =>
      if b then Task.value yes else pure .null).run _ mode s = _
    rw [Task.run_bind, Task.run_value]
    simp only [bind, EStateM.bind, tested]
    change (if s₁.machine.store.truth c then Task.value yes else pure .null : Task Value).run
      _ mode s₁ = _
    rw [if_pos truth, Task.run_value, ih]
  | @loop n k span condition body c s s₁ s₂ rounds few tested goes inner ih =>
    obtain ⟨left, limit⟩ : ∃ left, Eval.roundLimit = k + (left + 1) := Nat.exists_eq_add_of_lt few
    rw [evalAt_loop, limit, Eval.run_repeatUntil_rounds rounds]
    refine Eval.run_repeatUntil_some ?_ left
    rw [Eval.run_round_ok tested goes ih]
    rfl

/-! ### The call -/

/-- The item of a tuple or a list that holds only one. -/
def Store.only? (s : Store) : Value → Option Value
  | .tuple _ [item] => some item
  | .list cell =>
    match s.get cell with
    | [item] => some item
    | _ => none
  | _ => none

theorem Eval.result_giveBack (s : Store) (id : Nat) (v : Value) :
    result s (.signal id .giveBack v) = (s.only? v).getD v := by
  unfold result Store.carried Store.only?
  split <;> grind

theorem Eval.run_inFrame {parameters : Bindings Value} {body : Interp Value} {v : Value} {s s' : State}
    (ran : body { s with stack := s.stack.enter parameters } = .ok v s') :
    inFrame parameters body s = .ok v { s' with stack := s'.stack.leave } := by
  simp [inFrame, Watched.modifyStack_apply, tryFinally, bind, EStateM.bind, MonadFinally.tryFinally',
    Functor.map, EStateM.map, ran]

theorem Eval.run_call {below : Evaluate} {mode : Mode} {name : String} {args : List Value} {f : Function}
    {v : Value} {s s' : State} (found : s.stack.current.functions.get? name = some f)
    (arity : args.length = f.parameters.length)
    (ran : below mode f.body { s with stack := s.stack.enter (f.parameters.zip args) } = .ok v s') :
    (call name args).run below mode s =
      .ok (result s'.machine.store v) { s' with stack := s'.stack.leave } := by
  have looked : Task.stack.run below mode s = .ok s.stack s := rfl
  have defined : (function name (.unknownFunction name)).run below mode s = .ok f s := by
    rw [function, Task.run_bind]
    simp only [bind, EStateM.bind, looked, found]
    rfl
  have called : (Task.called (f.parameters.zip args) f.body).run below mode s =
      .ok v { s' with stack := s'.stack.leave } := by
    have unfolded : (Task.called (f.parameters.zip args) f.body).run below mode =
        inFrame (f.parameters.zip args) (below mode f.body) >>= pure := rfl
    rw [unfolded, bind_pure, run_inFrame ran]
  rw [call, Task.run_bind]
  simp only [bind, EStateM.bind, defined]
  rw [if_neg (not_not.mpr arity)]
  change (Task.called (f.parameters.zip args) f.body >>= fun v => Task.store >>= fun store =>
    pure (result store v)).run below mode s = _
  rw [Task.run_bind]
  simp only [bind, EStateM.bind, called]
  rfl

/-- A call has the value for its own that its function gives back, from inside any blocks, choices and
loops: the same object, except that a tuple or a list of one item is replaced by its item. The frame
of the call is gone, and otherwise the state is the one in which the value was found, but for the
number of the signal. -/
theorem call_has_value_given_back {n : Nat} {mode : Mode} {span : Option Span} {children : List Tree}
    {name : String} {args : Option Tree} (parts : Eval.callParts children = some (name, args))
    {values : List Value} {s s₁ : State}
    (arguments : (Eval.argumentValues args).run (evalAt n) mode s = .ok values s₁) {f : Function}
    (found : s₁.stack.current.functions.get? name = some f)
    (arity : values.length = f.parameters.length) {v : Value} {s₂ : State}
    (returns : Returns mode v s₂ n f.body
      { s₁ with stack := s₁.stack.enter (f.parameters.zip values) }) :
    evalAt (n + 1) mode (.node .call span children) s =
      .ok ((s₂.machine.store.only? v).getD v)
        { s₂.signalled .giveBack v with stack := s₂.stack.leave } := by
  have unfolded : evalAt (n + 1) mode (.node .call span children) =
      (Eval.argumentValues args >>= Eval.call name).run (evalAt n) mode := by
    change (Eval.node .call children).run (evalAt n) mode = _
    rw [Eval.node, parts]
  rw [unfolded, Task.run_bind]
  simp only [bind, EStateM.bind, arguments]
  rw [Eval.run_call found arity returns.evalAt, Eval.result_giveBack]
  rfl

/-- A function gives a list back from inside a choice in a loop. -/
def givesList (items : List Tree) : State :=
  let gives : Tree := .node .giveBack none [.node .list none [.node .items none items]]
  let choice : Tree := .node .choice none [.node .yes none [], .node .block none [gives]]
  let loop : Tree := .node .loop none [.node .yes none [], .node .block none [.node .expression none [choice]]]
  { stack.current.functions := [("f", ⟨[], .node .block none [loop]⟩)] }

theorem returns_list {n : Nat} {items : List Tree} {v : Value} {s s' : State}
    (value : evalAt n {} (.node .list none [.node .items none items]) s = .ok v s') :
    ∀ f ∈ (givesList items).stack.current.functions, Returns {} v s' (n + 7) f.2.body s := by
  simp only [givesList, List.forall_mem_singleton]
  have passes (n : Nat) : Passes (evalAt n) {} s [] s := .nil s
  refine .block (passes _) rfl (.loop (.zero s) (by decide) rfl rfl ?_)
  refine .block (passes _) rfl (.statement (.shortChoice rfl rfl ?_))
  exact .block (passes _) rfl (.here value)

/-- A list of two items is the value of the call. -/
theorem call_has_value_given_back_pair :
    let items : List Tree := [.node .yes none [], .node .null none []]
    ∃ s' : State, s'.machine.store.get 0 = [.int 1, .null] ∧
      evalAt 11 {} (.node .call none [.leaf ⟨.name, "f", none⟩]) (givesList items) = .ok (.list 0) s' := by
  intro items
  have returns := @returns_list 3 items (.list 0) { givesList items with
    stack := (givesList items).stack.enter [] } _ rfl _ (List.mem_singleton_self _)
  exact ⟨_, rfl, call_has_value_given_back rfl rfl rfl rfl returns⟩

/-- A list of one item is opened, and the call has the item for its value. -/
theorem list_of_one_is_opened :
    let items : List Tree := [.node .yes none []]
    ∃ s' s'' : State, s'.machine.store.get 0 = [.int 1] ∧
      (∀ f ∈ (givesList items).stack.current.functions, Returns {} (.list 0) s' 10 f.2.body
        { givesList items with stack := (givesList items).stack.enter [] }) ∧
      evalAt 11 {} (.node .call none [.leaf ⟨.name, "f", none⟩]) (givesList items) = .ok (.int 1) s'' :=
  ⟨_, _, rfl, returns_list rfl, rfl⟩

end DeskScript
