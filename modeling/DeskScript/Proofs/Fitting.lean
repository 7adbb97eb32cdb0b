import DeskScript.Proofs.Scripted
import DeskScript.Proofs.Shapes
import DeskScript.Proofs.Keeping

/-!
# What trees of the language ask for

The evaluator has a case for every tree of the language: its task evaluates and calls trees of the
language only, it defines no function but one with a block for its body, and it does not fail with an
error that blames the tree. The one exception is a return without a value. Among all trees only the
calls of the three built-ins for it ask the machine to change a list.
-/

namespace DeskScript

open Syntax

/-- A tree that a script has the evaluator look at: one of the language, or a word in it. -/
def Syntax.Tree.Fit (t : Tree) : Prop := (∃ role, t.Formed .any role) ∨ ∃ l, t = .leaf l

/-- A return without a value. -/
def Syntax.Tree.givesNothing : Tree → Bool
  | .node .giveBack _ [] => true
  | _ => false

/-- A built-in that is asked for by a call of it. -/
def Syntax.Tree.CallsFor (t : Tree) (r : Request) : Prop :=
  ∃ b v span children, r = .builtin b v ∧ t = .node (.builtin b) span children

/-- A block of the language, as the body of a function has to be. -/
abbrev Syntax.Tree.IsBlock (t : Tree) : Prop := t.Formed .any .block

variable {t body : Tree}

theorem Syntax.Tree.Formed.fit {role : Role} (formed : t.Formed .any role) : t.Fit :=
  Or.inl ⟨role, formed⟩

/-- A change that defines no function but one with a block for its body. -/
def Change.Fit : Change → Prop
  | define _ f => f.body.IsBlock
  | _ => True

namespace Task

variable {α β : Type}

/-- A task that asks for nothing but trees and functions of the language, does not blame the tree,
and changes lists by the given requests only. Its result is as it should be. -/
def Fits (own : Request → Prop) (post : α → Prop) : Task α → Prop
  | done a => post a
  | fail e => e.blamesTree = false
  | perform r next => (r.changesList → own r) ∧ ∀ v, (next v).Fits own post
  | look next => ∀ store stack, stack.Bodies Tree.IsBlock → (next store stack).Fits own post
  | change c next => c.Fit ∧ next.Fits own post
  | check _ next => next.Fits own post
  | evaluate _ t next => t.Fit ∧ ∀ v, (next v).Fits own post
  | call _ body next => body.IsBlock ∧ ∀ v, (next v).Fits own post

variable {own : Request → Prop} {post : α → Prop}

theorem fits_bind {mid : α → Prop} {post : β → Prop} {task : Task α} {f : α → Task β}
    (first : task.Fits own mid) (rest : ∀ a, mid a → (f a).Fits own post) :
    (task >>= f).Fits own post := by
  induction task with
  | done a => exact rest a first
  | fail e => exact first
  | perform r next ih => exact ⟨first.1, fun v => ih v (first.2 v)⟩
  | look next ih => exact fun store stack blocks => ih store stack (first store stack blocks)
  | change c next ih => exact ⟨first.1, ih first.2⟩
  | check t next ih => exact ih first
  | evaluate quiet t next ih => exact ⟨first.1, fun v => ih v (first.2 v)⟩
  | call parameters body next ih => exact ⟨first.1, fun v => ih v (first.2 v)⟩

theorem fits_lift {x : Except Error β} (innocent : Innocent x) {f : β → Task α}
    (rest : ∀ b, (f b).Fits own post) : (liftM x >>= f).Fits own post := by
  cases x with
  | error e => exact innocent
  | ok b => exact rest b

theorem fits_value (fit : t.Fit) {quiet : Bool} {f : Value → Task α}
    (rest : ∀ v, (f v).Fits own post) : (value t quiet >>= f).Fits own post :=
  ⟨fit, rest⟩

/-- A request that leaves lists alone. -/
theorem fits_request {r : Request} (alone : r.changesList = false) :
    (request r).Fits own fun _ => True :=
  ⟨fun changes => by simp [alone] at changes, fun _ => trivial⟩

theorem fits_truth {v : Value} {f : Bool → Task α} (rest : ∀ b, (f b).Fits own post) :
    (truth v >>= f).Fits own post :=
  fun store _ _ => rest (store.truth v)

theorem fits_ite {c : Bool} {yes no : Task α} (first : yes.Fits own post)
    (second : no.Fits own post) : (if c then yes else no).Fits own post := by
  cases c
  · exact second
  · exact first

/-- A tree decides which of two tasks comes next. -/
theorem fits_test (fit : t.Fit) {yes no : Task α} (first : yes.Fits own post)
    (second : no.Fits own post) : (do if ← truth (← value t) then yes else no).Fits own post :=
  fits_value fit fun _ => fits_truth fun _ => fits_ite first second

theorem fits_values {trees : List Tree} (fit : ∀ t ∈ trees, t.Fit) :
    (trees.mapM fun t => value t).Fits own fun _ => True :=
  mapM_keeps (fun _ _ => trivial) fun t member _ rest => fits_value (fit t member) fun v => rest v trivial

end Task

namespace Eval

variable {own : Request → Prop}

theorem fits_leaf (l : Leaf) : (leaf l).Fits own fun _ => True := by
  unfold leaf
  split
  · exact Task.fits_lift (innocent_number l) fun v => Task.fits_request rfl
  · exact Task.fits_request rfl
  · intro store stack _
    simp only [Task.bind]
    cases stack.read? l.text with
    | some v => trivial
    | none => rfl
  · trivial

theorem fits_block (last : Value) {trees : List Tree} (fit : ∀ t ∈ trees, t.Fit) :
    (block last trees).Fits own fun _ => True := by
  induction trees generalizing last with
  | nil => trivial
  | cons t rest ih =>
    refine ⟨fit t List.mem_cons_self, fun v => ?_⟩
    exact Task.fits_ite trivial (ih v fun t member => fit t (List.mem_cons_of_mem _ member))

theorem fits_assignAll (entries : List (String × Value)) :
    (assignAll entries).Fits own fun _ => True := by
  induction entries with
  | nil => trivial
  | cons e rest ih => exact ⟨trivial, ih⟩

theorem innocent_assigned (s : Store) (names : List String) (values : List Value) :
    Innocent (assigned s names values) := by
  unfold assigned
  grind

theorem fits_assign (names : List String) (values : List Value) :
    (assign names values).Fits own fun _ => True := by
  intro store stack _
  exact Task.fits_lift (innocent_assigned store names values) fun vs => fits_assignAll _

/-- A function that is found has a block for its body. -/
theorem fits_function (name : String) {missing : ScriptFault}
    (innocent : (Error.script missing).blamesTree = false) :
    (function name missing).Fits own fun f => f.body.IsBlock := by
  intro store stack blocks
  simp only [Task.bind]
  cases found : stack.current.functions.get? name with
  | some f => exact blocks.function found
  | none => exact innocent

theorem fits_call (name : String) (args : List Value) : (call name args).Fits own fun _ => True := by
  refine Task.fits_bind (fits_function name rfl) fun f block => ?_
  split
  · rfl
  · exact ⟨block, fun v store stack _ => trivial⟩

theorem fits_argumentValues {args : Option Tree} (fit : ∀ t ∈ args, t.Fit) :
    (argumentValues args).Fits own fun _ => True := by
  cases args with
  | none => trivial
  | some t => exact Task.fits_value (fit t rfl) fun v store stack _ => trivial

theorem fits_repeatUntil {α : Type} {body : Task (Option α)} (fits : body.Fits own fun _ => True)
    (n : Nat) : (repeatUntil body n).Fits own fun _ => True := by
  induction n with
  | zero => rfl
  | succ n ih =>
    refine Task.fits_bind fits fun r _ => ?_
    cases r with
    | none => exact ih
    | some a => trivial

theorem fits_round {condition : Tree} (test : condition.Fit) (fit : body.Fit) :
    (round condition body).Fits own fun _ => True := by
  refine Task.fits_value test fun c => Task.fits_ite ?_ trivial
  refine Task.fits_value fit fun v => ?_
  split <;> trivial

theorem fits_tick (provider name : String) : (tick provider name).Fits own fun _ => True := by
  refine Task.fits_bind (fits_function provider rfl) fun p block => ?_
  refine Task.fits_value block.fit fun v => Task.fits_ite trivial ?_
  refine Task.fits_bind (fits_function name rfl) fun f block => ?_
  exact Task.fits_value block.fit fun _ => trivial

/-- The definition of a function in a script has a block for its body. -/
theorem fits_define (name : String) {rest : List Tree} {parameters : List String}
    (parts : definition rest = (parameters, some body)) (block : body.IsBlock) :
    (define name rest).Fits own fun _ => True := by
  rw [define, parts]
  exact ⟨block, trivial⟩

theorem definition_plain (block : body.IsBlock) : definition [body] = ([], some body) := by
  cases block
  rfl

theorem definition_with {params : Tree} (listed : params.Formed .any .parameters)
    (block : body.IsBlock) : ∃ names, definition [params, body] = (names, some body) := by
  cases listed
  cases block
  exact ⟨_, rfl⟩

theorem fits_binary {a b : Tree} (first : a.Fit) (second : b.Fit) (label : Label) :
    (do
      let v ← Task.value a
      let w ← Task.value b
      Task.request (.binary label v w)).Fits own fun _ => True :=
  Task.fits_value first fun _ => Task.fits_value second fun _ => Task.fits_request rfl

/-- A tree is evaluated for its truth. -/
theorem fits_verdict (fit : t.Fit) :
    (do return Value.ofBool (← Task.truth (← Task.value t)) : Task Value).Fits own fun _ => True :=
  Task.fits_value fit fun _ => Task.fits_truth fun _ => trivial

/-- The task of a built-in that is given a value. -/
theorem task_builtin {b : Builtin} (takes : b.arguments = .many ∨ b.arguments = .one)
    (span : Option Span) (t : Tree) : task (.node (.builtin b) span [t]) =
      Task.value t (b = .record || b = .playback) >>= fun v => Task.request (.builtin b v) := by
  cases b with
  | leftClick | time | mousePosition | foreachTick => simp [Builtin.arguments] at takes
  | _ => rfl

/-- A call of a built-in may ask for what the built-in does. -/
theorem fits_builtin {b : Builtin} (takes : b.arguments = .many ∨ b.arguments = .one) (fit : t.Fit)
    (span : Option Span) : (task (.node (.builtin b) span [t])).Fits
      (Tree.CallsFor (.node (.builtin b) span [t])) fun _ => True := by
  rw [task_builtin takes]
  refine Task.fits_value fit fun v => ?_
  exact ⟨fun _ => ⟨b, v, span, [t], rfl, rfl⟩, fun _ => trivial⟩

/-- What a tree of the language asks for, unless it is a return without a value. -/
theorem fits_formed {role : Role} (formed : t.Formed .any role) (some : t.givesNothing = false) :
    (task t).Fits t.CallsFor fun _ => True := by
  cases formed with
  | script block => exact ⟨block.fit, fun _ => trivial⟩
  | block each => exact fits_block _ fun t member => (each t member).fit
  | importFile => trivial
  | outer => exact ⟨trivial, trivial⟩
  | store _ named given =>
    refine Task.fits_bind (Task.fits_values fun t member => ?_) fun values _ =>
      Task.fits_bind (fits_assign _ values) fun _ _ => trivial
    rcases List.mem_append.mp (List.mem_of_mem_drop member) with name | last
    · obtain ⟨l, -, rfl⟩ := List.mem_map.mp name
      exact Or.inr ⟨l, rfl⟩
    · obtain rfl := List.mem_singleton.mp last
      exact given.fit
  | expression given => exact ⟨given.fit, fun _ => trivial⟩
  | breakLoop | continueLoop => exact Task.fits_request rfl
  | giveNothing => simp [Syntax.Tree.givesNothing] at some
  | giveBack given => exact Task.fits_value given.fit fun _ => Task.fits_request rfl
  | define _ block => exact fits_define _ (definition_plain block) block
  | defineWith _ listed block =>
    obtain ⟨names, parts⟩ := definition_with listed block
    exact fits_define _ parts block
  | parameters => exact Task.fits_request rfl
  | loop given block => exact fits_repeatUntil (fits_round given.fit block.fit) _
  | choice given block => exact Task.fits_test given.fit ⟨block.fit, fun _ => trivial⟩ trivial
  | choiceElse given block block' =>
    exact Task.fits_test given.fit ⟨block.fit, fun _ => trivial⟩ ⟨block'.fit, fun _ => trivial⟩
  | operator binary first second =>
    simp only [Label.binary, List.mem_cons, List.not_mem_nil, or_false] at binary
    rcases binary with rfl | rfl | rfl | rfl | rfl | rfl | rfl | rfl | rfl | rfl | rfl | rfl | rfl
    · exact Task.fits_test first.fit trivial (fits_verdict second.fit)
    · exact Task.fits_test first.fit (fits_verdict second.fit) trivial
    all_goals exact fits_binary first.fit second.fit _
  | negate given =>
    refine Task.fits_value given.fit fun v => ?_
    exact Task.fits_lift v.innocent_neg fun _ => Task.fits_request rfl
  | index given placed =>
    exact Task.fits_value given.fit fun _ => Task.fits_value placed.fit fun _ => Task.fits_request rfl
  | number | string | var => exact ⟨Or.inr ⟨_, rfl⟩, fun _ => trivial⟩
  | constant among =>
    simp only [Label.constants, List.mem_cons, List.not_mem_nil, or_false] at among
    rcases among with rfl | rfl | rfl <;> trivial
  | tuple _ each | items _ each | args _ each =>
    exact Task.fits_bind (Task.fits_values fun t member => (each t member).fit) fun _ _ =>
      Task.fits_request rfl
  | emptyList => exact Task.fits_request rfl
  | list given =>
    cases given with
    | items nonempty each => exact ⟨(Tree.Formed.items nonempty each).fit, fun _ => trivial⟩
  | call => exact fits_call _ []
  | callWith named given =>
    cases given with
    | args nonempty each =>
      refine Task.fits_bind (fits_argumentValues ?_) fun values _ => fits_call _ values
      rintro t ⟨⟩
      exact (Tree.Formed.args nonempty each).fit
  | builtinCall called => exact ⟨called.fit, fun _ => trivial⟩
  | builtinMany takes given => exact fits_builtin (Or.inl takes) given.fit _
  | builtinOne takes given => exact fits_builtin (Or.inr takes) given.fit _
  | @builtinEmpty span b takes =>
    cases b with
    | leftClick | time | mousePosition => exact Task.fits_request rfl
    | _ => simp [Builtin.arguments] at takes
  | @builtinNames span b f g takes =>
    cases b with
    | foreachTick => exact fits_repeatUntil (fits_tick _ _) _
    | _ => simp [Builtin.arguments] at takes

/-- What a tree that a script has the evaluator look at asks for. -/
theorem fits_task (fit : t.Fit) (some : t.givesNothing = false) :
    (task t).Fits t.CallsFor fun _ => True := by
  rcases fit with ⟨role, formed⟩ | ⟨l, rfl⟩
  · exact fits_formed formed some
  · exact fits_leaf l

end Eval

end DeskScript
