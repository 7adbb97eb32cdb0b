import DeskScript.Proofs.Debugging
import DeskScript.Proofs.Places

/-!
# What evaluation does not see

Where a tree was read makes no difference to a run without the debugger: neither to what the tree
asks for, nor to the functions that it defines, which keep their places. So a run goes as it goes
with all places taken away, at whatever console, as long as it asks for no line there.
-/

namespace DeskScript

open Syntax

/-! ### Trees and frames without places -/

mutual

theorem Syntax.Tree.quoted_respan (f : Option Span → Option Span) :
    ∀ t : Tree, (t.respan f).quoted = t.quoted
  | .node label span children => by
    rw [Tree.respan, Tree.quoted, Tree.quoted, Tree.quotedAll_respans f children]
  | .leaf l => rfl
  | .datum d => rfl

theorem Syntax.Tree.quotedAll_respans (f : Option Span → Option Span) :
    ∀ ts : List Tree, Tree.quotedAll (respans f ts) = Tree.quotedAll ts
  | [] => rfl
  | t :: ts => by
    rw [respans, Tree.quotedAll, Tree.quotedAll, Tree.quoted_respan f t,
      Tree.quotedAll_respans f ts]

end

theorem Syntax.Tree.text_respan (f : Option Span → Option Span) (t : Tree) :
    (t.respan f).text = t.text := by
  cases t with
  | node label span children => exact Tree.quoted_respan _ _
  | leaf l => rfl
  | datum d => rfl

theorem Syntax.Tree.text_bare (t : Tree) : t.bare.text = t.text := Tree.text_respan _ t

theorem Syntax.Tree.isName_bare (t : Tree) : t.bare.isName = t.isName := by
  cases t <;> rfl

/-- A function without the places of its body. -/
def Function.bare (f : Function) : Function := { f with body := f.body.bare }

/-- A table of functions without places. -/
def Bindings.bare (b : Bindings Function) : Bindings Function := b.map fun e => (e.1, e.2.bare)

def Frame.bare (f : Frame) : Frame := { f with functions := f.functions.bare }

def CallStack.bare (s : CallStack) : CallStack := ⟨s.current.bare, s.callers.map Frame.bare⟩

def Change.bare : Change → Change
  | define name f => define name f.bare
  | c => c

theorem Bindings.get?_bare (b : Bindings Function) (name : String) :
    b.bare.get? name = (b.get? name).map Function.bare := by
  induction b with
  | nil => rfl
  | cons e rest ih =>
    obtain ⟨n, f⟩ := e
    simp only [bare, List.map_cons, get?, List.lookup_cons] at ih ⊢
    cases name == n
    · exact ih
    · rfl

theorem Bindings.set_bare (b : Bindings Function) (name : String) (f : Function) :
    (b.set name f).bare = b.bare.set name f.bare := by
  induction b with
  | nil => rfl
  | cons e rest ih =>
    simp only [bare, List.map_cons, set] at ih ⊢
    split
    · rfl
    · rw [List.map_cons, ih]

namespace CallStack

variable (stack : CallStack)

theorem read?_bare (name : String) : stack.bare.read? name = stack.read? name := by
  simp only [read?, bare, Frame.bare, List.getElem?_map]
  cases stack.current.outer.get? name with
  | none => rfl
  | some up =>
    simp only
    cases stack.callers[up]? <;> rfl

theorem outerTarget?_bare (name : String) :
    stack.bare.outerTarget? name = stack.outerTarget? name := by
  obtain ⟨current, callers⟩ := stack
  cases callers with
  | nil => rfl
  | cons caller rest =>
    have place : ∀ frames : List Frame,
        (frames.map Frame.bare).findIdx? (·.vars.has name) = frames.findIdx? (·.vars.has name) := by
      intro frames
      rw [List.findIdx?_map]
      rfl
    simp only [outerTarget?, bare, List.map_cons]
    rw [← List.map_cons, place]
    rfl

theorem change_bare (c : Change) : (stack.change c).bare = stack.bare.change c.bare := by
  cases c with
  | assign name v =>
    simp only [change, assign, Change.bare, bare, Frame.bare]
    cases stack.current.outer.get? name with
    | none => rfl
    | some up =>
      have written : ∀ frames : List Frame,
          (frames.modify up fun f => { f with vars := f.vars.set name v }).map Frame.bare =
            (frames.map Frame.bare).modify up fun f => { f with vars := f.vars.set name v } := by
        intro frames
        induction frames generalizing up with
        | nil => simp
        | cons f rest ih =>
          cases up with
          | zero => rfl
          | succ up => simp [ih]
      exact congrArg (CallStack.mk _) (written stack.callers)
  | outer name =>
    simp only [change, declareOuter, Change.bare, outerTarget?_bare]
    cases stack.outerTarget? name <;> rfl
  | define name f =>
    simp only [change, define, Change.bare, bare, Frame.bare, Bindings.set_bare]

theorem enter_bare (parameters : Bindings Value) :
    (stack.enter parameters).bare = stack.bare.enter parameters := rfl

theorem leave_bare : stack.leave.bare = stack.bare.leave := by
  obtain ⟨current, callers⟩ := stack
  cases callers <;> rfl

end CallStack

/-! ### Tasks without places -/

namespace Task

variable {α β γ δ : Type}

/-- A task and the same task without places. What is done with the frames may not depend on places
either, and nothing depends on what is checked. -/
inductive Bares (R : α → β → Prop) : Task α → Task β → Prop
  | done {a : α} {b : β} (same : R a b) : Bares R (.done a) (.done b)
  | fail (e : Error) : Bares R (.fail e) (.fail e)
  | perform (r : Request) {next : Value → Task α} {next' : Value → Task β}
      (rest : ∀ v, Bares R (next v) (next' v)) : Bares R (.perform r next) (.perform r next')
  | look {next : Store → CallStack → Task α} {next' : Store → CallStack → Task β}
      (rest : ∀ store stack, Bares R (next store stack) (next' store stack.bare)) :
      Bares R (.look next) (.look next')
  | change (c : Change) {next : Task α} {next' : Task β} (rest : Bares R next next') :
      Bares R (.change c next) (.change c.bare next')
  | check (t t' : Tree) {next : Task α} {next' : Task β} (rest : Bares R next next') :
      Bares R (.check t next) (.check t' next')
  | evaluate (quiet : Bool) (t : Tree) {next : Value → Task α} {next' : Value → Task β}
      (rest : ∀ v, Bares R (next v) (next' v)) :
      Bares R (.evaluate quiet t next) (.evaluate quiet t.bare next')
  | call (parameters : Bindings Value) (body : Tree) {next : Value → Task α}
      {next' : Value → Task β} (rest : ∀ v, Bares R (next v) (next' v)) :
      Bares R (.call parameters body next) (.call parameters body.bare next')

theorem bares_bind {R : α → β → Prop} {S : γ → δ → Prop} {m : Task α} {m' : Task β}
    {f : α → Task γ} {f' : β → Task δ} (first : Bares R m m')
    (rest : ∀ a b, R a b → Bares S (f a) (f' b)) : Bares S (m >>= f) (m' >>= f') := by
  induction first with
  | done same => exact rest _ _ same
  | fail e => exact .fail e
  | perform r _ ih => exact .perform r ih
  | look _ ih => exact .look ih
  | change c _ ih => exact .change c ih
  | check t t' _ ih => exact .check t t' ih
  | evaluate quiet t _ ih => exact .evaluate quiet t ih
  | call parameters body _ ih => exact .call parameters body ih

/-- A task whose result has no places. -/
abbrev Even (m m' : Task α) : Prop := Bares Eq m m'

theorem even_bind {m m' : Task α} {f f' : α → Task β} (first : Even m m')
    (rest : ∀ a, Even (f a) (f' a)) : Even (m >>= f) (m' >>= f') := by
  refine bares_bind first ?_
  rintro a _ rfl
  exact rest a

theorem even_pure (a : α) : Even (pure a : Task α) (pure a) := .done rfl

theorem even_lift (e : Except Error α) : Even (liftM e : Task α) (liftM e) := by
  cases e with
  | ok a => exact .done rfl
  | error e => exact .fail e

theorem even_request (r : Request) : Even (request r) (request r) := .perform r fun _ => .done rfl

theorem even_value (t : Tree) (quiet : Bool) : Even (value t quiet) (value t.bare quiet) :=
  .evaluate quiet t fun _ => .done rfl

theorem even_value_bind (t : Tree) {quiet : Bool} {f f' : Value → Task α}
    (rest : ∀ v, Even (f v) (f' v)) : Even (value t quiet >>= f) (value t.bare quiet >>= f') :=
  even_bind (even_value t quiet) rest

theorem even_called (parameters : Bindings Value) (body : Tree) :
    Even (called parameters body) (called parameters body.bare) :=
  .call parameters body fun _ => .done rfl

theorem even_store : Even store store := .look fun _ _ => .done rfl

theorem even_truth (v : Value) : Even (truth v) (truth v) := .look fun _ _ => .done rfl

theorem even_ite {c : Bool} {yes yes' no no' : Task α} (first : Even yes yes')
    (second : Even no no') : Even (if c then yes else no) (if c then yes' else no') := by
  cases c
  · exact second
  · exact first

theorem even_test (t : Tree) {yes yes' no no' : Task α} (first : Even yes yes')
    (second : Even no no') :
    Even (do if ← truth (← value t) then yes else no)
      (do if ← truth (← value t.bare) then yes' else no') :=
  even_value_bind t fun v => even_bind (even_truth v) fun _ => even_ite first second

theorem even_verdict (t : Tree) :
    Even (do return Value.ofBool (← truth (← value t)) : Task Value)
      (do return Value.ofBool (← truth (← value t.bare))) :=
  even_value_bind t fun v => even_bind (even_truth v) fun _ => even_pure _

theorem even_values (trees : List Tree) :
    Even (trees.mapM fun t => value t) ((trees.map Tree.bare).mapM fun t => value t) := by
  have loop : ∀ values, Even (List.mapM.loop (fun t => value t) trees values)
      (List.mapM.loop (fun t => value t) (trees.map Tree.bare) values) := by
    induction trees with
    | nil => exact fun values => even_pure _
    | cons t rest ih => exact fun values => even_value_bind t fun v => ih (v :: values)
  exact loop []

end Task

namespace Eval

theorem even_readVariable (name : String) : Task.Even (readVariable name) (readVariable name) := by
  refine .look fun store stack => ?_
  simp only [Task.bind]
  rw [CallStack.read?_bare]
  cases stack.read? name with
  | some v => exact .done rfl
  | none => exact .fail _

theorem even_leaf (l : Leaf) (span : Option Span) :
    Task.Even (leaf l) (leaf { l with span := span }) := by
  unfold leaf
  have same : number { l with span := span } = number l := by simp only [number, Leaf.quoted]
  rw [same]
  cases l.kind with
  | number => exact Task.even_bind (Task.even_lift _) fun v => Task.even_request _
  | string => exact Task.even_request _
  | name => exact even_readVariable _
  | other => exact Task.even_pure _

theorem even_block (last : Value) (trees : List Tree) :
    Task.Even (block last trees) (block last (trees.map Tree.bare)) := by
  induction trees generalizing last with
  | nil => exact Task.even_pure _
  | cons t rest ih =>
    refine .check t t.bare (.evaluate false t fun v => ?_)
    exact Task.even_ite (Task.even_pure v) (ih v)

theorem even_assignAll (entries : List (String × Value)) :
    Task.Even (assignAll entries) (assignAll entries) := by
  induction entries with
  | nil => exact Task.even_pure _
  | cons e rest ih => exact .change (.assign e.1 e.2) ih

theorem even_assign (names : List String) (values : List Value) :
    Task.Even (assign names values) (assign names values) :=
  Task.even_bind Task.even_store fun _ => Task.even_bind (Task.even_lift _) fun _ => even_assignAll _

theorem texts_bare (ts : List Tree) : (ts.map Tree.bare).map Tree.text = ts.map Tree.text := by
  rw [List.map_map]
  exact congrArg (ts.map ·) (funext Tree.text_bare)

theorem assignment_bare (children : List Tree) :
    assignment (children.map Tree.bare) =
      ((assignment children).1, (assignment children).2.map Tree.bare) := by
  have names : ∀ ts : List Tree, ((ts.map Tree.bare).filter Tree.isName).length =
      (ts.filter Tree.isName).length := by
    intro ts
    rw [List.filter_map, List.length_map]
    exact congrArg (fun p => (ts.filter p).length) (funext Tree.isName_bare)
  simp only [assignment, ← List.map_dropLast, names, ← List.map_take, ← List.map_drop, texts_bare]

theorem definition_bare (rest : List Tree) :
    definition (rest.map Tree.bare) = ((definition rest).1, (definition rest).2.map Tree.bare) := by
  unfold definition
  rw [List.foldl_map]
  refine @List.foldl_hom _ _ _ (fun acc : List String × Option Tree => (acc.1, acc.2.map Tree.bare))
    _ _ rest ([], none) ?_
  rintro ⟨parameters, body⟩ t
  cases t with
  | node label span children =>
    rw [Tree.bare_node]
    by_cases names : label = .parameters
    · subst names
      simp only [texts_bare]
    · by_cases block : label = .block
      · subst block
        simp only [Option.map_some, Tree.bare_node]
      · simp [names, block]
  | leaf l => rfl
  | datum d => rfl

/-- A function that is found has the places of its definition, or none. -/
theorem bares_function (name : String) (missing : ScriptFault) :
    Task.Bares (fun f f' => f' = f.bare) (function name missing) (function name missing) := by
  refine .look fun store stack => ?_
  simp only [Task.bind]
  have found : stack.bare.current.functions.get? name =
      (stack.current.functions.get? name).map Function.bare := Bindings.get?_bare _ _
  rw [found]
  cases stack.current.functions.get? name with
  | some f => exact .done rfl
  | none => exact .fail _

theorem even_call (name : String) (args : List Value) :
    Task.Even (call name args) (call name args) := by
  refine Task.bares_bind (bares_function name _) ?_
  rintro f _ rfl
  change Task.Even (if args.length ≠ f.parameters.length then _ else _)
    (if args.length ≠ f.parameters.length then _ else _)
  split
  · exact .fail _
  · exact Task.even_bind (Task.even_called _ f.body) fun v =>
      Task.even_bind Task.even_store fun _ => Task.even_pure _

theorem even_repeatUntil {α : Type} {body body' : Task (Option α)} (even : Task.Even body body')
    (n : Nat) : Task.Even (repeatUntil body n) (repeatUntil body' n) := by
  induction n with
  | zero => exact .fail _
  | succ n ih =>
    refine Task.even_bind even fun r => ?_
    cases r
    · exact ih
    · exact Task.even_pure _

theorem even_round (condition body : Tree) :
    Task.Even (round condition body) (round condition.bare body.bare) := by
  refine Task.even_value_bind condition fun v => ?_
  refine Task.even_ite (Task.even_value_bind body fun w => ?_) (Task.even_pure _)
  split <;> exact Task.even_pure _

theorem even_tick (provider name : String) : Task.Even (tick provider name) (tick provider name) := by
  refine Task.bares_bind (bares_function provider _) ?_
  rintro p _ rfl
  refine Task.even_value_bind p.body fun v => Task.even_ite (Task.even_pure _) ?_
  refine Task.bares_bind (bares_function name _) ?_
  rintro f _ rfl
  exact Task.even_value_bind f.body fun _ => Task.even_pure _

theorem even_argumentValues (args : Option Tree) :
    Task.Even (argumentValues args) (argumentValues (args.map Tree.bare)) := by
  cases args with
  | none => exact Task.even_pure _
  | some t =>
    exact Task.even_value_bind t fun _ => Task.even_bind Task.even_store fun _ => Task.even_pure _

theorem callParts_bare (children : List Tree) :
    callParts (children.map Tree.bare) =
      (callParts children).map fun parts => (parts.1, parts.2.map Tree.bare) := by
  rcases children with _ | ⟨name, _ | ⟨args, _ | ⟨more, rest⟩⟩⟩
  · rfl
  · simp [callParts, Tree.text_bare]
  · cases args with
    | node label span children =>
      by_cases args : label = .args
      · subst args
        simp [callParts, Tree.text_bare, Tree.bare_node]
      · simp [callParts, args, Tree.bare_node]
    | leaf l => rfl
    | datum d => rfl
  · simp [callParts]

theorem even_define (name : String) (rest : List Tree) :
    Task.Even (define name rest) (define name (rest.map Tree.bare)) := by
  unfold define
  rw [definition_bare]
  rcases definition rest with ⟨parameters, body⟩
  cases body with
  | none => exact .fail _
  | some body => exact .change (.define name ⟨parameters, body⟩) (.done rfl)

/-- What a list of anything but items asks for. -/
theorem node_list {label : Label} (other : label ≠ .items) (span : Option Span)
    (children : List Tree) :
    node .list [.node label span children] = .request (.newList []) := by
  cases label <;> first | rfl | exact absurd rfl other

/-- What a built-in asks for, unless it calls functions. -/
theorem node_builtin {b : Builtin} (other : b ≠ .foreachTick) (children : List Tree) :
    node (.builtin b) children =
      if b.arguments = .empty then .request (.bareBuiltin b)
      else match children with
        | [t] => do .request (.builtin b (← Task.value t (b = .record || b = .playback)))
        | _ => strange := by
  cases b <;> first | rfl | exact absurd rfl other

/-- What a node asks for does not depend on places. -/
theorem even_node (label : Label) (children : List Tree) :
    Task.Even (node label children) (node label (children.map Tree.bare)) := by
  cases label with
  | importFile | null | yes | no => exact Task.even_pure _
  | breakLoop | continueLoop => exact Task.even_request _
  | parameters =>
    have names : (children.map Tree.bare).map (fun t => Value.text t.text) =
        children.map fun t => Value.text t.text := by
      rw [List.map_map]
      exact congrArg (children.map ·) (funext fun t => congrArg Value.text t.text_bare)
    simp only [node, names]
    exact Task.even_request _
  | outer =>
    rcases children with _ | ⟨name, _ | ⟨more, rest⟩⟩
    any_goals exact .fail _
    simp only [node, List.map_cons, List.map_nil, Tree.text_bare]
    exact .change (.outer name.text) (.done rfl)
  | block => exact even_block _ children
  | args | items | tuple =>
    exact Task.even_bind (Task.even_values children) fun _ => Task.even_request _
  | list =>
    rcases children with _ | ⟨t, _ | ⟨more, rest⟩⟩
    · exact Task.even_request _
    · cases t with
      | node label span items =>
        by_cases list : label = .items
        · subst list
          have value := Task.even_value (.node .items span items) false
          rw [Tree.bare_node] at value
          simpa only [node, List.map_cons, List.map_nil, Tree.bare_node] using value
        · simp only [List.map_cons, List.map_nil, Tree.bare_node]
          rw [node_list list, node_list list]
          exact Task.even_request _
      | leaf l => exact Task.even_request _
      | datum d => exact Task.even_request _
    · have many : ∀ t more rest, node .list (t :: more :: rest) = .request (.newList []) := by
        intro t more rest
        simp only [node]
      rw [List.map_cons, List.map_cons, many, many]
      exact Task.even_request _
  | store =>
    simp only [node, assignment_bare]
    exact Task.even_bind (Task.even_values _) fun _ =>
      Task.even_bind (even_assign _ _) fun _ => Task.even_pure _
  | giveBack =>
    rcases children with _ | ⟨e, _ | ⟨more, rest⟩⟩
    any_goals exact .fail _
    exact Task.even_value_bind e fun _ => Task.even_request _
  | both =>
    rcases children with _ | ⟨a, _ | ⟨b, _ | ⟨more, rest⟩⟩⟩
    any_goals exact .fail _
    exact Task.even_test a (Task.even_verdict b) (Task.even_pure _)
  | either =>
    rcases children with _ | ⟨a, _ | ⟨b, _ | ⟨more, rest⟩⟩⟩
    any_goals exact .fail _
    exact Task.even_test a (Task.even_pure _) (Task.even_verdict b)
  | define =>
    rcases children with _ | ⟨name, rest⟩
    · exact .fail _
    · simp only [node, List.map_cons, Tree.text_bare]
      exact even_define _ rest
  | call =>
    simp only [node, callParts_bare]
    rcases callParts children with _ | ⟨name, args⟩
    · exact .fail _
    · exact Task.even_bind (even_argumentValues args) fun _ => even_call _ _
  | index | add | subtract | multiply | divide | modulo
  | greater | less | greaterEq | lessEq | equal | notEqual =>
    rcases children with _ | ⟨a, _ | ⟨b, _ | ⟨more, rest⟩⟩⟩
    any_goals exact .fail _
    exact Task.even_value_bind a fun _ => Task.even_value_bind b fun _ => Task.even_request _
  | negate =>
    rcases children with _ | ⟨a, _ | ⟨more, rest⟩⟩
    any_goals exact .fail _
    exact Task.even_value_bind a fun _ =>
      Task.even_bind (Task.even_lift _) fun _ => Task.even_request _
  | loop =>
    rcases children with _ | ⟨condition, _ | ⟨body, _ | ⟨more, rest⟩⟩⟩
    any_goals exact .fail _
    exact even_repeatUntil (even_round condition body) _
  | choice =>
    rcases children with _ | ⟨condition, _ | ⟨yes, _ | ⟨no, _ | ⟨more, rest⟩⟩⟩⟩
    any_goals exact .fail _
    · exact Task.even_test condition (Task.even_value yes false) (Task.even_pure _)
    · exact Task.even_test condition (Task.even_value yes false) (Task.even_value no false)
  | builtin b =>
    by_cases tick : b = .foreachTick
    · subst tick
      rcases children with _ | ⟨provider, _ | ⟨name, _ | ⟨more, rest⟩⟩⟩
      any_goals exact .fail _
      simp only [node, List.map_cons, List.map_nil, Tree.text_bare]
      exact even_repeatUntil (even_tick _ _) _
    · rw [node_builtin tick, node_builtin tick]
      by_cases empty : b.arguments = .empty
      · rw [if_pos empty, if_pos empty]
        exact Task.even_request _
      · rw [if_neg empty, if_neg empty]
        rcases children with _ | ⟨t, _ | ⟨more, rest⟩⟩
        any_goals exact .fail _
        exact Task.even_value_bind t fun _ => Task.even_request _
  | start | expression | builtinCall | number | string | var | other =>
    rcases children with _ | ⟨t, _ | ⟨more, rest⟩⟩
    any_goals exact .fail _
    exact Task.even_value t false

theorem even_task (t : Tree) : Task.Even (task t) (task t.bare) := by
  cases t with
  | node label span children =>
    rw [Tree.bare_node]
    exact even_node label children
  | leaf l => exact even_leaf l none
  | datum d => exact .fail _

end Eval

/-! ### Runs without places -/

theorem Console.sayAll_sayAll (c : Console) (first second : List (Speaker × String)) :
    (c.sayAll first).sayAll second = c.sayAll (first ++ second) := by
  simp only [sayAll, Console.mk.injEq, true_and]
  apply Array.ext'
  simp

/-- Two states that differ in places, at the console and in the debugger only. -/
structure Level (s s' : State) : Prop where
  bench : s'.machine.bench = s.machine.bench
  stack : s'.stack = s.stack.bare

/-- A step and the same step without places: both ask for a line, or neither does and they print the
same and end alike. -/
def Paired {α : Type} (x y : Watched α) : Prop :=
  ∀ s s', Level s s' → (.ask ∈ (x s).1 ∧ .ask ∈ (y s').1) ∨
    (.ask ∉ (x s).1 ∧ .ask ∉ (y s').1 ∧ ∃ result s₁ s₁' texts,
      (x s).2 = ending result s₁ ∧ (y s').2 = ending result s₁' ∧ Level s₁ s₁' ∧
      s₁.console = s.console.sayAll texts ∧ s₁'.console = s'.console.sayAll texts)

section Paired

variable {α β : Type}

theorem paired_still (result : Except Error α) :
    Paired (.still fun s => ending result s) (.still fun s => ending result s) :=
  fun s s' level => Or.inr ⟨by simp [Watched.still], by simp [Watched.still], result, s, s', [],
    rfl, rfl, level, (Console.sayAll_nil _).symm, (Console.sayAll_nil _).symm⟩

theorem paired_andThen {x y : Watched α} {f g : α → Watched β} (first : Paired x y)
    (rest : ∀ a, Paired (f a) (g a)) : Paired (x.andThen f) (y.andThen g) := by
  intro s s' level
  rcases first s s' level with ⟨asks, asks'⟩ |
    ⟨silent, silent', result, s₁, s₁', texts, endx, endy, level₁, said, said'⟩
  · exact Or.inl ⟨Watched.mem_andThen asks, Watched.mem_andThen asks'⟩
  · cases result with
    | error e =>
      rw [Watched.andThen_error endx, Watched.andThen_error endy]
      exact Or.inr ⟨silent, silent', .error e, s₁, s₁', texts, rfl, rfl, level₁, said, said'⟩
    | ok a =>
      rw [Watched.andThen_ok endx, Watched.andThen_ok endy]
      rcases rest a s₁ s₁' level₁ with ⟨asks, asks'⟩ |
        ⟨still, still', result, s₂, s₂', more, endf, endg, level₂, added, added'⟩
      · exact Or.inl ⟨List.mem_append_right _ asks, List.mem_append_right _ asks'⟩
      · refine Or.inr ⟨by simp [silent, still], by simp [silent', still'], result, s₂, s₂',
          texts ++ more, endf, endg, level₂, ?_, ?_⟩
        · rw [added, said, Console.sayAll_sayAll]
        · rw [added', said', Console.sayAll_sayAll]

theorem paired_operation (op : Op α) : Paired (.operation op) (.operation op) := by
  intro s s' level
  cases asks : op.asks s.machine.bench with
  | true =>
    have asks' : op.asks s'.machine.bench = true := by rw [level.bench, asks]
    exact Or.inl ⟨by simp [Watched.operation, asks], by simp [Watched.operation, asks']⟩
  | false =>
    have asks' : op.asks s'.machine.bench = false := by rw [level.bench, asks]
    obtain ⟨result, bench, texts, same⟩ := ofOp_of_not_asks op s.machine.bench asks
    exact Or.inr ⟨by simp [Watched.operation, asks], by simp [Watched.operation, asks'], result, _, _,
      texts, same s rfl, same s' level.bench, ⟨rfl, level.stack⟩, rfl, rfl⟩

theorem paired_change (c : Change) :
    Paired (.act fun _ => .change c) (.act fun _ => .change c.bare) := by
  intro s s' level
  refine Or.inr ⟨by simp [Watched.act], by simp [Watched.act], .ok (), _, _, [], rfl, rfl,
    ⟨level.bench, ?_⟩, (Console.sayAll_nil _).symm, (Console.sayAll_nil _).symm⟩
  change s'.stack.change c.bare = (s.stack.change c).bare
  rw [level.stack, CallStack.change_bare]

theorem paired_inFrame (parameters : Bindings Value) {x y : Watched Value} (inside : Paired x y) :
    Paired (x.inFrame parameters) (y.inFrame parameters) := by
  intro s s' level
  have entered : Level { s with stack := s.stack.enter parameters }
      { s' with stack := s'.stack.enter parameters } :=
    ⟨level.bench, by rw [level.stack, CallStack.enter_bare]⟩
  rcases inside _ _ entered with ⟨asks, asks'⟩ |
    ⟨silent, silent', result, s₁, s₁', texts, endx, endy, level₁, said, said'⟩
  · exact Or.inl ⟨Watched.mem_inFrame asks, Watched.mem_inFrame asks'⟩
  · rw [Watched.inFrame_ending endx, Watched.inFrame_ending endy]
    refine Or.inr ⟨by simp [silent], by simp [silent'], result, _, _, texts, rfl, rfl,
      ⟨level₁.bench, ?_⟩, said, said'⟩
    change s₁'.stack.leave = s₁.stack.leave.bare
    rw [level₁.stack, CallStack.leave_bare]

/-- What a task without places asks for is done alike, if trees are evaluated alike. -/
theorem Task.paired_watch {below below' : WatchedEvaluate} {mode : Mode} (off : mode.debug = false)
    (agree : ∀ t, Paired (below mode t) (below' mode t.bare)) {m m' : Task α}
    (even : Task.Even m m') : Paired (m.watch below mode) (m'.watch below' mode) := by
  have loud : ∀ quiet, { mode with debug := mode.debug && !quiet } = mode := by
    intro quiet
    obtain ⟨debug, canEvaluate⟩ := mode
    cases off
    rfl
  induction even with
  | @done a b same => exact same ▸ paired_still (.ok a)
  | fail e => exact paired_still (.error e)
  | perform r _ ih => exact paired_andThen (paired_operation _) ih
  | look _ ih =>
    intro s s' level
    have store : s'.machine.store = s.machine.store := congrArg Bench.store level.bench
    simp only [watch, store, level.stack]
    exact ih s.machine.store s.stack s s' level
  | change c _ ih => exact paired_andThen (paired_change c) fun _ => ih
  | check t t' _ ih =>
    refine paired_andThen ?_ fun _ => ih
    intro s s' level
    simp only [Eval.watchCheck, off]
    exact paired_still (.ok ()) s s' level
  | evaluate quiet t _ ih =>
    simp only [watch, loud]
    exact paired_andThen (agree t) ih
  | call parameters body _ ih => exact paired_andThen (paired_inFrame parameters (agree body)) ih

end Paired

/-- Without the debugger a tree is evaluated as it is without its places. -/
theorem paired_watchAt (n : Nat) {mode : Mode} (off : mode.debug = false) (t : Tree) :
    Paired (watchAt n mode t) (watchAt n mode t.bare) := by
  induction n generalizing t with
  | zero => exact paired_still (.error .nesting)
  | succ n ih => exact Task.paired_watch off ih (Eval.even_task t)

end DeskScript
