import DeskScript.Proofs.Checkable
import DeskScript.Proofs.Scope

/-!
# What checkable scripts ask for

A checkable tree asks for checks of nodes only, it evaluates and calls checkable trees only, and the
functions that it defines have checkable bodies. This is shown once for each kind of node, on the
task that the node asks for; what a run makes of it follows from what tasks can do.
-/

namespace DeskScript

open Syntax

theorem Bindings.mem_of_get? {α : Type} {b : Bindings α} {x : String} {a : α}
    (found : b.get? x = some a) : (x, a) ∈ b := by
  obtain ⟨before, after, rfl, -⟩ := List.lookup_eq_some_iff.mp found
  simp

/-- Frames whose functions have bodies of a kind. -/
def CallStack.Bodies (kind : Tree → Prop) (stack : CallStack) : Prop :=
  ∀ frame ∈ stack.frames, ∀ e ∈ frame.functions, kind e.2.body

/-- Frames whose functions can all be checked. -/
def CallStack.Known (stack : CallStack) : Prop :=
  ∀ frame ∈ stack.frames, ∀ e ∈ frame.functions, e.2.body.Checkable

/-- A change that defines no function but a checkable one. -/
def Change.Proper : Change → Prop
  | define _ f => f.body.Checkable
  | _ => True

variable {c : Change} {t body : Tree}

section Bodies

variable {kind : Tree → Prop} {stack : CallStack}

theorem Bindings.mem_set {α : Type} {b : Bindings α} {x : String} {a : α} {e : String × α}
    (member : e ∈ b.set x a) : e ∈ b ∨ e.2 = a := by
  induction b with
  | nil => exact Or.inr (by simp_all [set])
  | cons first rest ih =>
    simp only [set] at member
    split at member <;> rcases List.mem_cons.mp member with rfl | member
    · exact Or.inr rfl
    · exact Or.inl (List.mem_cons_of_mem _ member)
    · exact Or.inl List.mem_cons_self
    · exact (ih member).imp_left (List.mem_cons_of_mem _)

/-- A write to a variable leaves the functions of all frames alone. -/
theorem functions_modify (l : List Frame) (up : Nat) (x : String) (v : Value) :
    (l.modify up fun f => { f with vars := f.vars.set x v }).map (·.functions) =
      l.map (·.functions) := by
  induction l generalizing up with
  | nil => simp
  | cons f rest ih =>
    cases up with
    | zero => rfl
    | succ up => simp [ih]

namespace CallStack

theorem bodies_iff : stack.Bodies kind ↔
    ∀ functions ∈ stack.frames.map (·.functions), ∀ e ∈ functions, kind e.2.body := by
  simp [Bodies]

theorem Bodies.change (holds : stack.Bodies kind)
    (defines : ∀ name f, c = .define name f → kind f.body) : (stack.change c).Bodies kind := by
  cases c with
  | assign x v =>
    rw [bodies_iff] at holds ⊢
    cases hx : stack.current.outer.get? x with
    | none => simpa [CallStack.change, assign, hx, frames] using holds
    | some up => simpa [CallStack.change, assign, hx, frames, functions_modify] using holds
  | outer x =>
    rw [bodies_iff] at holds ⊢
    cases found : stack.outerTarget? x with
    | none => simpa [CallStack.change, declareOuter, found] using holds
    | some up => simpa [CallStack.change, declareOuter, found, frames] using holds
  | define name f =>
    intro frame member e there
    rcases List.mem_cons.mp member with rfl | member
    · rcases Bindings.mem_set there with before | rfl
      · exact holds stack.current List.mem_cons_self e before
      · exact defines name e.2 rfl
    · exact holds frame (List.mem_cons_of_mem _ member) e there

theorem Bodies.enter (holds : stack.Bodies kind) (parameters : Bindings Value) :
    (stack.enter parameters).Bodies kind := by
  intro frame member
  rcases List.mem_cons.mp member with rfl | member
  · exact holds stack.current List.mem_cons_self
  · exact holds frame member

theorem Bodies.leave (holds : stack.Bodies kind) : stack.leave.Bodies kind := by
  obtain ⟨f, callers⟩ := stack
  cases callers with
  | nil => exact holds
  | cons p rest => exact fun frame member => holds frame (List.mem_cons_of_mem f member)

theorem Bodies.function (holds : stack.Bodies kind) {name : String} {f : Function}
    (found : stack.current.functions.get? name = some f) : kind f.body :=
  holds stack.current List.mem_cons_self (name, f) (Bindings.mem_of_get? found)

theorem Known.change (known : stack.Known) (proper : c.Proper) : (stack.change c).Known :=
  Bodies.change known (by rintro name f rfl; exact proper)

theorem Known.enter (known : stack.Known) (parameters : Bindings Value) :
    (stack.enter parameters).Known :=
  Bodies.enter known parameters

theorem Known.leave (known : stack.Known) : stack.leave.Known := Bodies.leave known

end CallStack

end Bodies

namespace Task

variable {α β : Type}

/-- A task that asks for nothing that cannot be checked, and whose result is as it should be. -/
def Gives (post : α → Prop) : Task α → Prop
  | done a => post a
  | fail _ => True
  | perform _ next => ∀ v, (next v).Gives post
  | look next => ∀ store stack, stack.Known → (next store stack).Gives post
  | change c next => c.Proper ∧ next.Gives post
  | check t next => t.isNode ∧ next.Gives post
  | evaluate _ t next => t.Checkable ∧ ∀ v, (next v).Gives post
  | call _ body next => body.Checkable ∧ ∀ v, (next v).Gives post

/-- A task that asks for nothing that cannot be checked. -/
abbrev Proper (task : Task α) : Prop := task.Gives fun _ => True

theorem gives_bind {mid : α → Prop} {post : β → Prop} {task : Task α} {f : α → Task β}
    (first : task.Gives mid) (rest : ∀ a, mid a → (f a).Gives post) : (task >>= f).Gives post := by
  induction task with
  | done a => exact rest a first
  | fail e => trivial
  | perform r next ih => exact fun v => ih v (first v)
  | look next ih => exact fun store stack known => ih store stack (first store stack known)
  | change c next ih => exact ⟨first.1, ih first.2⟩
  | check t next ih => exact ⟨first.1, ih first.2⟩
  | evaluate quiet t next ih => exact ⟨first.1, fun v => ih v (first.2 v)⟩
  | call parameters body next ih => exact ⟨first.1, fun v => ih v (first.2 v)⟩

@[grind ←] theorem proper_bind {task : Task α} {f : α → Task β} (first : task.Proper)
    (rest : ∀ a, (f a).Proper) : (task >>= f).Proper :=
  gives_bind first fun a _ => rest a

@[grind ←] theorem proper_pure (a : α) : (pure a : Task α).Proper := trivial

@[grind ←] theorem proper_fail (e : Error) : (fail e : Task α).Proper := trivial

@[grind ←] theorem proper_lift (e : Except Error α) : (liftM e : Task α).Proper := by
  cases e <;> trivial

@[grind ←] theorem proper_request (r : Request) : (request r).Proper := fun _ => trivial

@[grind ←] theorem proper_value (checkable : t.Checkable) (quiet : Bool) :
    (value t quiet).Proper := ⟨checkable, fun _ => trivial⟩

@[grind ←] theorem proper_called (checkable : body.Checkable) (parameters : Bindings Value) :
    (called parameters body).Proper := ⟨checkable, fun _ => trivial⟩

@[grind ←] theorem proper_changed (proper : c.Proper) : (changed c).Proper := ⟨proper, trivial⟩

@[grind ←] theorem proper_store : store.Proper := fun _ _ _ => trivial

@[grind ←] theorem proper_stack : stack.Proper := fun _ _ _ => trivial

theorem gives_stack : stack.Gives CallStack.Known := fun _ _ known => known

@[grind ←] theorem proper_truth (v : Value) : (truth v).Proper := fun _ _ _ => trivial

@[grind ←] theorem proper_mapM {items : List β} {f : β → Task α} (each : ∀ b ∈ items, (f b).Proper) :
    (items.mapM f).Proper := by
  have loop : ∀ done, (List.mapM.loop f items done).Proper := by
    induction items with
    | nil => exact fun done => proper_pure _
    | cons b rest ih =>
      intro done
      refine proper_bind (each b List.mem_cons_self) fun a => ?_
      exact ih (fun b member => each b (List.mem_cons_of_mem _ member)) (a :: done)
  exact loop []

end Task

namespace Eval

@[grind ←] theorem proper_strange {α : Type} : (strange : Task α).Proper := trivial

@[grind ←] theorem proper_leaf (l : Leaf) : (leaf l).Proper := by
  unfold leaf readVariable
  grind

@[grind ←] theorem proper_block (last : Value) {trees : List Tree} (nodes : ∀ t ∈ trees, t.isNode)
    (checkable : ∀ t ∈ trees, t.Checkable) : (block last trees).Proper := by
  induction trees generalizing last with
  | nil => exact Task.proper_pure _
  | cons t rest ih =>
    refine ⟨nodes t List.mem_cons_self, checkable t List.mem_cons_self, fun v => ?_⟩
    change (if isSignal v then pure v else block v rest : Task Value).Proper
    grind

@[grind ←] theorem proper_assign (names : List String) (values : List Value) : (assign names values).Proper := by
  have all : ∀ entries, (assignAll entries).Proper := by
    intro entries
    induction entries with
    | nil => exact Task.proper_pure _
    | cons e rest ih => exact ⟨trivial, ih⟩
  exact Task.proper_bind Task.proper_store fun _ => Task.proper_bind (Task.proper_lift _) fun _ => all _

/-- The body of a definition is one of its parts. -/
theorem definition_body {rest : List Tree} {parameters : List String}
    (found : definition rest = (parameters, some body)) : body ∈ rest := by
  have all : ∀ body, (definition rest).2 = some body → body ∈ rest := by
    unfold definition
    refine List.foldlRecOn (motive := fun acc : List String × Option Tree =>
      ∀ body, acc.2 = some body → body ∈ rest) rest _ (by simp) ?_
    rintro ⟨parameters, last⟩ before t member body same
    simp only at same
    split at same
    · exact before body same
    · exact Option.some.inj same ▸ member
    · exact before body same
  exact all body (by rw [found])

@[grind ←] theorem proper_define (name : String) {rest : List Tree} (checkable : ∀ t ∈ rest, t.Checkable) :
    (define name rest).Proper := by
  unfold define
  split
  next => trivial
  next parameters body found => exact ⟨checkable body (definition_body found), trivial⟩

/-- A function that is found can be checked. -/
theorem gives_function (name : String) (missing : ScriptFault) :
    (function name missing).Gives fun f => f.body.Checkable := by
  refine Task.gives_bind Task.gives_stack fun stack known => ?_
  cases found : stack.current.functions.get? name with
  | none => trivial
  | some f => exact CallStack.Bodies.function known found

@[grind ←] theorem proper_call (name : String) (args : List Value) : (call name args).Proper := by
  refine Task.gives_bind (gives_function name _) fun f checkable => ?_
  grind

@[grind ←] theorem proper_repeatUntil {α : Type} {body : Task (Option α)} (proper : body.Proper) (n : Nat) :
    (repeatUntil body n).Proper := by
  induction n with
  | zero => trivial
  | succ n ih =>
    refine Task.proper_bind proper fun r => ?_
    cases r
    · exact ih
    · exact Task.proper_pure _

@[grind ←] theorem proper_round {condition : Tree} (hc : condition.Checkable) (hb : body.Checkable) :
    (round condition body).Proper := by
  unfold round
  grind

@[grind ←] theorem proper_tick (provider name : String) : (tick provider name).Proper := by
  refine Task.gives_bind (gives_function provider _) fun p hp => ?_
  refine Task.proper_bind (Task.proper_value hp false) fun v => ?_
  split
  · exact Task.proper_pure _
  · exact Task.gives_bind (gives_function name _) fun f hf =>
      Task.proper_bind (Task.proper_value hf false) fun _ => Task.proper_pure _

@[grind ←] theorem proper_argumentValues {args : Option Tree} (checkable : ∀ t ∈ args, t.Checkable) :
    (argumentValues args).Proper := by
  unfold argumentValues
  grind

variable {children : List Tree}

/-- The arguments of a call are among its parts. -/
@[grind →] theorem callParts_mem {name : String} {args : Option Tree}
    (parts : callParts children = some (name, args)) : ∀ t ∈ args, t ∈ children := by
  unfold callParts at parts
  split at parts
  next => cases parts; simp
  next => cases parts; simp
  next => cases parts

@[grind →] theorem mem_assignment (member : t ∈ (assignment children).2) : t ∈ children :=
  List.mem_of_mem_drop member

/-- What a node asks for. -/
theorem proper_node {label : Label} {span : Option Span}
    (tree : (Syntax.Tree.node label span children).Checkable) : (node label children).Proper := by
  cases tree with
  | node statements parts =>
  unfold node
  split
  all_goals
    repeat' first
      | with_reducible refine Task.proper_bind ?_ fun _ => ?_
      | split
  all_goals grind -ring -linarith [Change.Proper]

theorem proper_task (checkable : t.Checkable) : (task t).Proper := by
  cases t with
  | node label span children => exact proper_node checkable
  | leaf l => exact proper_leaf l
  | datum d => trivial

end Eval

end DeskScript
