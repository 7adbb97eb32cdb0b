import DeskScript.Proofs.Loops
import DeskScript.Proofs.Scope

/-!
# Assigning several names

An assignment to several names takes its value apart. If there are as many items as names, every name
gets its item, in the frame that the name belongs to, and nothing else changes; if not, nothing
changes at all.
-/

namespace DeskScript

open Syntax

namespace CallStack

/-- The frame of a name, counted from the call in progress outwards: the one that it is an alias into,
or else the current one. -/
def home (stack : CallStack) (x : String) : Nat :=
  match stack.current.outer.get? x with
  | some up => up + 1
  | none => 0

/-- What a frame binds to a name. -/
def bound? (stack : CallStack) (i : Nat) (x : String) : Option Value :=
  (stack.frames[i]?).bind (·.vars.get? x)

/-- Every name declared outer is an alias into a frame that is there. -/
def Anchored (stack : CallStack) : Prop := ∀ x, stack.home x < stack.frames.length

/-- Assigns values to names, one after the other. -/
def assignEach (stack : CallStack) (entries : Bindings Value) : CallStack :=
  entries.foldl (fun stack e => stack.assign e.1 e.2) stack

/-- All that a frame knows but the values of its variables. -/
def fixed (stack : CallStack) : List (Bindings Function × Bindings Nat) :=
  stack.frames.map fun f => (f.functions, f.outer)

variable {stack : CallStack} {x : String}

/-- An assignment is a write to one frame. -/
theorem frames_assign (stack : CallStack) (x : String) (v : Value) :
    (stack.assign x v).frames =
      stack.frames.modify (stack.home x) fun f => { f with vars := f.vars.set x v } := by
  cases declared : stack.current.outer.get? x <;> simp only [assign, home, declared] <;> rfl

theorem fixed_assign (stack : CallStack) (x : String) (v : Value) :
    (stack.assign x v).fixed = stack.fixed := by
  rw [fixed, frames_assign, fixed]
  refine List.ext_getElem? fun i => ?_
  simp only [List.getElem?_map, List.getElem?_modify]
  cases stack.frames[i]? <;> simp [apply_ite]

theorem home_eq (stack : CallStack) (x : String) :
    stack.home x = ((stack.fixed.head?.bind (·.2.get? x)).map (· + 1)).getD 0 := by
  rw [home, fixed, frames]
  cases h : stack.current.outer.get? x <;> simp [h]

theorem home_assign (x y : String) (v : Value) : (stack.assign x v).home y = stack.home y := by
  rw [home_eq, fixed_assign, ← home_eq]

theorem Anchored.assign (anchored : stack.Anchored) (x : String) (v : Value) :
    (stack.assign x v).Anchored := by
  intro y
  rw [home_assign, frames_assign, List.length_modify]
  exact anchored y

theorem bound?_assign_self (anchored : stack.Anchored) (x : String) (v : Value) :
    (stack.assign x v).bound? (stack.home x) x = some v := by
  rw [bound?, frames_assign, List.getElem?_modify_eq, List.getElem?_eq_getElem (anchored x)]
  simp [Bindings.get?_set]

theorem bound?_assign_other {i : Nat} {y : String} (other : x = y → i ≠ stack.home y) (v : Value) :
    (stack.assign y v).bound? i x = stack.bound? i x := by
  rw [bound?, frames_assign, List.getElem?_modify, bound?]
  by_cases here : stack.home y = i
  · have apart : x ≠ y := fun same => other same here.symm
    cases stack.frames[i]? <;> simp [here, Bindings.get?_set, apart]
  · simp [here]

/-- A name is read in its frame. -/
theorem read?_of_bound? {v : Value} (bound : stack.bound? (stack.home x) x = some v) :
    stack.read? x = some v := by
  unfold home bound? frames at bound
  unfold read?
  split <;> simp_all

/-! ### One name after the other -/

theorem fixed_assignEach (entries : Bindings Value) : (stack.assignEach entries).fixed = stack.fixed := by
  induction entries generalizing stack with
  | nil => rfl
  | cons e rest ih => exact ih.trans (fixed_assign stack e.1 e.2)

theorem bound?_assignEach_other {i : Nat} {entries : Bindings Value}
    (other : x ∈ entries.map Prod.fst → i ≠ stack.home x) :
    (stack.assignEach entries).bound? i x = stack.bound? i x := by
  induction entries generalizing stack with
  | nil => rfl
  | cons e rest ih =>
    obtain ⟨y, v⟩ := e
    have later : ((stack.assign y v).assignEach rest).bound? i x = (stack.assign y v).bound? i x := by
      refine ih fun member => ?_
      rw [home_assign]
      exact other (List.mem_cons_of_mem _ member)
    exact later.trans (bound?_assign_other (fun same => same ▸ other (same ▸ List.mem_cons_self)) v)

/-- The last value of a name stays. -/
theorem bound?_assignEach_last (anchored : stack.Anchored) {v : Value}
    {before after : Bindings Value} (last : x ∉ after.map Prod.fst) :
    (stack.assignEach (before ++ (x, v) :: after)).bound? (stack.home x) x = some v := by
  induction before generalizing stack with
  | nil =>
    have later : ((stack.assign x v).assignEach after).bound? (stack.home x) x =
        (stack.assign x v).bound? (stack.home x) x :=
      bound?_assignEach_other fun member => absurd member last
    exact later.trans (bound?_assign_self anchored x v)
  | cons e rest ih =>
    have later := ih (anchored.assign e.1 e.2)
    rwa [home_assign] at later

end CallStack

/-- At every moment of every run the names declared outer have a frame. -/
theorem Scoped.anchored {stack : CallStack} (h : Scoped stack.frames) : stack.Anchored := by
  intro x
  unfold CallStack.home
  split
  next up declared =>
    obtain ⟨a, there, -⟩ := h.2.2.target (h.1 x up declared)
    exact Nat.succ_lt_succ (List.getElem?_eq_some_iff.mp there).1
  next => exact Nat.succ_pos _

/-! ### The statement -/

section Run

variable {below : Evaluate} {mode : Mode}

theorem Eval.run_assignAll (entries : Bindings Value) (s : State) :
    (assignAll entries).run below mode s = .ok () { s with stack := s.stack.assignEach entries } := by
  induction entries generalizing s with
  | nil => rfl
  | cons e rest ih => exact ih { s with stack := s.stack.assign e.1 e.2 }

/-- Names with a value behind them are the targets of an assignment. -/
theorem Eval.assignment_named {targets : List Leaf} (named : ∀ l ∈ targets, l.kind = .name) (e : Tree) :
    assignment (targets.map .leaf ++ [e]) = (targets.map (·.text), [e]) := by
  have names : (targets.map Tree.leaf).filter Tree.isName = targets.map Tree.leaf := by
    rw [List.filter_eq_self]
    intro t member
    obtain ⟨l, within, rfl⟩ := List.mem_map.mp member
    simp [Tree.isName, named l within]
  rw [assignment, List.dropLast_concat, names, List.length_map]
  simp [Tree.text, Function.comp_def]

/-- What becomes of the value of an assignment to several names. -/
theorem Eval.run_assign {names : List String} (several : 2 ≤ names.length) (v : Value) (s : State) :
    (assign names [v]).run below mode s =
      if (spread s.machine.store [v]).length = names.length then
        .ok () { s with stack := s.stack.assignEach (names.zip (spread s.machine.store [v])) }
      else .error (.script .spreadArity) s := by
  obtain ⟨x, y, rest, rfl⟩ : ∃ x y rest, names = x :: y :: rest := by
    rcases names with _ | ⟨x, _ | ⟨y, rest⟩⟩
    · simp at several
    · simp at several
    · exact ⟨x, y, rest, rfl⟩
  have looked : (assign (x :: y :: rest) [v]).run below mode s =
      (liftM (assigned s.machine.store (x :: y :: rest) [v]) >>= fun values =>
        assignAll ((x :: y :: rest).zip values) : Task Unit).run below mode s := rfl
  rw [looked]
  split
  next whole =>
    have taken : assigned s.machine.store (x :: y :: rest) [v] = .ok (spread s.machine.store [v]) := by
      rw [assigned, if_neg (not_not.mpr whole)]
    rw [taken]
    exact run_assignAll _ s
  next fewer =>
    have refused : assigned s.machine.store (x :: y :: rest) [v] = .error (.script .spreadArity) := by
      rw [assigned, if_pos fewer]
    rw [refused]
    rfl

end Run

/-- An assignment to several names gives every name its item, the last one to a name that stands there
twice, and changes nothing else; without as many items as names it fails and changes nothing. -/
theorem assignment_is_all_or_nothing (n : Nat) (mode : Mode) (span : Option Span) {targets : List Leaf}
    (named : ∀ l ∈ targets, l.kind = .name) (several : 2 ≤ targets.length) {e : Tree} {v : Value}
    {s s' : State} (value : evalAt n mode e s = .ok v s') (anchored : s'.stack.Anchored) :
    let names := targets.map (·.text)
    let items := Eval.spread s'.machine.store [v]
    let result := evalAt (n + 1) mode (.node .store span (targets.map .leaf ++ [e])) s
    (items.length ≠ names.length → result = .error (.script .spreadArity) s') ∧
      (items.length = names.length → ∃ stack, result = .ok .null { s' with stack } ∧
        (∀ before x w after, names.zip items = before ++ (x, w) :: after → x ∉ after.map Prod.fst →
          stack.read? x = some w ∧ stack.bound? (s'.stack.home x) x = some w) ∧
        (∀ i x, (x ∈ names → i ≠ s'.stack.home x) → stack.bound? i x = s'.stack.bound? i x) ∧
        stack.fixed = s'.stack.fixed) := by
  intro names items result
  have ran : result = ((Eval.assign names [v]).run (evalAt n) mode >>= fun _ => pure .null) s' := by
    have unfolded : result = ((Task.value e >>= fun v => Eval.assign names [v]) >>= fun _ =>
        pure .null : Task Value).run (evalAt n) mode s := by
      change (Eval.node .store _).run (evalAt n) mode s = _
      rw [Eval.node, Eval.assignment_named named]
      rfl
    rw [unfolded, Task.run_bind, Task.run_bind, Task.run_value]
    simp only [bind, EStateM.bind, value]
    rfl
  have several : 2 ≤ names.length := by rwa [List.length_map]
  simp only [bind, EStateM.bind, Eval.run_assign several] at ran
  refine ⟨fun fewer => ?_, fun whole => ?_⟩
  · rw [ran, if_neg fewer]
  · rw [if_pos whole] at ran
    have inside : ∀ x, x ∈ (names.zip items).map Prod.fst → x ∈ names := by
      intro x member
      obtain ⟨entry, within, rfl⟩ := List.mem_map.mp member
      exact (List.of_mem_zip within).1
    refine ⟨_, ran, fun before x w after parts last => ?_, fun i x other => ?_,
      CallStack.fixed_assignEach _⟩
    · have bound : (s'.stack.assignEach (before ++ (x, w) :: after)).bound? (s'.stack.home x) x =
          some w := CallStack.bound?_assignEach_last anchored last
      rw [← parts] at bound
      refine ⟨CallStack.read?_of_bound? ?_, bound⟩
      rwa [CallStack.home_eq, CallStack.fixed_assignEach, ← CallStack.home_eq]
    · exact CallStack.bound?_assignEach_other fun member => other (inside x member)

/-- A function that has been called and has declared a name outer. -/
def aliasing : State :=
  let caller : Frame := { vars := [("t", .tuple 1 [.int 1, .int 2, .int 3]), ("x", .null)] }
  { stack := ((CallStack.mk caller []).enter []).declareOuter "x" }

/-- The name stands there twice and belongs to the caller; the function's own copy stays. -/
theorem assignment_is_all_or_nothing_aliasing : ∃ stack : CallStack,
    let name : String → Tree := fun x => .leaf ⟨.name, x, none⟩
    evalAt 3 {} (.node .store none [name "x", name "y", name "x", .node .var none [name "t"]]) aliasing =
        .ok .null { aliasing with stack } ∧
      stack.bound? 1 "x" = some (.int 3) ∧ stack.bound? 0 "y" = some (.int 2) ∧
      stack.bound? 0 "x" = some .null := by
  let target : String → Leaf := fun x => ⟨.name, x, none⟩
  have alone : ∀ vars, Scoped (CallStack.mk { vars } []).frames :=
    fun _ => ⟨by simp [Bindings.get?], by simp, trivial⟩
  have framed : Scoped aliasing.stack.frames := ((alone _).enter []).declareOuter "x"
  have named : ∀ l ∈ [target "x", target "y", target "x"], l.kind = .name := by simp [target]
  have value : evalAt 2 {} (.node .var none [.leaf (target "t")]) aliasing =
      .ok (.tuple 1 [.int 1, .int 2, .int 3]) aliasing := rfl
  obtain ⟨stack, ran, read, others, -⟩ :=
    (assignment_is_all_or_nothing 2 {} none named (by decide) value framed.anchored).2 rfl
  refine ⟨stack, ran, ?_, ?_, ?_⟩
  · exact (read [("x", .int 1), ("y", .int 2)] "x" (.int 3) [] rfl (by simp)).2
  · exact (read [("x", .int 1)] "y" (.int 2) [("x", .int 3)] rfl (by simp)).2
  · exact others 0 "x" fun _ => by decide

end DeskScript
