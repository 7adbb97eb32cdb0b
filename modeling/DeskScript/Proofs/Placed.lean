import DeskScript.Proofs.Keeping
import DeskScript.Proofs.Proper

/-!
# Where signals are sent

A signal is meant for the loop or the call around the statement that sends it, and it gets there as
the value of everything in between. So it matters what each node does with the values of its parts. If
banned signals are sent only where all nodes on their way pass them on, no node computes with one, and
none is put into a variable or a list. This is shown once for each kind of node, on the task that the
node asks for.
-/

namespace DeskScript

open Syntax

/-! ### Places -/

/-- What a node does with the value of one of its parts. -/
inductive Use where
  /-- It computes with the value, or tests it. -/
  | operand
  /-- The value may become its own. -/
  | passed
  /-- It evaluates the part again and again. -/
  | repeated
  /-- It keeps the part for later calls. -/
  | kept
  deriving DecidableEq

/-- The kinds of signals that may be sent from a part that is computed with. -/
def closed (banned : SignalKind → Bool) : SignalKind → Bool := fun k => !banned k

/-- The kinds of signals that may be sent from the body of a function. -/
def inFunction (banned : SignalKind → Bool) : SignalKind → Bool
  | .giveBack => true
  | k => closed banned k

/-- The kinds of signals that may be sent from the body of a loop. -/
def inLoop (opened : SignalKind → Bool) : SignalKind → Bool
  | .giveBack => opened .giveBack
  | .breakLoop | .continueLoop => true

/-- The kinds of signals that may be sent from a part, where some may be sent from the node. -/
def Use.opens (banned opened : SignalKind → Bool) : Use → SignalKind → Bool
  | operand => closed banned
  | passed => opened
  | repeated => inLoop opened
  | kept => inFunction banned

namespace Syntax

/-- What a node does with its first part. -/
def Label.firstUse : Label → Use
  | block | expression | start | builtinCall | number | string | var | other _ => .passed
  | define => .kept
  | _ => .operand

/-- What a node does with its other parts. -/
def Label.restUse : Label → Use
  | loop => .repeated
  | choice => .passed
  | l => l.firstUse

/-- The signal that a statement sends. -/
def Label.sends? : Label → Option SignalKind
  | giveBack => some .giveBack
  | breakLoop => some .breakLoop
  | continueLoop => some .continueLoop
  | _ => none

mutual

/-- Whether banned signals are sent from a tree only where they are passed on, up to the loop or the
function that takes them, or out of the tree if it may send them. -/
def Tree.placed (banned opened : SignalKind → Bool) : Tree → Bool
  | .node label _ children => label.sends?.all opened &&
    placedParts banned (label.firstUse.opens banned opened) (label.restUse.opens banned opened)
      children
  | .leaf _ | .datum _ => true

/-- The same of the parts of a node, the first and the others. -/
def placedParts (banned first rest : SignalKind → Bool) : List Tree → Bool
  | [] => true
  | t :: trees => t.placed banned first && placedParts banned rest rest trees

end

/-- The parts of a tree that are computed with, or tested. -/
def Tree.operands : Tree → List Tree
  | .node label _ (first :: rest) =>
    (if label.firstUse = .operand then [first] else []) ++
      (if label.restUse = .operand then rest else [])
  | _ => []

section Placed

variable {banned opened first rest : SignalKind → Bool} {label : Label} {span : Option Span}
  {children : List Tree}

theorem placedParts_same : placedParts banned rest rest children ↔
    ∀ t ∈ children, t.placed banned rest := by
  induction children with
  | nil => simp [placedParts]
  | cons t trees ih => simp [placedParts, ih]

theorem placedParts_cons {t : Tree} : placedParts banned first rest (t :: children) ↔
    t.placed banned first ∧ ∀ t ∈ children, t.placed banned rest := by
  rw [placedParts, Bool.and_eq_true, placedParts_same]

theorem placed_node : (Tree.node label span children).placed banned opened ↔
    (∀ kind ∈ label.sends?, opened kind) ∧
      placedParts banned (label.firstUse.opens banned opened) (label.restUse.opens banned opened)
        children := by
  simp [Tree.placed, Option.all_eq_true]

/-- What a node computes with sends no banned signal. -/
theorem placed_operand {t operand : Tree} (placed : t.placed banned opened)
    (member : operand ∈ t.operands) : operand.placed banned (closed banned) := by
  unfold Tree.operands at member
  split at member
  next label span first rest =>
    obtain ⟨isFirst, others⟩ := placedParts_cons.mp (placed_node.mp placed).2
    rcases List.mem_append.mp member with member | member
    · split at member
      next use =>
        obtain rfl := List.mem_singleton.mp member
        rw [use] at isFirst
        exact isFirst
      next => cases member
    · split at member
      next use =>
        rw [use] at others
        exact others operand member
      next => cases member
  next => cases member

end Placed

end Syntax

/-! ### Values and states -/

/-- A value that is free of banned signals, or a signal that may be sent, with a free value. -/
def Value.Allowed (banned opened : SignalKind → Bool) (v : Value) : Prop :=
  v.Free banned ∨
    ∃ id kind payload, v = .signal id kind payload ∧ opened kind ∧ payload.Free banned

/-- Frames whose variables are free of banned signals, and whose functions send none but those to
give something back. -/
def CallStack.Clean (banned : SignalKind → Bool) (stack : CallStack) : Prop :=
  ∀ frame ∈ stack.frames, (∀ e ∈ frame.vars, e.2.Free banned) ∧
    ∀ e ∈ frame.functions, e.2.body.placed banned (inFunction banned)

/-- A state whose lists and frames are free of banned signals. -/
structure State.Clean (banned : SignalKind → Bool) (s : State) : Prop where
  store : s.machine.store.Free banned
  stack : s.stack.Clean banned

/-- A change that brings no banned signal into the frames. -/
def Change.Clean (banned : SignalKind → Bool) : Change → Prop
  | assign _ v => v.Free banned
  | outer _ => True
  | define _ f => f.body.placed banned (inFunction banned)

section Clean

variable {banned opened : SignalKind → Bool} {v : Value}

theorem Value.Allowed.closed_free (allowed : v.Allowed banned (closed banned)) : v.Free banned := by
  rcases allowed with free | ⟨id, kind, payload, rfl, isOpen, free⟩
  · exact free
  · exact .signal (by simpa [closed] using isOpen) free

theorem Value.Allowed.free_of_isSignal (allowed : v.Allowed banned opened)
    (none : Eval.isSignal v = false) : v.Free banned := by
  rcases allowed with free | ⟨id, kind, payload, rfl, -⟩
  · exact free
  · cases none

variable {stack : CallStack}

theorem Bindings.mem_setAll {α : Type} {b entries : Bindings α} {e : String × α}
    (member : e ∈ b.setAll entries) : e ∈ b ∨ ∃ e' ∈ entries, e.2 = e'.2 := by
  induction entries generalizing b with
  | nil => exact Or.inl member
  | cons first rest ih =>
    rcases ih member with before | ⟨e', there, same⟩
    · rcases mem_set before with before | same
      · exact Or.inl before
      · exact Or.inr ⟨first, List.mem_cons_self, same⟩
    · exact Or.inr ⟨e', List.mem_cons_of_mem _ there, same⟩

theorem mem_modify {α : Type} {l : List α} {i : Nat} {f : α → α} {a : α} (member : a ∈ l.modify i f) :
    a ∈ l ∨ ∃ b ∈ l, a = f b := by
  induction l generalizing i with
  | nil => simp at member
  | cons b rest ih =>
    cases i with
    | zero =>
      rcases List.mem_cons.mp member with rfl | member
      · exact Or.inr ⟨b, List.mem_cons_self, rfl⟩
      · exact Or.inl (List.mem_cons_of_mem _ member)
    | succ i =>
      rcases List.mem_cons.mp member with rfl | member
      · exact Or.inl List.mem_cons_self
      · rcases ih member with before | ⟨c, there, same⟩
        · exact Or.inl (List.mem_cons_of_mem _ before)
        · exact Or.inr ⟨c, List.mem_cons_of_mem _ there, same⟩

namespace CallStack

theorem Clean.current (clean : stack.Clean banned) : (∀ e ∈ stack.current.vars, e.2.Free banned) ∧
    ∀ e ∈ stack.current.functions, e.2.body.placed banned (inFunction banned) :=
  clean stack.current List.mem_cons_self

theorem Clean.read? (clean : stack.Clean banned) {x : String} (found : stack.read? x = some v) :
    v.Free banned := by
  unfold CallStack.read? at found
  split at found
  next up _ =>
    cases found
    cases there : (stack.callers[up]?).bind (·.vars.get? x) with
    | none => exact .atom rfl
    | some w =>
      obtain ⟨frame, isFrame, isVar⟩ := Option.bind_eq_some_iff.mp there
      have member := List.mem_cons_of_mem stack.current (List.mem_of_getElem? isFrame)
      exact (clean frame member).1 (x, w) (Bindings.mem_of_get? isVar)
  next => exact clean.current.1 (x, v) (Bindings.mem_of_get? found)

theorem Clean.assign (clean : stack.Clean banned) (x : String) (free : v.Free banned) :
    (stack.assign x v).Clean banned := by
  have sets : ∀ frame ∈ stack.frames, (∀ e ∈ frame.vars.set x v, e.2.Free banned) ∧
      ∀ e ∈ frame.functions, e.2.body.placed banned (inFunction banned) := by
    refine fun frame member => ⟨fun e there => ?_, (clean frame member).2⟩
    rcases Bindings.mem_set there with before | same
    · exact (clean frame member).1 e before
    · rwa [same]
  intro frame member
  unfold CallStack.assign at member
  split at member
  · rcases List.mem_cons.mp member with rfl | member
    · exact clean _ List.mem_cons_self
    · rcases mem_modify member with before | ⟨caller, there, rfl⟩
      · exact clean frame (List.mem_cons_of_mem _ before)
      · exact sets caller (List.mem_cons_of_mem _ there)
  · rcases List.mem_cons.mp member with rfl | member
    · exact sets _ List.mem_cons_self
    · exact clean frame (List.mem_cons_of_mem _ member)

theorem Clean.change (clean : stack.Clean banned) {c : Change} (isClean : c.Clean banned) :
    (stack.change c).Clean banned := by
  cases c with
  | assign x v => exact clean.assign x isClean
  | outer x =>
    intro frame member
    simp only [CallStack.change, declareOuter] at member
    split at member
    · rcases List.mem_cons.mp member with rfl | member
      · exact clean.current
      · exact clean frame (List.mem_cons_of_mem _ member)
    · exact clean frame member
  | define name f =>
    intro frame member
    rcases List.mem_cons.mp member with rfl | member
    · refine ⟨clean.current.1, fun e there => ?_⟩
      rcases Bindings.mem_set there with before | same
      · exact clean.current.2 e before
      · rw [same]
        exact isClean
    · exact clean frame (List.mem_cons_of_mem _ member)

theorem Clean.enter (clean : stack.Clean banned) {parameters : Bindings Value}
    (free : ∀ e ∈ parameters, e.2.Free banned) : (stack.enter parameters).Clean banned := by
  intro frame member
  rcases List.mem_cons.mp member with rfl | member
  · refine ⟨fun e there => ?_, clean.current.2⟩
    rcases Bindings.mem_setAll there with before | ⟨e', isParameter, same⟩
    · exact clean.current.1 e before
    · rw [same]
      exact free e' isParameter
  · exact clean frame member

theorem Clean.leave (clean : stack.Clean banned) : stack.leave.Clean banned := by
  obtain ⟨f, callers⟩ := stack
  cases callers with
  | nil => exact clean
  | cons p rest => exact fun frame member => clean frame (List.mem_cons_of_mem f member)

end CallStack

end Clean

end DeskScript
