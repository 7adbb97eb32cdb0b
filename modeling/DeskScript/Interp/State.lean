import DeskScript.Interp.Debugger
import DeskScript.Interp.Frame
import DeskScript.Machine

/-!
# The state of a run

What a script can change: the machine below it, its frames, and the debugger.
-/

namespace DeskScript

structure State where
  machine : Machine := {}
  stack : CallStack := {}
  debugger : Debugger := {}
  deriving Inhabited

abbrev Interp := EStateM Error State

structure Mode where
  debug : Bool := false
  canEvaluate : Bool := true
  deriving DecidableEq, Repr, Inhabited

abbrev Evaluate := Mode → Syntax.Tree → Interp Value

namespace Interp

def ofExcept {α : Type} : Except Error α → Interp α
  | .ok a => pure a
  | .error e => throw e

instance : MonadLift (Except Error) Interp := ⟨ofExcept⟩

def ofOp {α : Type} (op : Op α) : Interp α
  | ⟨⟨⟨desk, console⟩, store, templates⟩, stack, debugger⟩ =>
    match op.run (⟨desk, store, templates⟩, console) with
    | .ok v (⟨desk, store, templates⟩, console) =>
      .ok v ⟨⟨⟨desk, console⟩, store, templates⟩, stack, debugger⟩
    | .error e (⟨desk, store, templates⟩, console) =>
      .error e ⟨⟨⟨desk, console⟩, store, templates⟩, stack, debugger⟩

instance : MonadLift Op Interp := ⟨ofOp⟩

def modifyStack (f : CallStack → CallStack) : Interp Unit :=
  modify fun s => { s with stack := f s.stack }

end Interp

end DeskScript
