import DeskScript.Value.Document
import DeskScript.Value.Sequence
import DeskScript.World.Basic

/-!
# The machine under a script

The world together with the store of lists. A built-in is an operation of the machine; it knows
nothing of variables and functions.
-/

namespace DeskScript

/-- The world, the lists, and the directory of templates. -/
structure Machine where
  world : World := {}
  store : Store := {}
  templates : String := "./templates"
  deriving Inhabited

structure Bench where
  desk : Desk
  store : Store
  templates : String

abbrev Op := Routine Bench

namespace Op

def ofAction {α : Type} : Action α → Op α
  | .done a => .done a
  | .fail e => .fail e
  | .step f next =>
    .step (fun ⟨desk, store, templates⟩ =>
      let (b, desk) := f desk
      (b, ⟨desk, store, templates⟩)) fun b => ofAction (next b)
  | .say speaker s next => .say speaker s (ofAction next)
  | Routine.ask speaker prompt next =>
    Routine.ask speaker prompt fun reply => ofAction (next reply)

instance : MonadLift Action Op := ⟨ofAction⟩

def ask {α : Type} (f : Store → Except Error α) : Op α := do f (← get).store

def computed (v : Value) : Op Value := modifyGet fun m =>
  let (v, s) := m.store.fresh v
  (v, { m with store := s })

def newList (items : List Value) : Op Value := modifyGet fun m =>
  let (v, s) := m.store.alloc items
  (v, { m with store := s })

def newSignal (kind : SignalKind) (payload : Value) : Op Value := modifyGet fun m =>
  let (v, s) := m.store.signal kind payload
  (v, { m with store := s })

def modifyStore (f : Store → Store) : Op Unit := modify fun m => { m with store := f m.store }

def newDocument (j : Json) : Op Value := modifyGet fun m =>
  let (v, s) := m.store.load j
  (v, { m with store := s })

def shown (v : Value) : Op String := ask fun s => s.shown v

def truth (v : Value) : Op Bool := ask fun s => .ok (s.truth v)

end Op

end DeskScript
