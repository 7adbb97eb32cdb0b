import DeskScript.Syntax.Tree
import DeskScript.Value.Basic

/-!
# Frames

A call of a function runs in a frame of its own. The frame starts with the variables and functions
of its caller, and keeps its changes to itself, except for the names that it declares outer: those
are aliases of a variable further up. An outer table says for each such name how many callers up
its variable lives.
-/

namespace DeskScript

/-- A table by names, in the order in which the names were first set. -/
abbrev Bindings (α : Type) := List (String × α)

namespace Bindings

variable {α : Type}

def get? (b : Bindings α) (name : String) : Option α := List.lookup name b

def has (b : Bindings α) (name : String) : Bool := (b.get? name).isSome

/-- Sets a name. A name that is there already keeps its place. -/
def set (b : Bindings α) (name : String) (a : α) : Bindings α :=
  match b with
  | [] => [(name, a)]
  | (n, v) :: rest => if n = name then (n, a) :: rest else (n, v) :: Bindings.set rest name a

def setAll (b : Bindings α) (entries : Bindings α) : Bindings α :=
  entries.foldl (fun b e => b.set e.1 e.2) b

end Bindings

structure Function where
  parameters : List String
  body : Syntax.Tree
  deriving Inhabited

structure Frame where
  vars : Bindings Value := []
  functions : Bindings Function := []
  outer : Bindings Nat := []
  deriving Inhabited

/-- The frame of the call in progress, and those of its callers, the nearest first. -/
structure CallStack where
  current : Frame := {}
  callers : List Frame := []
  deriving Inhabited

inductive Change where
  | assign (name : String) (v : Value)
  | outer (name : String)
  | define (name : String) (f : Function)
  deriving Inhabited

namespace CallStack

def depth (s : CallStack) : Nat := s.callers.length

def read? (s : CallStack) (name : String) : Option Value :=
  match s.current.outer.get? name with
  | some up => some (((s.callers[up]?).bind (·.vars.get? name)).getD .null)
  | none => s.current.vars.get? name

def assign (s : CallStack) (name : String) (v : Value) : CallStack :=
  match s.current.outer.get? name with
  | some up =>
    { s with callers := s.callers.modify up fun f => { f with vars := f.vars.set name v } }
  | none => { s with current := { s.current with vars := s.current.vars.set name v } }

/-- The caller that an outer declaration of a name refers to: what it is an alias of in the nearest
caller, or else the nearest caller that has a variable of this name. -/
def outerTarget? (s : CallStack) (name : String) : Option Nat :=
  match s.callers with
  | [] => none
  | caller :: _ =>
    match caller.outer.get? name with
    | some up => some (up + 1)
    | none => s.callers.findIdx? (·.vars.has name)

/-- Declares a name outer. Without a variable to refer to nothing happens. -/
def declareOuter (s : CallStack) (name : String) : CallStack :=
  match s.outerTarget? name with
  | some up => { s with current := { s.current with outer := s.current.outer.set name up } }
  | none => s

def define (s : CallStack) (name : String) (f : Function) : CallStack :=
  { s with current := { s.current with functions := s.current.functions.set name f } }

def change (s : CallStack) : Change → CallStack
  | .assign name v => s.assign name v
  | .outer name => s.declareOuter name
  | .define name f => s.define name f

/-- Enters a call: the new frame starts from the caller's, with the parameters set. -/
def enter (s : CallStack) (parameters : Bindings Value) : CallStack :=
  { current :=
      { vars := s.current.vars.setAll parameters, functions := s.current.functions, outer := [] }
    callers := s.current :: s.callers }

def leave (s : CallStack) : CallStack :=
  match s.callers with
  | [] => s
  | caller :: rest => ⟨caller, rest⟩

end CallStack

end DeskScript
