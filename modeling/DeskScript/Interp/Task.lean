import DeskScript.Interp.Request
import DeskScript.Interp.State

/-!
# Tasks

What a part of a script asks for, one thing after the other: a task names the next thing and how to
go on with what comes of it. A task changes nothing itself. So what evaluation can do to frames,
lists and the world is said once, where tasks are run, whatever a script is made of.
-/

namespace DeskScript

open Syntax

inductive Task (α : Type) where
  | done (a : α)
  | fail (e : Error)
  | perform (r : Request) (next : Value → Task α)
  | look (next : Store → CallStack → Task α)
  | change (c : Change) (next : Task α)
  | check (t : Tree) (next : Task α)
  /-- A tree is evaluated in the same frame, and if it is done quietly, nothing in it is checked. -/
  | evaluate (quiet : Bool) (t : Tree) (next : Value → Task α)
  | call (parameters : Bindings Value) (body : Tree) (next : Value → Task α)

namespace Task

variable {α β : Type}

def bind : Task α → (α → Task β) → Task β
  | done a, f => f a
  | fail e, _ => fail e
  | perform r next, f => perform r fun v => (next v).bind f
  | look next, f => look fun s stack => (next s stack).bind f
  | change c next, f => change c (next.bind f)
  | check t next, f => check t (next.bind f)
  | evaluate quiet t next, f => evaluate quiet t fun v => (next v).bind f
  | call parameters body next, f => call parameters body fun v => (next v).bind f

instance : Monad Task where
  pure := done
  bind := bind

instance : MonadLift (Except Error) Task where
  monadLift
    | .ok a => done a
    | .error e => fail e

def request (r : Request) : Task Value := perform r done

def store : Task Store := look fun s _ => done s

def stack : Task CallStack := look fun _ stack => done stack

def changed (c : Change) : Task Unit := change c (done ())

def checked (t : Tree) : Task Unit := check t (done ())

def value (t : Tree) (quiet : Bool := false) : Task Value := evaluate quiet t done

def called (parameters : Bindings Value) (body : Tree) : Task Value := call parameters body done

def truth (v : Value) : Task Bool := do return (← store).truth v

end Task

end DeskScript
