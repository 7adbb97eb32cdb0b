import DeskScript.Error
import DeskScript.Value.Key

/-!
# The debugger

A run with debugging checks every statement before it is run, by its line and by the depth of calls.
On a breakpoint line, or where a stepping command says so, it pauses for commands.
-/

namespace DeskScript

inductive StepMode where
  | run | step | next | out
  deriving DecidableEq, Repr, Inhabited

def StepMode.name : StepMode → String
  | run => "run"
  | step => "step"
  | next => "next"
  | out => "out"

/-- The line of a statement as it is given: a number, or another value that says one. -/
inductive LineMark where
  | number (line : Int)
  | other (v : Value)
  deriving Repr, Inhabited

namespace LineMark

def ofValue : Value → LineMark
  | .int line => number line
  | v => other v

def value : LineMark → Value
  | number line => .int line
  | other v => v

/-- Whether a mark is equal to the number of a line. A text never is. -/
def isAt (line : Int) : LineMark → Bool
  | number n => n = line
  | other v => v.sameKey (.int line)

end LineMark

structure Debugger where
  breakpoints : List Int := []
  mode : StepMode := .run
  targetDepth : Option Int := none
  lastLine : Option LineMark := none
  deriving Repr, Inhabited

inductive PauseReason where
  | breakpoint | step | next | out
  deriving DecidableEq, Repr, Inhabited

def PauseReason.name : PauseReason → String
  | breakpoint => "breakpoint"
  | step => "step"
  | next => "next"
  | out => "out"

inductive DebugCommand where
  | resume | step | next | out | memory
  | evaluate (text : String)
  | unknown
  deriving DecidableEq, Repr, Inhabited

namespace Debugger

/-- The depth that stepping over and out compare with. There has to be one. -/
def target (d : Debugger) (operator : String) : Except Error Int :=
  match d.targetDepth with
  | some depth => .ok depth
  | none => .error (.kind (.ordering operator .int .null))

def wants (d : Debugger) (line depth : Int) : Except Error (Option PauseReason) :=
  let moved := !d.lastLine.any (·.isAt line)
  match d.mode with
  | .run => return none
  | .step => return if moved then some .step else none
  | .next => do return if depth ≤ (← d.target "<=") && moved then some .next else none
  | .out => do return if depth < (← d.target "<") then some .out else none

/-- Checks a statement: whether to pause, and the state to go on with. A breakpoint goes before
stepping and leaves the mode as it is. A pause keeps the line as it was given. -/
def check (d : Debugger) (line depth : Int) (mark : LineMark := .number line) :
    Except Error (Option PauseReason × Debugger) :=
  if line ∈ d.breakpoints then .ok (some .breakpoint, { d with lastLine := some mark })
  else do
    match ← d.wants line depth with
    | some reason => return (some reason, { d with mode := .run, lastLine := some mark })
    | none => return (none, { d with lastLine := some (.number line) })

/-- What a command that ends a pause at a depth does to the state; none for other commands. -/
def obey? (d : Debugger) (depth : Int) : DebugCommand → Option Debugger
  | .resume => some { d with mode := .run }
  | .step => some { d with mode := .step }
  | .next => some { d with mode := .next, targetDepth := some depth }
  | .out => some { d with mode := .out, targetDepth := some depth }
  | _ => none

end Debugger

end DeskScript
