import DeskScript.Interp.State
import DeskScript.Interp.TreeText
import DeskScript.Text.Blank

/-!
# Pauses

Before a statement runs, the debugger is asked whether to pause. In a pause it takes commands from
the console until one of them lets the run go on. Like a task, a pause says what the debugger asks
for, one thing after the other; it can reach the frames of the script only by evaluating something.
-/

namespace DeskScript

open Syntax

/-- What the debugger goes by: the lists, its own state, and how many lines wait at the console. -/
structure View where
  store : Store
  debugger : Debugger
  waiting : Nat

inductive Pause (α : Type) where
  | done (a : α)
  | fail (e : Error)
  | say (s : String) (next : Pause α)
  | ask (next : String → Pause α)
  | look (next : View → Pause α)
  | set (d : Debugger) (next : Pause α)
  | memory (next : Pause α)
  /-- A tree is evaluated without checks: the text of its value, or the error. -/
  | attempt (t : Tree) (next : Except Error String → Pause α)

namespace Pause

variable {α β : Type}

def bind : Pause α → (α → Pause β) → Pause β
  | done a, f => f a
  | fail e, _ => fail e
  | say s next, f => say s (next.bind f)
  | ask next, f => ask fun line => (next line).bind f
  | look next, f => look fun view => (next view).bind f
  | set d next, f => set d (next.bind f)
  | memory next, f => memory (next.bind f)
  | attempt t next, f => attempt t fun r => (next r).bind f

instance : Monad Pause where
  pure := done
  bind := bind

instance : MonadLift (Except Error) Pause where
  monadLift
    | .ok a => done a
    | .error e => fail e

def print (s : String) : Pause Unit := say s (done ())

def view : Pause View := look done

end Pause

namespace Eval

def command (line : String) : DebugCommand :=
  let cs := Text.stripBy Text.isBlank line.toList
  match String.ofList cs with
  | "c" => .resume
  | "s" => .step
  | "n" => .next
  | "o" => .out
  | "mem" => .memory
  | _ =>
    if "eval ".toList.isPrefixOf cs then .evaluate (Text.strip (String.ofList (cs.drop 5)))
    else .unknown

def table (entries : List (String × String)) : String :=
  "\x7b" ++ ", ".intercalate (entries.map fun e => Text.quoted e.1 ++ ": " ++ e.2) ++ "\x7d"

def functionText (f : Function) : String :=
  "([" ++ ", ".intercalate (f.parameters.map Text.quoted) ++ "], " ++ f.body.quoted ++ ")"

def listing (store : Store) (frame : Frame) : Except Error (List String) := do
  let vars ← frame.vars.mapM fun (name, v) => do return (name, ← store.quoted v)
  return ["vars: " ++ table vars,
    "funcs: " ++ table (frame.functions.map fun (name, f) => (name, functionText f))]

def lineText (store : Store) : LineMark → Except Error String
  | .number line => .ok (toString line)
  | .other v => store.shown v

/-- Evaluates an expression for the debugger. Whatever goes wrong is only reported, but for an
interruption. -/
def inspect (canEvaluate : Bool) (text : String) : Pause Unit :=
  let report := fun e : Error => Pause.print s!"Error evaluating expression: {e.message}"
  match parse text with
  | .error e => report (.parse e)
  | .ok tree =>
    if canEvaluate then
      .attempt tree fun
        | .ok shown => .print s!"Result: {shown}"
        | .error .interrupted => .fail .interrupted
        | .error e => report e
    else .print "Error: eval callback not set in context"

/-- Answers a line at the prompt. A command either ends the pause, or is carried out before the next
line is asked for. -/
def answer (canEvaluate : Bool) (depth : Int) (again : Pause Unit) (line : String) : Pause Unit :=
  .look fun view =>
    match view.debugger.obey? depth (command line) with
    | some d => .set d (.done ())
    | none =>
      match command line with
      | .memory => .memory again
      | .evaluate text => do
        inspect canEvaluate text
        again
      | _ => again

def prompt (canEvaluate : Bool) (depth : Int) : Nat → Pause Unit
  | 0 => .fail .endOfInput
  | fuel + 1 => .ask (answer canEvaluate depth (prompt canEvaluate depth fuel))

def pause (canEvaluate : Bool) (depth : Int) (fuel : Nat) (line : Int) (shown : String)
    (reason : PauseReason) : Pause Unit := do
  if reason = .breakpoint then .print s!"Hit breakpoint at line {line}"
  .print s!"Paused ({reason.name}) at line {shown}"
  prompt canEvaluate depth fuel

/-- Goes on after a check, with the state that the debugger is in then. -/
def proceed (pause : PauseReason → Pause Unit) : Option PauseReason × Debugger → Pause Unit
  | (none, d) => .set d (.done ())
  | (some reason, d) => .set d (pause reason)

/-- Checks the statement on a line, at a depth of calls, and pauses where the debugger says so. -/
def checkMark (canEvaluate : Bool) (depth : Int) : Option LineMark → Pause Unit
  | none => .print s!"Checking line None at call depth {depth}"
  | some mark => do
    let view ← .view
    let shown ← lineText view.store mark
    .print s!"Checking line {shown} at call depth {depth}"
    let line ← mark.value.toInt
    let checked ← view.debugger.check line depth mark
    proceed (pause canEvaluate depth (view.waiting + 1) line shown) checked

/-- The line of a statement. Only nodes can be checked. -/
def statementLine (t : Tree) : Except Error (Option LineMark) :=
  match t with
  | .node .. => .ok (t.line?.map fun line => .number line)
  | .leaf _ => .error (.missingName "'Token' object has no attribute 'meta'")
  | .datum d =>
    .error (.missingName
      (String.ofList ((d.describe.toList.drop 7).dropLast) ++ " object has no attribute 'meta'"))

def say (s : String) : Interp Unit := Action.sayAs .debugger (s ++ "\n")

def listMemory : Interp Unit := do
  let s ← get
  let lines ← listing s.machine.store s.stack.current
  lines.forM say

def shownValue (evaluate : Evaluate) (mode : Mode) (t : Tree) : Interp String := do
  let v ← evaluate { mode with debug := false } t
  Op.shown v

def outcome {α : Type} (step : Interp α) : Interp (Except Error α) :=
  tryCatch (do return .ok (← step)) fun e => return .error e

end Eval

def Pause.run {α : Type} (evaluate : Evaluate) (mode : Mode) : Pause α → Interp α
  | done a => return a
  | fail e => throw e
  | say s next => do
    Eval.say s
    next.run evaluate mode
  | ask next => do
    let line ← (Action.askAs .debugger "(dbg) " : Action String)
    (next line).run evaluate mode
  | look next => do
    let s ← get
    (next ⟨s.machine.store, s.debugger, s.machine.world.replies.length⟩).run evaluate mode
  | set d next => do
    modify fun s => { s with debugger := d }
    next.run evaluate mode
  | memory next => do
    Eval.listMemory
    next.run evaluate mode
  | attempt t next => do
    let r ← Eval.outcome (Eval.shownValue evaluate mode t)
    (next r).run evaluate mode

namespace Eval

def checkLine (evaluate : Evaluate) (mode : Mode) (depth : Int) (mark : Option LineMark) :
    Interp Unit :=
  (checkMark mode.canEvaluate depth mark).run evaluate mode

def check (evaluate : Evaluate) (mode : Mode) (t : Tree) : Interp Unit := do
  if mode.debug then
    let mark ← statementLine t
    checkLine evaluate mode (← get).stack.depth mark

end Eval

end DeskScript
