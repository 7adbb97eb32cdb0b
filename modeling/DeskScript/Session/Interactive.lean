import DeskScript.Interp.Eval
import DeskScript.Session.Brackets

/-!
# The interactive session

Lines are collected until they can be run: when every bracket is closed, and the last line closes
one, ends a statement or is blank. One run of lines follows the other on the same variables; an
error ends the run of lines and not the session.
-/

namespace DeskScript.Session

open Syntax

def say (s : String) : Action Unit := Action.sayAs .session (s ++ "\n")

/-- Whether the lines read so far are run after their last line. -/
def isComplete (buffer line : String) : Bool :=
  let words := (Text.strip line).toList
  unclosed buffer = 0 &&
    (line.contains ']' || line.contains '}' || words.getLast? = some ';' || words.isEmpty)

def evaluate (mode : Mode) (text : String) : Interp Value := do
  match parse text with
  | .ok tree => eval mode tree
  | .error e => throw (.parse e)

/-- Runs lines, and prints their value unless it is null. -/
def execute (mode : Mode) (buffer : String) : Interp Unit := do
  if (Text.strip buffer).isEmpty then return
  let v ← evaluate mode buffer
  if !v.isNull then
    let shown ← Op.shown v
    say shown

def promptFor (buffer : String) : String := if buffer.isEmpty then ">>> " else "... "

/-- Takes one more line, and runs the lines collected when they are complete. The result is what
remains to be run. -/
def turn (mode : Mode) (buffer : String) : Interp String := do
  let line ← (Action.askAs .session (promptFor buffer) : Action String)
  let buffer := buffer ++ line ++ "\n"
  if isComplete buffer line then
    say "Executing..."
    execute mode buffer
    return ""
  else return buffer

/-- What follows an error: nothing more after the end of the input, and otherwise a message and a
new start. -/
def recover : Error → Interp (Option String)
  | .endOfInput => do
    say "\nExiting..."
    return none
  | .interrupted => do
    say "\n\x1b[33mInterrupted. Use Ctrl+D to exit.\x1b[0m"
    return some ""
  | e => do
    say s!"Error: {e.message}"
    return some ""

/-- Goes on with a buffer. Every turn takes a line, so there are no more turns than lines. -/
def converse (mode : Mode) : Nat → String → Interp Unit
  | 0, _ => pure ()
  | fuel + 1, buffer => do
    match ← tryCatch (do return some (← turn mode buffer)) recover with
    | some buffer => converse mode fuel buffer
    | none => pure ()

def interactive (debug : Bool) : Interp Unit := do
  say "Macroni Interactive Mode"
  say "Enter code (will execute when brackets/braces are balanced)"
  say ""
  converse { debug } ((← get).machine.world.replies.length + 1) ""

end DeskScript.Session
