import DeskScript.Session.Interactive

/-!
# Running a script file

A script file is run together with the files that it imports: their texts stand before its own.
-/

namespace DeskScript.Session

open Syntax

def importPath (text : String) : String :=
  String.ofList (Text.stripBy (· = '\'') (Text.stripBy (· = '"') text.toList))

def importOf : Label → List Tree → List String
  | .importFile, t :: _ => [importPath t.text]
  | _, _ => []

mutual

def importPaths : Tree → List String
  | .node label _ children => importOf label children ++ importPathsAll children
  | _ => []

def importPathsAll : List Tree → List String
  | [] => []
  | t :: rest => importPaths t ++ importPathsAll rest

end

/-- The text that is run: the imported texts, a line each way, and then the script. -/
def joined (imported : List String) (script : String) : String :=
  "\n".intercalate imported ++ "\n" ++ script

def parsed (text : String) : Except Error Tree :=
  match parse text with
  | .ok tree => .ok tree
  | .error e => .error (.parse e)

/-- The text that is run for a script: the script itself has to be readable on its own. -/
def linked (files : Files) (script : String) : Except Error String := do
  let tree ← parsed script
  let imported ← (importPaths tree).mapM files.read
  return joined imported script

def insertLine (n : Int) : List Int → List Int
  | [] => [n]
  | m :: rest => if n < m then n :: m :: rest else if n = m then m :: rest else m :: insertLine n rest

def linesText (lines : List Int) : String :=
  if lines.isEmpty then "set()"
  else "\x7b" ++ ", ".intercalate (lines.map toString) ++ "\x7d"

def setBreakpoints (lines : List Value) : Interp Unit := do
  let lines ← lines.mapM fun v => (v.toInt : Except Error Int)
  let lines := lines.foldr insertLine []
  Action.sayAs .debugger (s!"Setting breakpoints: " ++ linesText lines ++ "\n")
  modify fun s => { s with debugger := { s.debugger with breakpoints := lines } }

def runFile (path : String) (debug : Bool) (breakpoints : List Value) : Interp Unit := do
  let script ← (← get).machine.world.files.read path
  if debug then setBreakpoints breakpoints
  let text ← linked (← get).machine.world.files script
  let tree ← parsed text
  let _ ← eval { debug } tree

def banner : String :=
  "\x1b[36mFor documentation and guidelines, visit: https://github.com/srschreiber/macroni\n" ++
    "Feel free to report issues or contribute!\x1b[0m"

def start (path : String) (debug : Bool) (breakpoints : List Value) : Interp Unit := do
  say banner
  if path.isEmpty then interactive debug else runFile path debug breakpoints

end DeskScript.Session
