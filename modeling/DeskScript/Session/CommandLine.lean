import DeskScript.Session.Script
import DeskScript.Session.Similarity

/-!
# The command line

The options of the command: a script file, debugging, and breakpoints. A value stands in the next
argument, or in the same one. Short options can be joined.
-/

namespace DeskScript.Session

inductive Flag where
  | file | debug | breakpoint | help
  deriving DecidableEq, Repr, Inhabited

namespace Flag

def long : Flag → String
  | file => "--file"
  | debug => "--debug"
  | breakpoint => "--breakpoints"
  | help => "--help"

def short? : Flag → Option Char
  | file => some 'f'
  | debug => some 'd'
  | breakpoint => some 'b'
  | help => none

def all : List Flag := [file, debug, breakpoint, help]

def takesValue (o : Flag) : Bool := o = file || o = breakpoint

def ofLong? (name : String) : Option Flag := all.find? (·.long == name)

def ofShort? (n : Nat) : Option Flag := all.find? (·.short?.map Char.toNat == some n)

end Flag

structure Options where
  /-- The script file; the last one given counts. -/
  file : Option String := none
  debug : Bool := false
  breakpoints : List String := []
  help : Bool := false
  extra : List String := []
  deriving DecidableEq, Repr, Inhabited

namespace Options

def apply (o : Options) (value : String) : Flag → Options
  | .file => { o with file := some value }
  | .debug => { o with debug := true }
  | .breakpoint => { o with breakpoints := o.breakpoints ++ [value] }
  | .help => { o with help := true }

/-- Takes joined short options, and the arguments left. The first option with a value takes what
follows it in the same argument, or else the next one. -/
def takeShort (o : Options) (rest : List String) :
    List Nat → Except CommandFault (Options × List String)
  | [] => .ok (o, rest)
  | n :: ns =>
    let name := "-" ++ Text.single n
    match Flag.ofShort? n with
    | none => .error (.unknownOption name [])
    | some flag =>
      if flag.takesValue then
        match ns, rest with
        | _ :: _, _ => .ok (o.apply (Text.ofPoints ns) flag, rest)
        | [], value :: rest => .ok (o.apply value flag, rest)
        | [], [] => .error (.argumentExpected name)
      else takeShort (o.apply "" flag) rest ns

def splitLong (arg : String) : String × Option String :=
  let cs := arg.toList
  (String.ofList (cs.takeWhile (· ≠ '=')),
    match cs.dropWhile (· ≠ '=') with
    | [] => none
    | _ :: value => some (String.ofList value))

def takeLong (o : Options) (flag : Flag) (value : Option String) (rest : List String) :
    Except CommandFault (Options × List String) :=
  match flag.takesValue, value, rest with
  | true, some v, _ => .ok (o.apply v flag, rest)
  | true, none, v :: rest => .ok (o.apply v flag, rest)
  | true, none, [] => .error (.argumentExpected flag.long)
  | false, some _, _ => .error (.noArgumentExpected flag.long)
  | false, none, _ => .ok (o.apply "" flag, rest)

def takeOption (o : Options) (arg : String) (rest : List String) :
    Except CommandFault (Options × List String) :=
  let (name, value) := splitLong arg
  match Flag.ofLong? name with
  | some flag => o.takeLong flag value rest
  | none =>
    if arg.startsWith "--" then
      .error (.unknownOption name (mostSimilar name (Flag.all.map Flag.long)))
    else o.takeShort rest ((Text.points arg).drop 1)

/-- Reads arguments; a double hyphen ends the options. -/
def readFrom : Nat → Options → List String → Except CommandFault Options
  | 0, o, _ => .ok o
  | _, o, [] => .ok o
  | fuel + 1, o, arg :: rest =>
    if arg = "--" then .ok { o with extra := o.extra ++ rest }
    else if arg.startsWith "-" && 1 < arg.length then do
      let (o, rest) ← o.takeOption arg rest
      readFrom fuel o rest
    else readFrom fuel { o with extra := o.extra ++ [arg] } rest

def read (args : List String) : Except CommandFault Options := readFrom args.length {} args

/-- What cannot be carried out: a file that does not exist, and then arguments left over. -/
def check (o : Options) (files : Files) : Except Error Unit := do
  if let some path := o.file then
    if !(← files.hasNamed path) then throw (.command (.missingPath path))
  if !o.extra.isEmpty then throw (.command (.extraArguments o.extra))

end Options

def usage : String :=
  "Usage: [-f FILE] [-d] [-b LINE]...\n\n" ++
    "  -f, --file PATH         Path to the script file to execute.\n" ++
    "  -d, --debug             Enable debug mode with verbose output.\n" ++
    "  -b, --breakpoints TEXT  List of breakpoints to set in the script (by line number)."

def runCommand (args : List String) : Interp Unit := do
  match Options.read args with
  | .error fault => throw (.command fault)
  | .ok o =>
    if o.help then say usage
    else
      match o.check (← get).machine.world.files with
      | .error e => throw e
      | .ok () => start (o.file.getD "") o.debug (o.breakpoints.map .text)

end DeskScript.Session
