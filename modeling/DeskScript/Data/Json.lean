import DeskScript.Number.Layout
import DeskScript.Text.Quoted

/-!
# JSON documents

The documents that caches are stored in, and their text: two blanks per level, everything beyond
ASCII escaped, numbers with the fewest digits that read back, and names for the numbers that are
not finite.
-/

namespace DeskScript

/-- A JSON document. The members of an object are kept in order. -/
inductive Json where
  | null
  | bool (b : Bool)
  | int (i : Int)
  | float (x : Float)
  | text (s : String)
  | array (items : List Json)
  | object (members : List (String × Json))
  deriving Inhabited

namespace Json

def unitEscape (n : Nat) : List Char := '\\' :: 'u' :: Text.hex 4 n

/-- One code point of a string. Beyond the basic plane it takes two code units. -/
def escapedPoint (n : Nat) : List Char :=
  let c := Char.ofNat n
  if c = '"' ∨ c = '\\' then ['\\', c]
  else if c = '\n' then ['\\', 'n']
  else if c = '\r' then ['\\', 'r']
  else if c = '\t' then ['\\', 't']
  else if n = 12 then ['\\', 'f']
  else if n = 8 then ['\\', 'b']
  else if 32 ≤ n ∧ n < 127 then [c]
  else if n < 0x10000 then unitEscape n
  else
    let m := n - 0x10000
    unitEscape (0xd800 + m / 0x400) ++ unitEscape (0xdc00 + m % 0x400)

def writeText (s : String) : String :=
  String.ofList ('"' :: (Text.points s).flatMap escapedPoint ++ ['"'])

def writeFloat (x : Float) : String :=
  match Number.Binary.ofFloat x with
  | .nan => "NaN"
  | .infinite negative => if negative then "-Infinity" else "Infinity"
  | .finite .. => Number.plain x

def newLine (level : Nat) : String := "\n" ++ Number.repeatChar ' ' (2 * level)

def bracketed (opening closing : String) (level : Nat) (items : List String) : String :=
  if items.isEmpty then opening ++ closing
  else
    opening ++ newLine (level + 1) ++ ("," ++ newLine (level + 1)).intercalate items ++
      newLine level ++ closing

mutual

def writeAt (level : Nat) : Json → String
  | null => "null"
  | bool b => if b then "true" else "false"
  | int i => toString i
  | float x => writeFloat x
  | text s => writeText s
  | array items => bracketed "[" "]" level (writeItems (level + 1) items)
  | object members => bracketed "\x7b" "\x7d" level (writeMembers (level + 1) members)

def writeItems (level : Nat) : List Json → List String
  | [] => []
  | item :: rest => writeAt level item :: writeItems level rest

def writeMembers (level : Nat) : List (String × Json) → List String
  | [] => []
  | (key, value) :: rest =>
    (writeText key ++ ": " ++ writeAt level value) :: writeMembers level rest

end

def write (j : Json) : String := writeAt 0 j

/-- Sets a member: the last value given counts, in the place of the first. -/
def setMember (key : String) (value : Json) : List (String × Json) → List (String × Json)
  | [] => [(key, value)]
  | (k, v) :: rest => if k = key then (k, value) :: rest else (k, v) :: setMember key value rest

end Json

end DeskScript
