import DeskScript.Text.Names
import DeskScript.Text.Point

/-!
# Escapes in string literals

What stands between the quotes of a string literal, read as text. An unknown escape stands for
itself, backslash included. Faults are located by the offsets that the literal has once its
characters beyond ASCII are spelled as ten-character escapes.
-/

namespace DeskScript.Text

inductive EscapeCause where
  | truncatedX
  | truncatedSmallU
  | truncatedLargeU
  | illegalCharacter
  | malformedName
  | unknownName
  deriving DecidableEq, Repr

structure EscapeFault where
  cause : EscapeCause
  first : Nat
  last : Nat
  deriving DecidableEq, Repr

def EscapeCause.text : EscapeCause → String
  | .truncatedX => "truncated \\xXX escape"
  | .truncatedSmallU => "truncated \\uXXXX escape"
  | .truncatedLargeU => "truncated \\UXXXXXXXX escape"
  | .illegalCharacter => "illegal Unicode character"
  | .malformedName => "malformed \\N character escape"
  | .unknownName => "unknown Unicode character name"

def spelledWidth (c : Char) : Nat := if c.toNat < 128 then 1 else 10

/-- The width of a text once it is spelled in ASCII. A backslash before a character that is spelled
out is spelled out itself, in six characters. -/
def spelledLength : List Char → Nat
  | '\\' :: c :: rest => (if c.toNat < 128 then 2 else 16) + spelledLength rest
  | c :: rest => spelledWidth c + spelledLength rest
  | [] => 0

def simpleEscape? : Char → Option (List Char)
  | '\n' => some []
  | '\\' => some ['\\']
  | '\'' => some ['\'']
  | '"' => some ['"']
  | 'a' => some ['\x07']
  | 'b' => some ['\x08']
  | 'f' => some ['\x0c']
  | 'n' => some ['\n']
  | 'r' => some ['\r']
  | 't' => some ['\t']
  | 'v' => some ['\x0b']
  | _ => none

def isOctal (c : Char) : Bool := '0' ≤ c && c ≤ '7'

def isHex (c : Char) : Bool := c.isDigit || ('a' ≤ c && c ≤ 'f') || ('A' ≤ c && c ≤ 'F')

def hexValue (c : Char) : Nat :=
  if c.isDigit then c.toNat - 48
  else if 'a' ≤ c then c.toNat - 87
  else c.toNat - 55

/-- The number of hexadecimal digits of an escape with a fixed count of them, and its fault. -/
def fixedEscape? : Char → Option (Nat × EscapeCause)
  | 'x' => some (2, .truncatedX)
  | 'u' => some (4, .truncatedSmallU)
  | 'U' => some (8, .truncatedLargeU)
  | _ => none

/-- At most `count` characters of a class from the front. -/
def leadingRun (p : Char → Bool) (count : Nat) (cs : List Char) : List Char :=
  (cs.take count).takeWhile p

/-- The character of a name escape, given what follows its letter, and how much of that it takes. -/
def nameEscape? : List Char → Option (Char × Nat)
  | '\x7b' :: tail =>
    let name := tail.takeWhile (· != '\x7d')
    if name.length = tail.length then none
    else (named? (String.ofList name)).map (·, name.length + 2)
  | _ => none

/-- The fault of a name escape whose name is not known, given what follows its letter and the offset
of its backslash. -/
def nameFault (start : Nat) (rest : List Char) : EscapeFault :=
  match rest with
  | '\x7b' :: tail =>
    let name := tail.takeWhile (· != '\x7d')
    let after := start + 3 + spelledLength name
    if name.length = tail.length then ⟨.malformedName, start, after - 1⟩
    else if name.isEmpty then ⟨.malformedName, start, start + 2⟩
    else ⟨.unknownName, start, after⟩
  | _ => ⟨.malformedName, start, start + 1⟩

/-- Reads the characters of a literal, each of which holds itself, from an offset on. -/
def unescape (offset : Nat) : List Char → Except EscapeFault (List Char)
  | [] => .ok []
  | ['\\'] => .ok ['\\']
  | '\\' :: c :: rest =>
    match simpleEscape? c with
    | some image => return image ++ (← unescape (offset + 2) rest)
    | none =>
      if isOctal c then
        let more := leadingRun isOctal 2 rest
        let value := (c :: more).foldl (fun n d => n * 8 + (d.toNat - 48)) 0
        return ofPoint value ++
          (← unescape (offset + 2 + more.length) (rest.drop more.length))
      else match fixedEscape? c with
        | some (count, cause) =>
          let digits := leadingRun isHex count rest
          let value := digits.foldl (fun n d => n * 16 + hexValue d) 0
          if digits.length < count then .error ⟨cause, offset, offset + 1 + digits.length⟩
          else if 0x10ffff < value then .error ⟨.illegalCharacter, offset, offset + 1 + count⟩
          else return ofPoint value ++
            (← unescape (offset + 2 + digits.length) (rest.drop digits.length))
        | none =>
          if c = 'N' then
            match nameEscape? rest with
            | some (named, count) =>
              return ofPoint named.toNat ++ (← unescape (offset + 2 + count) (rest.drop count))
            | none => .error (nameFault offset rest)
          else
            let width := if c.toNat < 128 then 2 else 16
            return '\\' :: ofPoint c.toNat ++ (← unescape (offset + width) rest)
  | c :: rest => return ofPoint c.toNat ++ (← unescape (offset + spelledWidth c) rest)
termination_by cs => cs.length
decreasing_by all_goals simp_wf <;> omega

end DeskScript.Text
