import DeskScript.Text.Printable
import DeskScript.Text.Point

/-!
# Quoted text

A text as it is shown inside lists and messages: in quotes, with the characters that would not be
visible written as escapes. Single quotes are used unless the text has a single quote and no double
one.
-/

namespace DeskScript.Text

def hex (width n : Nat) : List Char :=
  let digits := Nat.toDigits 16 n
  List.replicate (width - digits.length) '0' ++ digits

/-- A code point by its number: two, four or eight hexadecimal digits. -/
def numberEscape (n : Nat) : List Char :=
  if n < 0x100 then '\\' :: 'x' :: hex 2 n
  else if n < 0x10000 then '\\' :: 'u' :: hex 4 n
  else '\\' :: 'U' :: hex 8 n

def quotedPoint (quote : Char) (n : Nat) : List Char :=
  let c := Char.ofNat n
  if isHalf n then numberEscape n
  else if c = quote ∨ c = '\\' then ['\\', c]
  else if c = '\n' then ['\\', 'n']
  else if c = '\r' then ['\\', 'r']
  else if c = '\t' then ['\\', 't']
  else if isPrintable c then [c]
  else numberEscape n

def quoteFor (cs : List Char) : Char := if '\'' ∈ cs ∧ '"' ∉ cs then '"' else '\''

def quoted (s : String) : String :=
  let quote := quoteFor s.toList
  String.ofList (quote :: (points s).flatMap (quotedPoint quote) ++ [quote])

end DeskScript.Text
