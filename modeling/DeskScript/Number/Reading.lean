import DeskScript.Number.Binary
import DeskScript.Text.Blank
import DeskScript.Text.Digit

/-!
# Reading numbers

Texts that people type as numbers: blanks around them, a sign, digits of any script, and single
underscores between digits.
-/

namespace DeskScript.Number

open DeskScript.Text

def isMargin (c : Char) : Bool := isAsciiBlank c || inRanges blankRanges c.toNat

def asciiDigit (c : Char) : Char :=
  match digitValue? c with
  | some d => Char.ofNat (48 + d)
  | none => c

def underscoresFit (afterDigit : Bool) : List Char → Bool
  | [] => true
  | '_' :: rest => afterDigit && rest.head?.any Char.isDigit && underscoresFit false rest
  | c :: rest => underscoresFit c.isDigit rest

def dropUnderscores (cs : List Char) : Option (List Char) :=
  if underscoresFit false cs then some (cs.filter (· != '_')) else none

/-- The characters of a numeral: margins removed, digits in ASCII, no underscores. -/
def numeral? (s : String) : Option (List Char) :=
  dropUnderscores ((stripBy isMargin s.toList).map asciiDigit)

def splitSign : List Char → Bool × List Char
  | '-' :: rest => (true, rest)
  | '+' :: rest => (false, rest)
  | cs => (false, cs)

def digitsValue (cs : List Char) : Nat := cs.foldl (fun n c => n * 10 + (c.toNat - 48)) 0

/-- The most digits that a whole number may have when it is read from or written to a text. -/
def digitLimit : Nat := 4300

inductive IntFault where
  | malformed
  | tooLong (digits : Nat)
  deriving Repr

/-- Reads a whole number. The digits at the front are counted before anything is said about what
follows them. -/
def readInt (s : String) : Except IntFault Int :=
  let (negative, body) := splitSign ((stripBy isMargin s.toList).map asciiDigit)
  let run := body.takeWhile fun c => c.isDigit || c == '_'
  match dropUnderscores run with
  | none => .error .malformed
  | some digits =>
    if digits.isEmpty then .error .malformed
    else if digitLimit < digits.length then .error (.tooLong digits.length)
    else if run.length < body.length then .error .malformed
    else
      let n : Int := digitsValue digits
      .ok (if negative then -n else n)

/-- The double nearest to `digits * 10 ^ exponent`. Beyond the range of doubles the power is not
computed. -/
def ofDecimal (negative : Bool) (digits : Nat) (exponent : Int) : Float :=
  if digits = 0 then compose negative 0 (-1074)
  else
    let lead := exponent + (Nat.toDigits 10 digits).length
    if 310 < lead then infinity negative
    else if lead < -330 then compose negative 0 (-1074)
    else if 0 ≤ exponent then ofRatio negative (digits * tenTo exponent.toNat) 1
    else ofRatio negative digits (tenTo (-exponent).toNat)

/-- Reads an exponent after its mark: a sign and digits to the end. One with more than twenty digits
is beyond all measure, and no digits after those are needed to tell. -/
def readExponent? (cs : List Char) : Option Int :=
  let (negative, digits) := splitSign cs
  if digits.isEmpty || !digits.all Char.isDigit then none
  else
    let n : Int := digitsValue ((digits.dropWhile (· = '0')).take 21)
    some (if negative then -n else n)

/-- How many digits decide which double is nearest. Halfway between two doubles there is a number with
at most 767 digits, so of all digits after these it only matters whether one is not zero. -/
def decisiveDigits : Nat := 800

/-- A number of digits as a whole number and a power of ten to go with it, close enough for the same
double to be nearest. -/
def decisive (digits : List Char) : Nat × Nat :=
  let significant := digits.dropWhile (· = '0')
  let rest := significant.drop decisiveDigits
  if rest.isEmpty then (digitsValue significant, 0)
  else
    let tail := if rest.all (· = '0') then 0 else 1
    (digitsValue (significant.take decisiveDigits) * 10 + tail, rest.length - 1)

/-- Reads digits, a point and an exponent, without a sign: the digits as a whole number and the
power of ten that goes with them, as far as they matter for the nearest double. -/
def readDecimal? (cs : List Char) : Option (Nat × Int) :=
  let whole := cs.takeWhile Char.isDigit
  let rest := cs.dropWhile Char.isDigit
  let (fraction, rest) := match rest with
    | '.' :: r => (r.takeWhile Char.isDigit, r.dropWhile Char.isDigit)
    | _ => ([], rest)
  if whole.isEmpty && fraction.isEmpty then none
  else
    let exponent := match rest with
      | [] => some 0
      | 'e' :: r | 'E' :: r => readExponent? r
      | _ => none
    exponent.map fun e =>
      let (digits, power) := decisive (whole ++ fraction)
      (digits, e - fraction.length + power)

def readFloat? (s : String) : Option Float :=
  (numeral? s).bind fun cs =>
    let (negative, body) := splitSign cs
    let word := String.ofList (body.map Char.toLower)
    if word == "inf" || word == "infinity" then some (infinity negative)
    else if word == "nan" then some nan
    else (readDecimal? body).map fun (digits, exponent) => ofDecimal negative digits exponent

end DeskScript.Number
