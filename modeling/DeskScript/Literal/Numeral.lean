import DeskScript.Literal.Fault
import DeskScript.Text.Identifier

/-!
# Numerals

Where a numeral ends, and what it stands for. Underscores may stand between digits, one at a time. A
numeral must not run into a name, unless the name begins as one of the words that can follow a
number.
-/

namespace DeskScript.Literal

/-- Whether a character can stand in a name, as far as the end of a numeral is concerned. -/
def isAsciiNameChar (c : Char) : Bool := c.toNat < 128 && Text.isMedial c

/-- Whether the characters begin with a word that can follow a number. -/
def followsNumber (cs : List Char) : Bool :=
  let isWord := fun (w : String) =>
    w.toList.isPrefixOf cs && ((cs.drop w.length).head?.all fun c => c.toNat < 128 && !Text.isMedial c)
  isWord "and" || isWord "else" || isWord "for" || isWord "or" || isWord "not" ||
    ["if", "in", "is"].any fun w => w.toList.isPrefixOf cs

def numeralEnd (kind : String) (cs : List Char) : Except Cause Unit :=
  if !followsNumber cs && cs.head?.any isAsciiNameChar then .error (.numeral kind) else .ok ()

def digitTail : List Char → Except Cause (List Char × List Char)
  | [] => .ok ([], [])
  | ['_'] => .error (.numeral "decimal")
  | '_' :: d :: rest =>
    if d.isDigit then do
      let (digits, after) ← digitTail rest
      return ('_' :: d :: digits, after)
    else .error (.numeral "decimal")
  | c :: rest =>
    if c.isDigit then do
      let (digits, after) ← digitTail rest
      return (c :: digits, after)
    else .ok ([], c :: rest)

/-- The digits after the mark of a base. Digits are needed at first and after an underscore. -/
def basedDigits (base : Nat) (kind : String) (needed underscore : Bool) :
    List Char → Except Cause (List Char × List Char)
  | [] => if needed then .error (.numeral kind) else .ok ([], [])
  | c :: rest =>
    if Text.isHex c && Text.hexValue c < base then do
      let (digits, after) ← basedDigits base kind false true rest
      return (c :: digits, after)
    else if c = '_' && underscore then do
      let (digits, after) ← basedDigits base kind true false rest
      return (c :: digits, after)
    else if c.isDigit then .error (.numeralDigit c kind)
    else if needed then .error (.numeral kind)
    else .ok ([], c :: rest)

def exponentPart : List Char → Except Cause (List Char × List Char)
  | e :: sign :: rest =>
    if e = 'e' || e = 'E' then
      if sign = '+' || sign = '-' then
        if rest.head?.any Char.isDigit then do
          let (digits, after) ← digitTail rest
          return (e :: sign :: digits, after)
        else .error (.numeral "decimal")
      else if sign.isDigit then do
        let (digits, after) ← digitTail (sign :: rest)
        return (e :: digits, after)
      else do
        numeralEnd "decimal" (e :: sign :: rest)
        return ([], e :: sign :: rest)
    else .ok ([], e :: sign :: rest)
  | cs => .ok ([], cs)

/-- What may follow the whole part of a numeral: a fraction, an exponent, and the mark of an
imaginary number. -/
def decimalRest (cs : List Char) : Except Cause (List Char × List Char) := do
  let (fraction, after) ← match cs with
    | '.' :: rest =>
      if rest.head?.any Char.isDigit then do
        let (digits, after) ← digitTail rest
        pure ('.' :: digits, after)
      else pure (['.'], rest)
    | _ => pure ([], cs)
  let (exponent, after) ← exponentPart after
  match after with
  | j :: rest =>
    if j = 'j' || j = 'J' then
      numeralEnd "imaginary" rest
      return (fraction ++ exponent ++ [j], rest)
    else
      numeralEnd "decimal" after
      return (fraction ++ exponent, after)
  | [] => return (fraction ++ exponent, [])

def baseOf? (c : Char) : Option (Nat × String) :=
  if c = 'x' || c = 'X' then some (16, "hexadecimal")
  else if c = 'o' || c = 'O' then some (8, "octal")
  else if c = 'b' || c = 'B' then some (2, "binary")
  else none

def scanDecimal (cs : List Char) : Except Cause (List Char × List Char) := do
  let (whole, after) ← if cs.head? = some '.' then pure ([], cs) else digitTail cs
  if whole.head? = some '0' && whole.any (fun c => c.isDigit && c != '0') &&
      !after.head?.any ['.', 'e', 'E', 'j', 'J'].contains then .error .leadingZeros
  let (rest, final) ← decimalRest after
  return (whole ++ rest, final)

def scanNumeral (cs : List Char) : Except Cause (List Char × List Char) :=
  match cs with
  | '0' :: mark :: rest =>
    match baseOf? mark with
    | some (base, kind) => do
      let (digits, after) ← basedDigits base kind true true rest
      numeralEnd kind after
      return ('0' :: mark :: digits, after)
    | none => scanDecimal cs
  | _ => scanDecimal cs

inductive NumeralValue where
  | int (n : Nat)
  | float (x : Float)
  | imaginary (x : Float)
  deriving Repr

def basedValue (base : Nat) (digits : List Char) : Nat :=
  digits.foldl (fun n c => n * base + Text.hexValue c) 0

def numeralValue (numeral : List Char) : Except Cause NumeralValue :=
  let digits := numeral.filter (· != '_')
  let based := match digits with
    | '0' :: mark :: rest => (baseOf? mark).map fun (base, _) => basedValue base rest
    | _ => none
  match based with
  | some n => .ok (.int n)
  | none =>
    if digits.all Char.isDigit then
      if Number.digitLimit < digits.length && digits.head? != some '0' then
        .error (.tooManyDigits digits.length)
      else .ok (.int (Number.digitsValue digits))
    else match Number.readFloat? (String.ofList digits) with
      | some x => .ok (.float x)
      | none => .ok (.imaginary ((Number.readFloat? (String.ofList digits.dropLast)).getD 0))

end DeskScript.Literal
