import DeskScript.Data.Json
import DeskScript.Number.Reading
import DeskScript.Text.Escape

/-!
# Reading JSON documents

The reader accepts every document, and also the names of the numbers that are not finite. A fault
is reported with the place where reading stopped.
-/

namespace DeskScript.Json

inductive Cause where
  | value
  | propertyName
  | colon
  | comma
  | extraData
  | unterminated
  | controlCharacter
  | escape
  | unitEscape
  | byteOrderMark
  deriving DecidableEq, Repr

def Cause.text : Cause → String
  | .value => "Expecting value"
  | .propertyName => "Expecting property name enclosed in double quotes"
  | .colon => "Expecting ':' delimiter"
  | .comma => "Expecting ',' delimiter"
  | .extraData => "Extra data"
  | .unterminated => "Unterminated string starting at"
  | .controlCharacter => "Invalid control character at"
  | .escape => "Invalid \\escape"
  | .unitEscape => "Invalid \\uXXXX escape"
  | .byteOrderMark => "Unexpected UTF-8 BOM (decode using utf-8-sig)"

inductive Fault where
  | malformed (cause : Cause) (offset : Nat)
  | tooLong (digits : Nat)
  /-- Arrays or objects within one another, more than are read; the innermost is an object or not. -/
  | nesting (object : Bool)
  deriving DecidableEq, Repr

/-- A place in the text: what is left of it, and how many characters came before. -/
structure Place where
  rest : List Char
  offset : Nat
  deriving Repr

def Place.skip (p : Place) (count : Nat) : Place := ⟨p.rest.drop count, p.offset + count⟩

def isSpace (c : Char) : Bool := c == ' ' || c == '\t' || c == '\n' || c == '\r'

def Place.blanks (p : Place) : Place := p.skip (p.rest.takeWhile isSpace).length

def unit? (cs : List Char) : Option Nat :=
  let digits := cs.take 4
  if digits.length = 4 ∧ digits.all Text.isHex then
    some (digits.foldl (fun n d => n * 16 + Text.hexValue d) 0)
  else none

def letterEscape? : Char → Option Char
  | '"' => some '"'
  | '\\' => some '\\'
  | '/' => some '/'
  | 'b' => some '\x08'
  | 'f' => some '\x0c'
  | 'n' => some '\n'
  | 'r' => some '\r'
  | 't' => some '\t'
  | _ => none

/-- Reads the characters of a string that began at `start`, up to the closing quote. -/
def readString (start : Nat) : Nat → Place → Except Fault (List Char × Place)
  | 0, _ => .error (.malformed .unterminated start)
  | fuel + 1, p =>
    match p.rest with
    | [] => .error (.malformed .unterminated start)
    | '"' :: _ => .ok ([], p.skip 1)
    | ['\\'] => .error (.malformed .unterminated start)
    | '\\' :: 'u' :: digits =>
      -- A unit escape is never the last thing in a text.
      if (digits.drop 4).isEmpty then .error (.malformed .unitEscape (p.offset + 1))
      else match unit? digits with
        | none => .error (.malformed .unitEscape (p.offset + 1))
        | some n =>
          let paired := 0xd800 ≤ n ∧ n < 0xdc00 ∧ (digits.drop 10).isEmpty = false ∧
            (digits.drop 4).take 2 = ['\\', 'u']
          if paired then
            match unit? (digits.drop 6) with
            | none => .error (.malformed .unitEscape (p.offset + 7))
            | some m =>
              if 0xdc00 ≤ m ∧ m < 0xe000 then do
                let (cs, q) ← readString start fuel (p.skip 12)
                return (Text.ofPoint (0x10000 + (n - 0xd800) * 0x400 + (m - 0xdc00)) ++ cs, q)
              else do
                let (cs, q) ← readString start fuel (p.skip 6)
                return (Text.ofPoint n ++ cs, q)
          else do
            let (cs, q) ← readString start fuel (p.skip 6)
            return (Text.ofPoint n ++ cs, q)
    | '\\' :: c :: _ =>
      match letterEscape? c with
      | none => .error (.malformed .escape p.offset)
      | some image => do
        let (cs, q) ← readString start fuel (p.skip 2)
        return (image :: cs, q)
    | c :: _ =>
      if c.toNat < 32 then .error (.malformed .controlCharacter p.offset)
      else do
        let (cs, q) ← readString start fuel (p.skip 1)
        return (c :: cs, q)

structure Numeral where
  negative : Bool
  whole : List Char
  fraction : List Char
  exponent : List Char
  deriving Repr

def Numeral.length (n : Numeral) : Nat :=
  (if n.negative then 1 else 0) + n.whole.length +
    (if n.fraction.isEmpty then 0 else n.fraction.length + 1) +
    (if n.exponent.isEmpty then 0 else n.exponent.length + 1)

def exponentPart (cs : List Char) : List Char :=
  match cs with
  | c :: rest =>
    if c = 'e' ∨ c = 'E' then
      let (sign, digits) := match rest with
        | '-' :: r => (['-'], r.takeWhile Char.isDigit)
        | '+' :: r => (['+'], r.takeWhile Char.isDigit)
        | r => ([], r.takeWhile Char.isDigit)
      if digits.isEmpty then [] else sign ++ digits
    else []
  | [] => []

/-- The digits in front of a point. A leading zero stands alone. -/
def wholePart : List Char → List Char
  | '0' :: _ => ['0']
  | cs => cs.takeWhile Char.isDigit

def fractionPart : List Char → List Char
  | '.' :: cs => cs.takeWhile Char.isDigit
  | _ => []

def unsigned? (negative : Bool) (cs : List Char) : Option Numeral :=
  let whole := wholePart cs
  if whole.isEmpty then none
  else
    let rest := cs.drop whole.length
    let fraction := fractionPart rest
    let rest := if fraction.isEmpty then rest else rest.drop (fraction.length + 1)
    some ⟨negative, whole, fraction, exponentPart rest⟩

def numeral? : List Char → Option Numeral
  | '-' :: cs => unsigned? true cs
  | cs => unsigned? false cs

/-- The number of a numeral: whole unless it has a fraction or an exponent. -/
def Numeral.value (n : Numeral) : Except Fault Json :=
  if n.fraction.isEmpty && n.exponent.isEmpty then
    if Number.digitLimit < n.whole.length then .error (.tooLong n.whole.length)
    else
      let i : Int := Number.digitsValue n.whole
      .ok (int (if n.negative then -i else i))
  else
    let e := (Number.readExponent? n.exponent).getD 0
    .ok (float (Number.ofDecimal n.negative (Number.digitsValue (n.whole ++ n.fraction))
      (e - n.fraction.length)))

def words : List (String × Json) :=
  [("null", null), ("true", bool true), ("false", bool false), ("NaN", float Number.nan),
    ("Infinity", float (Number.infinity false)), ("-Infinity", float (Number.infinity true))]

def readScalar (p : Place) : Except Fault (Json × Place) :=
  match words.find? fun w => w.1.toList.isPrefixOf p.rest with
  | some (word, value) => .ok (value, p.skip word.length)
  | none =>
    match numeral? p.rest with
    | none => .error (.malformed .value p.offset)
    | some n => return (← n.value, p.skip n.length)

def levelLimit : Nat := 960

mutual

def readValue (levels : Nat) : Nat → Place → Except Fault (Json × Place)
  | 0, p => .error (.malformed .value p.offset)
  | fuel + 1, p =>
    match p.rest with
    | '"' :: rest => do
      let (cs, q) ← readString p.offset (rest.length + 1) (p.skip 1)
      return (text (String.ofList cs), q)
    | '[' :: _ =>
      if levels = 0 then .error (.nesting false)
      else
      let q := (p.skip 1).blanks
      match q.rest with
      | ']' :: _ => .ok (array [], q.skip 1)
      | _ => do
        let (items, r) ← readItems (levels - 1) fuel q
        return (array items, r)
    | '\x7b' :: _ =>
      if levels = 0 then .error (.nesting true)
      else
      let q := (p.skip 1).blanks
      match q.rest with
      | '\x7d' :: _ => .ok (object [], q.skip 1)
      | _ => do
        let (members, r) ← readMembers (levels - 1) fuel [] q
        return (object members, r)
    | _ => readScalar p

def readItems (levels : Nat) : Nat → Place → Except Fault (List Json × Place)
  | 0, p => .error (.malformed .value p.offset)
  | fuel + 1, p => do
    let (item, q) ← readValue levels fuel p
    let q := q.blanks
    match q.rest with
    | ']' :: _ => return ([item], q.skip 1)
    | ',' :: _ =>
      let (items, r) ← readItems levels fuel (q.skip 1).blanks
      return (item :: items, r)
    | _ => .error (.malformed .comma q.offset)

/-- Reads the members of an object, the closing brace included, after those already read. -/
def readMembers (levels : Nat) : Nat → List (String × Json) → Place → Except Fault (List (String × Json) × Place)
  | 0, _, p => .error (.malformed .propertyName p.offset)
  | fuel + 1, before, p =>
    match p.rest with
    | '"' :: rest => do
      let (key, q) ← readString p.offset (rest.length + 1) (p.skip 1)
      let q := q.blanks
      match q.rest with
      | ':' :: _ =>
        let (value, r) ← readValue levels fuel (q.skip 1).blanks
        let members := setMember (String.ofList key) value before
        let r := r.blanks
        match r.rest with
        | '\x7d' :: _ => return (members, r.skip 1)
        | ',' :: _ => readMembers levels fuel members (r.skip 1).blanks
        | _ => .error (.malformed .comma r.offset)
      | _ => .error (.malformed .colon q.offset)
    | _ => .error (.malformed .propertyName p.offset)

end

def read (s : String) (levels : Nat := levelLimit) : Except Fault Json := do
  let start : Place := ⟨s.toList, 0⟩
  if s.toList.head? = some '\ufeff' then .error (.malformed .byteOrderMark 0)
  else
    let (value, p) ← readValue levels (2 * s.length + 2) start.blanks
    let p := p.blanks
    if p.rest.isEmpty then return value else .error (.malformed .extraData p.offset)

/-- A fault in a text, in words: lines and columns count from one, code points from zero. -/
def Fault.message (s : String) : Fault → String
  | .malformed cause offset =>
    let before := s.toList.take offset
    let line := before.count '\n' + 1
    let column := Text.width (before.reverse.takeWhile (· != '\n')) + 1
    cause.text ++ s!": line {line} column {column} (char {Text.width before})"
  | .tooLong digits =>
    s!"Exceeds the limit ({Number.digitLimit} digits) for integer string conversion: value has " ++
      s!"{digits} digits; use sys.set_int_max_str_digits() to increase the limit"
  | .nesting inObject =>
    let noun := if inObject then "object" else "array"
    s!"maximum recursion depth exceeded while decoding a JSON {noun} from a unicode string"

end DeskScript.Json
