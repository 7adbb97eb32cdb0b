import DeskScript.Literal.Embedded
import DeskScript.Text.Bytes

/-!
# Strings in a row

What the strings in a row stand for. Letters before the quotes say that backslashes stand for
themselves, that the string is one of bytes, or that it has terms in it.
-/

namespace DeskScript.Literal

/-- What a string stands for. One with terms in it is only known by how many terms lie within one
another. -/
inductive StringValue where
  | text (s : String)
  | bytes (bs : List UInt8)
  | embedding (depth : Nat)
  deriving Repr

namespace StringValue

def isBytes : StringValue → Bool
  | bytes _ => true
  | _ => false

def append : StringValue → StringValue → StringValue
  | text a, text b => text (a ++ b)
  | bytes a, bytes b => bytes (a ++ b)
  | embedding m, embedding n => embedding (max m n)
  | embedding m, _ | _, embedding m => embedding m
  | a, _ => a

def node (spot : Spot) : StringValue → Node
  | text s => ⟨.text s, spot, 1⟩
  | bytes bs => ⟨.bytes bs, spot, 1⟩
  | embedding depth => ⟨.other "f-string expression", spot, depth + 1⟩

end StringValue

/-- The bytes of a string with escapes, from an offset on, or the offset of an escape that lacks its
two digits. An unknown escape stands for itself, backslash included. -/
def unescapeBytes (offset : Nat) : List Char → Except Nat (List UInt8)
  | [] => .ok []
  | ['\\'] => .ok (Text.bytesOf ['\\'])
  | '\\' :: c :: rest =>
    match Text.simpleEscape? c with
    | some image => return Text.bytesOf image ++ (← unescapeBytes (offset + 2) rest)
    | none =>
      if Text.isOctal c then
        let more := Text.leadingRun Text.isOctal 2 rest
        let value := (c :: more).foldl (fun n d => n * 8 + (d.toNat - 48)) 0
        return UInt8.ofNat value ::
          (← unescapeBytes (offset + 2 + more.length) (rest.drop more.length))
      else if c = 'x' then
        match rest with
        | high :: low :: rest =>
          if Text.isHex high && Text.isHex low then
            return UInt8.ofNat (Text.hexValue high * 16 + Text.hexValue low) ::
              (← unescapeBytes (offset + 4) rest)
          else .error offset
        | _ => .error offset
      else return Text.bytesOf ['\\', c] ++ (← unescapeBytes (offset + 2) rest)
  | c :: rest => return UInt8.ofNat c.toNat :: (← unescapeBytes (offset + 1) rest)
termination_by cs => cs.length
decreasing_by all_goals (simp only [List.length_cons, List.length_drop]; omega)

section Rows

variable (parse : Nat → Nat → List Char → Except Refusal Node) (w : Words) (seen : Spot)

/-- Whether a line ends before the term at the front does, with nothing but blanks before the end. -/
def endsLine (cs : List Char) : Bool := (cs.dropWhile Scan.isBlank).head? = some '\n'

/-- Where a term in a string begins, given the characters of the string before its opening brace and
those after it: the number of line ends before, and the column. -/
def embeddingPlace (t : Token) (before after : List Char) : Nat × Nat :=
  let line := (before.reverse.takeWhile (· != '\n')).reverse
  let column := if endsLine after then 0 else (String.ofList line).utf8ByteSize
  let lines := before.count '\n'
  (t.line - 1 + lines, if lines = 0 then t.column + column else column)

def embeddedValue (raw : Bool) (t : Token) (body : List Char) : Except Halt StringValue := do
  let cs := t.text.toList
  let opening := cs.takeWhile fun c => c != '\'' && c != '"'
  let term := fun text (rest : List Char) =>
    let quotes := (cs.length - opening.length - body.length) / 2
    let before := cs.take (opening.length + quotes + (body.length - rest.length))
    let (ends, column) := embeddingPlace t before rest.tail
    match parse ends column text with
    | .ok node => .ok node
    | .error (.fault fault) => .error (.faulty fault)
    | .error .misplaced => .error .misplaced
    | .error .overflow => .error .overflow
  let (depth, _) ← embedded raw (fun cause => w.blame cause seen) term (body.length + 1) 0 1 body
  return .embedding depth

/-- The parts of a string: whether backslashes stand for themselves, its other letter, and what stands
between its quotes. -/
def stringParts (t : Token) : Bool × Option Char × List Char :=
  let cs := t.text.toList
  let (mark, quotes) := (Scan.stringStart? cs).getD ([], [])
  let letters := mark.map Char.toLower
  let body := (cs.drop (mark.length + quotes.length)).take (cs.length - mark.length - 2 * quotes.length)
  (letters.contains 'r', letters.find? (fun c => c = 'b' || c = 'f'), body)

def plainValue (raw isBytes : Bool) (t : Token) (body : List Char) : Except Halt StringValue :=
  if isBytes then
    if body.any (128 ≤ ·.toNat) then .error (w.blame .byteCharacter t.spot)
    else if raw then .ok (.bytes (Text.bytesOf body))
    else match unescapeBytes 0 body with
      | .ok bs => .ok (.bytes bs)
      | .error offset => .error (w.blame (.byteEscape offset) seen)
  else if raw then .ok (.text (Text.encode (String.ofList body)))
  else match Text.unescape 0 body with
    | .ok text => .ok (.text (String.ofList text))
    | .error fault => .error (w.blame (.escape fault) seen)

def joinStrings (before : Option StringValue) : List Token → Except Halt StringValue
  | [] => .ok (before.getD (.text ""))
  | t :: rest => do
    let (raw, letter, body) := stringParts t
    let isBytes := letter = some 'b'
    let plain ← if letter = some 'f' then pure (.text "") else plainValue w seen raw isBytes t body
    if before.any (·.isBytes != isBytes) then .error (w.blame .mixedBytes seen)
    let value ← if letter = some 'f' then embeddedValue parse w seen raw t body else pure plain
    joinStrings (some ((before.map (·.append value)).getD value)) rest

def readStrings (tokens : List Token) : Except Halt Node := do
  return (← joinStrings parse w seen none tokens).node ((tokens.head?.map Token.spot).getD ⟨0, 0⟩)

end Rows

/-- Reads a text that comes after some line ends as a term. It may stand in a string and begin in a
column there; such a text is put in brackets, which let it span lines. With each string that texts
are in, they get shorter. -/
def parse : Nat → Option Nat → Nat → List Char → Except Refusal Node
  | 0, _, _, _ => .error .overflow
  | depth + 1, embedding, ends, cs =>
    let w := { words ends (embedding.getD 0) cs with embedding }
    let inner := fun ends column text => parse depth (some column) ends ('(' :: text ++ [')', '\n'])
    parseWords w (readStrings inner w) (if embedding.isSome then .embedded else .whole)

end DeskScript.Literal
