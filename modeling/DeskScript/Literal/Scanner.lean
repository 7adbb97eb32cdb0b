import DeskScript.Literal.Numeral
import DeskScript.Literal.Token

/-!
# From a text to its words

Lines end words unless a bracket is open, and the blanks at the beginning of a line are compared
with those of the lines before. A backslash joins a line with the next one.
-/

namespace DeskScript.Literal

structure Scan where
  rest : List Char
  /-- The number of line ends passed, and the number of bytes since. -/
  ends : Nat := 0
  column : Nat := 0
  /-- The number of line ends before the text, and the column where it begins. -/
  firstEnds : Nat := 0
  firstColumn : Nat := 0
  /-- Whether the place is right after a line end, or at the beginning. -/
  fresh : Bool := true
  /-- The brackets that are open, with their lines, the innermost one first. -/
  brackets : List (Char × Nat) := []
  columns : List Nat := []
  tokens : Array Token := #[]

namespace Scan

/-- The line of a place. Nothing begins a new line at the end of a text. -/
def line (s : Scan) : Nat := if s.rest.isEmpty && s.fresh then s.ends else s.ends + 1

def spot (s : Scan) : Spot := ⟨s.line, s.column⟩

def columnAfter (column : Nat) (passed : List Char) : Nat :=
  passed.foldl (fun n c => if c = '\n' then 0 else n + c.utf8Size) column

/-- Passes over some characters, with others to come. -/
def pass (s : Scan) (passed rest : List Char) : Scan :=
  { s with
    rest
    ends := s.ends + passed.count '\n'
    column := columnAfter s.column passed
    fresh := if passed.isEmpty then s.fresh else passed.getLast? = some '\n' }

/-- Notes a word that begins at a place. On the first line, columns are counted from where the text
begins. -/
def emit (s : Scan) (kind : TokenKind) (text : List Char) (spot : Spot) : Scan :=
  let isLast := s.rest.isEmpty && kind != .string
  let column := if s.ends = s.firstEnds then s.firstColumn + spot.column else spot.column
  { s with
    tokens := s.tokens.push ⟨kind, String.ofList text, spot.line, column, s.brackets.length, isLast⟩ }

def take (s : Scan) (kind : TokenKind) (text rest : List Char) : Scan :=
  (s.pass text rest).emit kind text s.spot

def stopAt (s : Scan) (cause : Cause) (line : Nat) (final : Bool) : Words :=
  { tokens := s.tokens, stop := some ⟨⟨cause, line⟩, final, s.brackets.head?⟩ }

/-- A fault that counts in any case. -/
def fail (s : Scan) (cause : Cause) : Words := s.stopAt cause s.line true

def brokenOff (s : Scan) : Words :=
  match s.brackets with
  | (bracket, line) :: _ => s.stopAt (.neverClosed bracket) line false
  | [] => s.stopAt .endOfText s.line false

def finish (s : Scan) : Words :=
  if s.brackets.isEmpty then { tokens := (s.emit .finish [] s.spot).tokens, stop := none }
  else s.brokenOff

def joinLine (s : Scan) : Except Words Scan :=
  match s.rest with
  | '\\' :: '\n' :: rest =>
    let s := s.pass ['\\', '\n'] rest
    if rest.isEmpty then .error s.brokenOff else .ok s
  | _ => .error (s.stopAt .afterBackslash s.line false)

def comment (s : Scan) : Scan :=
  match s.rest with
  | '#' :: _ =>
    let passed := s.rest.takeWhile (· != '\n')
    s.pass passed (s.rest.drop passed.length)
  | _ => s

/-- Passes over the blanks at the beginning of a line. The result has the column after them, or that
of the first backslash. -/
def margin : Nat → Nat → Nat → Scan → Except Words (Nat × Scan)
  | 0, column, joined, s => .ok (if joined = 0 then column else joined, s)
  | fuel + 1, column, joined, s =>
    match s.rest with
    | ' ' :: rest => margin fuel (column + 1) joined (s.pass [' '] rest)
    | '\t' :: rest => margin fuel ((column / 8 + 1) * 8) joined (s.pass ['\t'] rest)
    | '\x0c' :: rest => margin fuel 0 joined (s.pass ['\x0c'] rest)
    | '\\' :: _ => do
      let s ← s.joinLine
      margin fuel column (if joined = 0 then column else joined) s
    | _ => .ok (if joined = 0 then column else joined, s)

/-- Compares the column of a line with the columns of the blocks around it. -/
def align (s : Scan) (column : Nat) : Except Words Scan :=
  let current := s.columns.headD 0
  if column = current then .ok s
  else if current < column then
    .ok (({ s with columns := column :: s.columns }).emit .indent [] s.spot)
  else
    let columns := s.columns.dropWhile (column < ·)
    if columns.headD 0 = column then
      let closed := s.columns.length - columns.length
      .ok ((List.range closed).foldl (fun s _ => s.emit .dedent [] s.spot) { s with columns })
    else .error (s.stopAt .misaligned s.line false)

def openingQuotes? (cs : List Char) : Option (List Char) :=
  match cs with
  | '"' :: '"' :: '"' :: _ => some ['"', '"', '"']
  | '\'' :: '\'' :: '\'' :: _ => some ['\'', '\'', '\'']
  | '"' :: _ => some ['"']
  | '\'' :: _ => some ['\'']
  | _ => none

def stringMarks : List String := ["", "b", "r", "u", "f", "br", "rb", "fr", "rf"]

def stringStart? (cs : List Char) : Option (List Char × List Char) :=
  let mark := cs.takeWhile Char.isAlpha
  if stringMarks.contains (String.ofList (mark.map Char.toLower)) then
    (openingQuotes? (cs.drop mark.length)).map (mark, ·)
  else none

/-- Splits a text at the quotes that close it: a quote after a backslash does not. Unless there are
three of them, a line must not end before. Without such quotes, the first part is what was read. -/
def closeString (closing : List Char) : List Char → List Char × Option (List Char)
  | [] => ([], none)
  | ['\\'] => (['\\'], none)
  | '\\' :: c :: rest =>
    let (body, after) := closeString closing rest
    ('\\' :: c :: body, after)
  | c :: rest =>
    if closing.isPrefixOf (c :: rest) then ([], some ((c :: rest).drop closing.length))
    else if c = '\n' && closing.length = 1 then ([], none)
    else
      let (body, after) := closeString closing rest
      (c :: body, after)

def string (s : Scan) (mark quotes : List Char) : Except Words Scan :=
  let opening := mark ++ quotes
  let (body, after) := closeString quotes (s.rest.drop opening.length)
  match after with
  | some rest => .ok ((s.pass (opening ++ body ++ quotes) rest).emit .string (opening ++ body ++ quotes) s.spot)
  | none =>
    let read := s.pass (opening ++ body) (s.rest.drop (opening.length + body.length))
    .error (s.fail (.unterminated (quotes.length = 3) read.line))

def name (s : Scan) : Except Words Scan :=
  let text := s.rest.takeWhile fun c => 128 ≤ c.toNat || Text.isMedial c
  match Text.notNamed? text with
  | some c => .error (s.fail (.character c))
  | none =>
    let kind := if keywords.contains (String.ofList text) then TokenKind.keyword else .name
    .ok (s.take kind text (s.rest.drop text.length))

def bracketLimit : Nat := 200

def closingFor : Char → Char
  | '(' => ')'
  | '[' => ']'
  | _ => '\x7d'

def bracket (s : Scan) (c : Char) : Except Words Scan :=
  if c = '(' || c = '[' || c = '\x7b' then
    if bracketLimit ≤ s.brackets.length then .error (s.fail .nested)
    else .ok { s with brackets := (c, s.line) :: s.brackets }
  else if c = ')' || c = ']' || c = '\x7d' then
    match s.brackets with
    | [] => .error (s.fail (.unmatched c))
    | (opening, line) :: outer =>
      if closingFor opening = c then .ok { s with brackets := outer }
      else .error (s.fail (.mismatched c opening (if line = s.line then none else some line)))
  else .ok s

def sign (s : Scan) (c : Char) (rest : List Char) : Except Words Scan :=
  match longSigns.find? fun w => w.toList.isPrefixOf s.rest with
  | some w => .ok (s.take .sign w.toList (s.rest.drop w.length))
  | none => do
    let s ← s.bracket c
    if Text.isPrintable c then return s.take .sign [c] rest else .error (s.fail (.character c))

def word (s : Scan) (c : Char) (rest : List Char) : Except Words Scan :=
  match stringStart? s.rest with
  | some (mark, quotes) => s.string mark quotes
  | none =>
    if 128 ≤ c.toNat || c.isAlpha || c = '_' then s.name
    else if c.isDigit || (c = '.' && rest.head?.any Char.isDigit) then
      match scanNumeral s.rest with
      | .ok (text, after) => .ok (s.take .number text after)
      | .error cause => .error (s.fail cause)
    else s.sign c rest

def isBlank (c : Char) : Bool := c == ' ' || c == '\t' || c == '\x0c'

/-- The words from a place on. A line begins with its margin, unless it holds nothing. -/
def words : Nat → Bool → Scan → Words
  | 0, _, s => s.finish
  | fuel + 1, true, s =>
    match margin s.rest.length 0 0 s with
    | .error stop => stop
    | .ok (column, s) =>
      match s.comment.rest, s.rest with
      | '\n' :: rest, '\n' :: _ | '\n' :: rest, '#' :: _ => words fuel true (s.comment.pass ['\n'] rest)
      | [], '#' :: _ => s.comment.finish
      | _, _ =>
        if s.brackets.isEmpty then
          match s.align column with
          | .error stop => stop
          | .ok s => words fuel false s
        else words fuel false s
  | fuel + 1, false, s =>
    let blanks := s.rest.takeWhile isBlank
    let s := (s.pass blanks (s.rest.drop blanks.length)).comment
    match s.rest with
    | [] => s.finish
    | '\n' :: rest =>
      let next := s.pass ['\n'] rest
      words fuel true (if s.brackets.isEmpty then next.emit .lineEnd [] s.spot else next)
    | '\\' :: _ =>
      match s.joinLine with
      | .error stop => stop
      | .ok s => words fuel false s
    | c :: rest =>
      match s.word c rest with
      | .error stop => stop
      | .ok s => words fuel false s

end Scan

/-- The words of a text that comes after some line ends and begins in a column. Every step but two
takes at least a character of it. -/
def words (ends column : Nat) (cs : List Char) : Words :=
  Scan.words (2 * cs.length + 2) true
    { rest := cs, ends, firstEnds := ends, firstColumn := column }

end DeskScript.Literal
