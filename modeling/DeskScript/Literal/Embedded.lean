import DeskScript.Literal.Reader
import DeskScript.Literal.Scanner

/-!
# Terms in strings

A string can hold terms in braces, each with a conversion and a format after it; a format can hold
terms again. What stands outside the braces is read as in any string.
-/

namespace DeskScript.Literal

/-! ### What stands outside the braces -/

/-- Where in an escape a place is: behind a backslash, behind the letter that a name follows, or in
the name. -/
inductive EscapePlace where
  | outside | letter | opening | name

structure Plain where
  text : List Char
  /-- Whether the brace is written twice and so stands for itself. -/
  doubled : Bool
  rest : List Char

/-- The text before the next brace, after some of its characters, the last of them first. Braces are
written twice only outside of formats. -/
def plainPart (raw inFormat : Bool) (place : EscapePlace) (before : List Char) :
    List Char → Except EmbeddingFault Plain
  | [] => .ok ⟨before.reverse, false, []⟩
  | c :: rest =>
    match place with
    | .name =>
      plainPart raw inFormat (if c = '\x7d' then .outside else .name) (c :: before) rest
    | .opening =>
      plainPart raw inFormat (if c = '\x7b' then .name else .outside) (c :: before) rest
    | _ =>
      let isEscaped := match place with
        | .letter => true
        | _ => false
      if c = '\x7b' || c = '\x7d' then
        if inFormat then .ok ⟨before.reverse, false, c :: rest⟩
        else if rest.head? = some c then .ok ⟨(c :: before).reverse, true, rest.tail⟩
        else if c = '\x7d' then .error .singleBrace
        else .ok ⟨before.reverse, false, c :: rest⟩
      else if isEscaped then
        plainPart raw inFormat (if c = 'N' then .opening else .outside) (c :: before) rest
      else
        let opens := c = '\\' && !raw && !rest.isEmpty
        plainPart raw inFormat (if opens then .letter else .outside) (c :: before) rest

/-! ### What stands in the braces -/

def embeddedBracketLimit : Nat := 200

def isOpening (c : Char) : Bool := c = '(' || c = '[' || c = '\x7b'

def isClosing (c : Char) : Bool := c = ')' || c = ']' || c = '\x7d'

def joinsEquals (c : Char) : Bool := c = '!' || c = '=' || c = '<' || c = '>'

/-- The text of a term, up to the sign that ends it, after some of its characters, the last of them
first. So many of the next characters belong to what is already known. -/
def termPart (quote : Option (Char × Bool)) (brackets : List Char) (skip : Nat) (before : List Char) :
    List Char → Except EmbeddingFault (List Char × List Char)
  | [] =>
    match quote, brackets with
    | some _, _ => .error .unterminated
    | none, bracket :: _ => .error (.unmatched bracket)
    | none, [] => .ok (before.reverse, [])
  | c :: rest =>
    if 0 < skip then termPart quote brackets (skip - 1) (c :: before) rest
    else if c = '\\' then .error .backslash
    else
      let triple := rest.take 2 == [c, c]
      match quote with
      | some (q, isTriple) =>
        if c = q && !isTriple then termPart none brackets 0 (c :: before) rest
        else if c = q && triple then termPart none brackets 2 (c :: before) rest
        else termPart quote brackets 0 (c :: before) rest
      | none =>
        if c = '\'' || c = '"' then
          termPart (some (c, triple)) brackets (if triple then 2 else 0) (c :: before) rest
        else if isOpening c then
          if embeddedBracketLimit ≤ brackets.length then .error .nestedBrackets
          else termPart none (c :: brackets) 0 (c :: before) rest
        else if c = '#' then .error .hash
        else if brackets.isEmpty && joinsEquals c && rest.head? = some '=' then
          termPart none brackets 1 (c :: before) rest
        else if brackets.isEmpty && (c = '!' || c = ':' || c = '\x7d' || c = '=') then
          .ok (before.reverse, c :: rest)
        else if isClosing c then
          match brackets with
          | [] => .error (.unmatched c)
          | opening :: outer =>
            if Scan.closingFor opening = c then termPart none outer 0 (c :: before) rest
            else .error (.mismatched c opening)
        else termPart none brackets 0 (c :: before) rest

def checkTerm (text : List Char) (mark : Char) : Except EmbeddingFault Unit :=
  if text.all fun c => Scan.isBlank c || c = '\n' then
    .error (if mark = '!' || mark = ':' || mark = '=' then .missingBefore mark else .empty)
  else .ok ()

/-- Passes over an equals sign behind a term, which shows the text of the term, and the blanks behind
the sign. -/
def passEquals : List Char → List Char
  | '=' :: rest => rest.dropWhile fun c => c = ' ' || ('\t' ≤ c && c ≤ '\r')
  | cs => cs

def passConversion : List Char → Except EmbeddingFault (List Char)
  | ['!'] => .error .missingBrace
  | '!' :: c :: rest =>
    if c = 's' || c = 'r' || c = 'a' then .ok rest else .error .conversion
  | [] => .error .missingBrace
  | cs => .ok cs

/-! ### All of a string -/

section Strings

variable (raw : Bool) (blame : Cause → Halt) (term : List Char → List Char → Except Halt Node)

def blaming {α : Type} (r : Except EmbeddingFault α) : Except Halt α :=
  r.mapError fun fault => blame (.embedded fault)

def checkPlain (text : List Char) : Except Halt Unit :=
  if raw then .ok ()
  else match Text.unescape 0 text with
    | .ok _ => .ok ()
    | .error fault => .error (blame (.escape fault))

/-- Reads a string with terms in it, within so many formats. The result has how many terms lie within
one another, and what is left, which begins with a brace unless it is the end. -/
def embedded : Nat → Nat → Nat → List Char → Except Halt (Nat × List Char)
  | 0, _, depth, cs => .ok (depth, cs)
  | fuel + 1, level, depth, cs => do
    let plain ← blaming blame (plainPart raw (level != 0) .outside [] cs)
    checkPlain raw blame plain.text
    if plain.doubled then embedded fuel level depth plain.rest
    else match plain.rest with
      | '\x7b' :: inner =>
        if 2 ≤ level then .error (blame (.embedded .nested))
        let (text, rest) ← blaming blame (termPart none [] 0 [] inner)
        let mark ← match rest with
          | mark :: _ => pure mark
          | [] => .error (blame (.embedded .missingBrace))
        blaming blame (checkTerm text mark)
        let node ← term text plain.rest
        let rest ← blaming blame (passConversion (passEquals rest))
        let (formatDepth, rest) ← match rest with
          | [':'] => .error (blame (.embedded .missingBrace))
          | ':' :: format => embedded fuel (level + 1) 1 format
          | _ => pure (0, rest)
        match rest with
        | '\x7d' :: rest => embedded fuel level (max depth (max node.depth formatDepth + 2)) rest
        | _ => .error (blame (.embedded .missingBrace))
      | rest => return (depth, rest)

end Strings

end DeskScript.Literal
