import DeskScript.Syntax.Terminal
import DeskScript.Syntax.Tree

/-!
# Scanner

Reads one word at a time. Blank space and comments stand between words and mean nothing. Which word
is read depends on which words are acceptable: where a name is acceptable, a letter starts a name,
and the name is a reserved word only if that word is acceptable too; otherwise the longest
acceptable word with a fixed spelling is taken, even in front of further letters.
-/

namespace DeskScript.Syntax

structure Token where
  terminal : Terminal
  text : String
  span : Span
  deriving DecidableEq, Repr, Inhabited

structure Cursor where
  position : Position
  rest : List Char
  deriving Repr, Inhabited

namespace Scanner

/-- Space, tab, form feed, carriage return and line feed separate words. -/
def isBlank (c : Char) : Bool :=
  c = ' ' || c = '\t' || c = '\x0c' || c = '\r' || c = '\n'

def isDigit (c : Char) : Bool := '0' ≤ c && c ≤ '9'

def isNameStart (c : Char) : Bool :=
  ('a' ≤ c && c ≤ 'z') || ('A' ≤ c && c ≤ 'Z') || c = '_'

def isNamePart (c : Char) : Bool := isNameStart c || isDigit c

/-- Moves past blank space and comments. A comment runs from `#` to the end of its line. -/
def skip (inComment : Bool) (p : Position) : List Char → Cursor
  | [] => ⟨p, []⟩
  | c :: cs =>
    if inComment then skip (c ≠ '\n') (p.next c) cs
    else if isBlank c then skip false (p.next c) cs
    else if c = '#' then skip true (p.next c) cs
    else ⟨p, c :: cs⟩

theorem skip_length_le (inComment : Bool) (p : Position) (cs : List Char) :
    (skip inComment p cs).rest.length ≤ cs.length := by
  induction cs generalizing inComment p with
  | nil => simp [skip]
  | cons c cs ih =>
    simp only [skip, List.length_cons]
    split
    · exact Nat.le_succ_of_le (ih _ _)
    · split
      · exact Nat.le_succ_of_le (ih _ _)
      · split
        · exact Nat.le_succ_of_le (ih _ _)
        · simp

def digits (cs : List Char) : Nat := (cs.takeWhile isDigit).length

/-- The length of an exponent in front: `e`, a sign or none, digits. -/
def exponentLength : List Char → Nat
  | e :: cs =>
    if e = 'e' || e = 'E' then
      let sign := match cs with
        | '+' :: _ | '-' :: _ => 1
        | _ => 0
      let n := digits (cs.drop sign)
      if n = 0 then 0 else 1 + sign + n
    else 0
  | [] => 0

/-- The length of a number in front: digits with a point, an exponent or both, or plain digits. -/
def numberLength (cs : List Char) : Nat :=
  let whole := digits cs
  match cs.drop whole with
  | '.' :: more =>
    let fraction := digits more
    if whole = 0 && fraction = 0 then 0
    else whole + 1 + fraction + exponentLength (more.drop fraction)
  | more => if whole = 0 then 0 else whole + exponentLength more

/-- The length of a string's text up to and including its closing quote, which stands on the same
line and is not escaped by a backslash. -/
def stringTail : List Char → Option Nat
  | [] => none
  | '"' :: _ => some 1
  | '\n' :: _ => none
  | '\\' :: c :: cs => if c = '\n' then none else (stringTail cs).map (· + 2)
  | _ :: cs => (stringTail cs).map (· + 1)

def firstFixed (words : List (String × Terminal)) (cs : List Char) : Option (Terminal × Nat) :=
  (words.find? fun w => w.1.toList.isPrefixOf cs).map fun w => (w.2, w.1.length)

/-- The kind and length of the word in front, among the acceptable ones. -/
def lexeme (accepts : Terminal → Bool) (cs : List Char) : Option (Terminal × Nat) :=
  match cs with
  | [] => none
  | c :: rest =>
    if accepts .string && c = '"' then (stringTail rest).map fun n => (.string, n + 1)
    else if accepts .number && numberLength cs ≠ 0 then some (.number, numberLength cs)
    else if accepts .name && isNameStart c then
      let word := cs.takeWhile isNamePart
      let reserved := Terminal.keywords.find? fun k => k.1 == String.ofList word && accepts k.2
      some ((reserved.map (·.2)).getD .name, word.length)
    else firstFixed (Terminal.fixed.filter fun w => accepts w.2) cs

end Scanner

inductive Next (limit : Nat) where
  /-- A word, and the cursor after it. -/
  | word (t : Token) (after : Cursor) (shorter : after.rest.length < limit)
  | done
  | stray (place : Cursor)

def Cursor.next (accepts : Terminal → Bool) (cursor : Cursor) : Next cursor.rest.length :=
  match h : Scanner.skip false cursor.position cursor.rest with
  | ⟨_, []⟩ => .done
  | ⟨p, c :: cs⟩ =>
    match Scanner.lexeme accepts (c :: cs) with
    | none => .stray ⟨p, c :: cs⟩
    | some (t, n) =>
      let word := c :: cs.take (n - 1)
      let last := p.after word
      .word ⟨t, String.ofList word, ⟨p, last⟩⟩ ⟨last, cs.drop (n - 1)⟩ (by
        have := Scanner.skip_length_le false cursor.position cursor.rest
        rw [h] at this
        simp only [List.length_cons, List.length_drop] at this ⊢
        omega)

end DeskScript.Syntax
