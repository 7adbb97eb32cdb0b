import DeskScript.Literal.Fault

/-!
# The words of literals

The words that a text consists of, each with its place and the number of brackets that are open
after it.
-/

namespace DeskScript.Literal

inductive TokenKind where
  | name | keyword | number | string | sign | lineEnd | indent | dedent | finish
  deriving DecidableEq, Repr, Inhabited

structure Token where
  kind : TokenKind
  text : String
  line : Nat
  column : Nat
  level : Nat
  /-- Whether the end of the text shows when the word is read. -/
  isLast : Bool
  deriving DecidableEq, Repr, Inhabited

def keywords : List String :=
  ["False", "None", "True", "and", "as", "assert", "async", "await", "break", "class", "continue",
    "def", "del", "elif", "else", "except", "finally", "for", "from", "global", "if", "import", "in",
    "is", "lambda", "nonlocal", "not", "or", "pass", "raise", "return", "try", "while", "with", "yield"]

def softKeywords : List String := ["_", "case", "match"]

def longSigns : List String :=
  ["**=", "//=", ">>=", "<<=", "...", "!=", "%=", "&=", "**", "*=", "+=", "-=", "->", "//", "/=",
    ":=", "<<", "<=", "<>", "==", ">=", ">>", "@=", "^=", "|="]

namespace Token

def isSign (t : Token) (s : String) : Bool := t.kind = .sign && t.text == s

def isKeyword (t : Token) (s : String) : Bool := t.kind = .keyword && t.text == s

def spot (t : Token) : Spot := ⟨t.line, t.column⟩

end Token

structure Stop where
  fault : Fault
  /-- Whether the fault counts even if the words before it are at fault too. -/
  final : Bool
  /-- The innermost bracket that is open there, and its line. -/
  bracket : Option (Char × Nat)
  deriving DecidableEq, Repr

/-- The words of a text. Without a stop, the last one says that the text is finished. -/
structure Words where
  tokens : Array Token
  stop : Option Stop
  /-- The column where the text begins, if it stands in a string. -/
  embedding : Option Nat := none
  deriving Repr

/-- Why reading ended: the words break off, something is wrong with them, there is no saying where it
is wrong, or the words lie too deep within one another. -/
inductive Halt where
  | stopped (stop : Stop)
  | faulty (fault : Fault)
  | misplaced
  | overflow

namespace Words

/-- Blames a text for a fault. Within a string, it is said to be a fault of the string, and columns
are counted from where the text begins; there are none before. -/
def blame (w : Words) (cause : Cause) (spot : Spot) : Halt :=
  match w.embedding with
  | none => .faulty ⟨cause, spot.line⟩
  | some start =>
    if spot.column + 1 < start then .misplaced else .faulty ⟨.within cause, spot.line⟩

def spotAt (w : Words) (i : Nat) : Spot := (w.tokens[i]?.map Token.spot).getD ⟨0, 0⟩

end Words

end DeskScript.Literal
