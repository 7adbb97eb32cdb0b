import DeskScript.Number.Reading
import DeskScript.Text.Escape
import DeskScript.Text.Quoted

/-!
# Faults of literals

Why a text is no literal, and the line where that shows.
-/

namespace DeskScript.Literal

inductive EmbeddingFault where
  | missingBrace
  | singleBrace
  | empty
  | missingBefore (mark : Char)
  | backslash
  | hash
  | conversion
  | unmatched (bracket : Char)
  | mismatched (closing opening : Char)
  | nestedBrackets
  | unterminated
  | nested
  deriving DecidableEq, Repr

def EmbeddingFault.text : EmbeddingFault → String
  | missingBrace => "f-string: expecting '\x7d'"
  | singleBrace => "f-string: single '\x7d' is not allowed"
  | empty => "f-string: empty expression not allowed"
  | missingBefore mark => s!"f-string: expression required before '{mark}'"
  | backslash => "f-string expression part cannot include a backslash"
  | hash => "f-string expression part cannot include '#'"
  | conversion => "f-string: invalid conversion character: expected 's', 'r', or 'a'"
  | unmatched bracket => s!"f-string: unmatched '{bracket}'"
  | mismatched closing opening =>
    s!"f-string: closing parenthesis '{closing}' does not match opening parenthesis '{opening}'"
  | nestedBrackets => "f-string: too many nested parenthesis"
  | unterminated => "f-string: unterminated string"
  | nested => "f-string: expressions nested too deeply"

inductive Cause where
  | syntaxFault
  | endOfText
  | indented
  | misaligned
  | afterBackslash
  | character (c : Char)
  /-- A numeral of a kind that is cut short or runs into a name. -/
  | numeral (kind : String)
  | numeralDigit (digit : Char) (kind : String)
  | leadingZeros
  | tooManyDigits (count : Nat)
  | unterminated (triple : Bool) (line : Nat)
  | escape (fault : Text.EscapeFault)
  | byteEscape (offset : Nat)
  | byteCharacter
  | mixedBytes
  | nested
  | unmatched (bracket : Char)
  /-- A closing bracket for another opening one, which may stand on an earlier line. -/
  | mismatched (closing opening : Char) (line : Option Nat)
  | neverClosed (bracket : Char)
  | missingComma
  | missingElse
  | missingColon
  | missingEntry
  | starredEntry
  | starred
  | doubleStarred
  | starredComprehension
  | entryComprehension
  | bareTarget
  | assignment
  /-- An assignment to something of a kind, or with it. -/
  | assignmentTo (noun : String)
  | assignmentWith (noun : String)
  | assignmentArgument
  | keywordArgument (word : String)
  | assignmentTarget (noun : String)
  | bracketedParameters
  | defaultBeforePlain
  | missingDefault
  | slashFirst
  | slashTwice
  | slashAfterStar
  | slashBesideStar
  | bareStar
  | starTwice
  | starDefault
  | doubleStarDefault
  | afterDoubleStar
  | afterNamed (unpacked : Bool)
  | starAfterDouble
  | bareGenerator
  | missingBrackets (name : String)
  /-- Faults of the terms in a string: how they are marked off. -/
  | embedded (fault : EmbeddingFault)
  | within (cause : Cause)
  deriving DecidableEq, Repr

def Cause.text : Cause → String
  | syntaxFault => "invalid syntax"
  | endOfText => "unexpected EOF while parsing"
  | indented => "unexpected indent"
  | misaligned => "unindent does not match any outer indentation level"
  | afterBackslash => "unexpected character after line continuation character"
  | character c =>
    let code := String.ofList ((Text.hex 4 c.toNat).map Char.toUpper)
    if Text.isPrintable c then s!"invalid character '{c}' (U+{code})"
    else s!"invalid non-printable character U+{code}"
  | numeral kind => s!"invalid {kind} literal"
  | numeralDigit digit kind => s!"invalid digit '{digit}' in {kind} literal"
  | leadingZeros =>
    "leading zeros in decimal integer literals are not permitted; use an 0o prefix for octal integers"
  | tooManyDigits count =>
    s!"Exceeds the limit ({Number.digitLimit} digits) for integer string conversion: value has " ++
      s!"{count} digits; use sys.set_int_max_str_digits() to increase the limit - Consider " ++
      "hexadecimal for huge integer literals to avoid decimal conversion limits."
  | unterminated triple line =>
    let kind := if triple then "triple-quoted string" else "string"
    s!"unterminated {kind} literal (detected at line {line})"
  | escape f =>
    "(unicode error) 'unicodeescape' codec can't decode bytes in position " ++
      s!"{f.first}-{f.last}: " ++ f.cause.text
  | byteEscape offset => s!"(value error) invalid \\x escape at position {offset}"
  | byteCharacter => "bytes can only contain ASCII literal characters"
  | mixedBytes => "cannot mix bytes and nonbytes literals"
  | nested => "too many nested parentheses"
  | unmatched bracket => s!"unmatched '{bracket}'"
  | mismatched closing opening line =>
    s!"closing parenthesis '{closing}' does not match opening parenthesis '{opening}'" ++
      match line with
      | some n => s!" on line {n}"
      | none => ""
  | neverClosed bracket => s!"'{bracket}' was never closed"
  | missingComma => "invalid syntax. Perhaps you forgot a comma?"
  | missingElse => "expected 'else' after 'if' expression"
  | missingColon => "':' expected after dictionary key"
  | missingEntry => "expression expected after dictionary key and ':'"
  | starredEntry => "cannot use a starred expression in a dictionary value"
  | starred => "cannot use starred expression here"
  | doubleStarred => "cannot use double starred expression here"
  | starredComprehension => "iterable unpacking cannot be used in comprehension"
  | entryComprehension => "dict unpacking cannot be used in dict comprehension"
  | bareTarget => "did you forget parentheses around the comprehension target?"
  | assignment => "invalid syntax. Maybe you meant '==' or ':=' instead of '='?"
  | assignmentTo noun => s!"cannot assign to {noun} here. Maybe you meant '==' instead of '='?"
  | assignmentWith noun => s!"cannot use assignment expressions with {noun}"
  | assignmentArgument => "expression cannot contain assignment, perhaps you meant \"==\"?"
  | keywordArgument word => s!"cannot assign to {word}"
  | assignmentTarget noun => s!"cannot assign to {noun}"
  | defaultBeforePlain => "non-default argument follows default argument"
  | missingDefault => "expected default value expression"
  | slashFirst => "at least one argument must precede /"
  | slashTwice => "/ may appear only once"
  | slashAfterStar => "/ must be ahead of *"
  | slashBesideStar => "expected comma between / and *"
  | bareStar => "named arguments must follow bare *"
  | starTwice => "* argument may appear only once"
  | starDefault => "var-positional argument cannot have default value"
  | doubleStarDefault => "var-keyword argument cannot have default value"
  | afterDoubleStar => "arguments cannot follow var-keyword argument"
  | afterNamed unpacked =>
    "positional argument follows keyword argument" ++ if unpacked then " unpacking" else ""
  | starAfterDouble => "iterable argument unpacking follows keyword argument unpacking"
  | bareGenerator => "Generator expression must be parenthesized"
  | bracketedParameters => "Lambda expression parameters cannot be parenthesized"
  | missingBrackets name =>
    s!"Missing parentheses in call to '{name}'. Did you mean {name}(...)?"
  | embedded fault => fault.text
  | within cause => "f-string: " ++ cause.text

/-- A place in a text: a line, and how many bytes come before it there. -/
structure Spot where
  line : Nat
  column : Nat
  deriving DecidableEq, Repr, Inhabited

structure Fault where
  cause : Cause
  line : Nat
  deriving DecidableEq, Repr

def Fault.message (f : Fault) : String := f.cause.text ++ s!" (<unknown>, line {f.line})"

def Fault.isIndentation (f : Fault) : Bool := f.cause = .indented || f.cause = .misaligned

end DeskScript.Literal
