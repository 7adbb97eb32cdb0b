import DeskScript.Syntax.Builtin

/-!
# Terminals

The kinds of word a script is made of. Names, numbers and strings keep their text; every other
terminal but the built-in calls is written in one way only. Built-in calls fall into four
terminals, by the arguments they take, since the grammar treats all calls of one kind alike.
-/

namespace DeskScript.Syntax

inductive Terminal where
  | name | number | string
  | importWord | outerWord | breakWord | returnWord | continueWord | fnWord | whileWord
  | ifWord | elseWord | nullWord | trueWord | falseWord
  | semicolon | comma | assign | leftParen | rightParen | leftBrace | rightBrace
  | leftBracket | rightBracket | orOr | andAnd | greater | less | greaterEq | lessEq
  | equal | notEqual | plus | minus | times | slash | percent
  | callMany | callOne | callEmpty | callNames
  | endOfText
  deriving DecidableEq, Repr, Inhabited

namespace Terminal

def keywords : List (String × Terminal) :=
  [("import", importWord), ("outer", outerWord), ("break", breakWord), ("return", returnWord),
    ("continue", continueWord), ("fn", fnWord), ("while", whileWord), ("if", ifWord),
    ("else", elseWord), ("null", nullWord), ("true", trueWord), ("false", falseWord)]

def marks : List (String × Terminal) :=
  [("||", orOr), ("&&", andAnd), (">=", greaterEq), ("<=", lessEq), ("==", equal),
    ("!=", notEqual), (";", semicolon), (",", comma), ("=", assign), ("(", leftParen),
    (")", rightParen), ("\x7b", leftBrace), ("\x7d", rightBrace), ("[", leftBracket),
    ("]", rightBracket), (">", greater), ("<", less), ("+", plus), ("-", minus), ("*", times),
    ("/", slash), ("%", percent)]

def ofArguments : Arguments → Terminal
  | .many => callMany
  | .one => callOne
  | .empty => callEmpty
  | .twoNames => callNames

def calls : List (String × Terminal) :=
  Builtin.all.map fun b => (b.word, ofArguments b.arguments)

/-- Every terminal with a fixed spelling, so ordered that a word comes before its own beginnings:
trying them in this order finds the longest. -/
def fixed : List (String × Terminal) :=
  let words := calls ++ keywords ++ marks
  let longest := words.foldl (fun n w => max n w.1.length) 0
  (List.range (longest + 1)).reverse.flatMap fun n => words.filter (·.1.length = n)

end Terminal

end DeskScript.Syntax
