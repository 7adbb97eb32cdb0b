/-!
# Open brackets

What is still open after a text. A closing bracket closes the innermost open one if it matches it,
and is passed over otherwise.
-/

namespace DeskScript.Session

def closer? : Char → Option Char
  | '(' => some ')'
  | '[' => some ']'
  | '{' => some '}'
  | _ => none

def track (opened : List Char) (c : Char) : List Char :=
  if (closer? c).isSome then c :: opened
  else match opened with
    | [] => []
    | b :: rest => if closer? b = some c then rest else opened

def openBrackets (cs : List Char) : List Char := cs.foldl track []

def unclosed (s : String) : Nat := (openBrackets s.toList).length

end DeskScript.Session
