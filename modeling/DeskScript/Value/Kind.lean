/-!
# Kinds of values

What a value is, and the words that messages use for it.
-/

namespace DeskScript

inductive Kind where
  | null | bool | int | float | complex | text | bytes | tuple | list | set | dict | ellipsis | signal
  deriving DecidableEq, Repr, Inhabited

def Kind.name : Kind → String
  | null => "NoneType"
  | bool => "bool"
  | int => "int"
  | float => "float"
  | complex => "complex"
  | text => "str"
  | bytes => "bytes"
  | tuple => "tuple"
  | list => "list"
  | set => "set"
  | dict => "dict"
  | ellipsis => "ellipsis"
  | signal => "ControlSignal"

def Kind.describe : Kind → String
  | signal => "<class 'macroni.interpreter.macroni_interpret.ControlSignal'>"
  | kind => "<class '" ++ kind.name ++ "'>"

end DeskScript
