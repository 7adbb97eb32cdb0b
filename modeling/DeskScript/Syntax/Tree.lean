import DeskScript.Syntax.Builtin
import DeskScript.Text.Point

/-!
# Trees

A parsed script is a tree whose nodes carry a label and whose leaves carry the text of names,
numbers and strings. A tree put together by hand may also have labels and leaves that no parse
produces, and plain data where a subtree belongs; the evaluator says what it makes of those.
-/

namespace DeskScript.Syntax

/-- A place in a text. Lines and columns count from one, in code points. -/
structure Position where
  line : Nat
  column : Nat
  deriving DecidableEq, Repr, Inhabited

namespace Position

def start : Position := ⟨1, 1⟩

/-- The place after one character. Only a line feed ends a line, and a mark takes no place. -/
def next (p : Position) (c : Char) : Position :=
  if c = '\n' then ⟨p.line + 1, 1⟩ else if c = Text.mark then p else ⟨p.line, p.column + 1⟩

def after (p : Position) (cs : List Char) : Position := cs.foldl next p

theorem after_nil (p : Position) : p.after [] = p := rfl

theorem after_append (p : Position) (a b : List Char) : p.after (a ++ b) = (p.after a).after b := by
  simp [after]

end Position

structure Span where
  first : Position
  last : Position
  deriving DecidableEq, Repr, Inhabited

/-- The stretch from the start of one to the end of another; a missing one adds nothing. -/
def Span.join : Option Span → Option Span → Option Span
  | none, b => b
  | a, none => a
  | some a, some b => some ⟨a.first, b.last⟩

inductive Label where
  | start | block | importFile | outer | store | expression | breakLoop | giveBack | continueLoop
  | builtinCall | define | parameters | loop | choice | either | both
  | greater | less | greaterEq | lessEq | equal | notEqual
  | add | subtract | negate | multiply | divide | modulo
  | index | number | string | var | null | yes | no | tuple | list | items | call | args
  | builtin (b : Builtin)
  | other (name : String)
  deriving DecidableEq, Repr, Inhabited

namespace Label

def name : Label → String
  | start => "start"
  | block => "stmt_block"
  | importFile => "import_stmt"
  | outer => "outer_stmt"
  | store => "store_val"
  | expression => "expr_stmt"
  | breakLoop => "break_stmt"
  | giveBack => "return_stmt"
  | continueLoop => "continue_stmt"
  | builtinCall => "built_in_calls"
  | define => "func_def"
  | parameters => "params"
  | loop => "loop_stmt"
  | choice => "conditional_expr"
  | either => "or_op"
  | both => "and_op"
  | greater => "gt"
  | less => "lt"
  | greaterEq => "ge"
  | lessEq => "le"
  | equal => "eq"
  | notEqual => "ne"
  | add => "add"
  | subtract => "sub"
  | negate => "neg"
  | multiply => "mul"
  | divide => "div"
  | modulo => "mod"
  | index => "index"
  | number => "number"
  | string => "string"
  | var => "var"
  | null => "null"
  | yes => "true"
  | no => "false"
  | tuple => "tuple"
  | list => "list"
  | items => "list_items"
  | call => "call"
  | args => "args"
  | builtin b => b.name ++ "_func"
  | other name => name

/-- The labels of parsed nodes that a hand-made tree can name as well. -/
def named : List Label :=
  [block, importFile, outer, store, expression, breakLoop, giveBack, continueLoop, define,
    parameters, loop, choice, either, both, greater, less, greaterEq, lessEq, equal, notEqual,
    add, subtract, negate, multiply, divide, modulo, index, number, string, var, null, yes,
    no, tuple, list, items, call, args] ++ Builtin.all.map builtin

/-- The label a hand-made tree means by a name. -/
def ofName (s : String) : Label :=
  (named.find? fun l => l.name == s).getD (other s)

end Label

inductive LeafKind where
  | name | number | string
  | other (kind : String)
  deriving DecidableEq, Repr, Inhabited

def LeafKind.text : LeafKind → String
  | name => "NAME"
  | number => "NUMBER"
  | string => "STRING"
  | other kind => kind

def LeafKind.ofText (s : String) : LeafKind :=
  if s = "NAME" then name
  else if s = "NUMBER" then number
  else if s = "STRING" then string
  else other s

structure Leaf where
  kind : LeafKind
  text : String
  span : Option Span
  deriving DecidableEq, Repr, Inhabited

inductive Datum where
  | null
  | bool (b : Bool)
  | int (i : Int)
  | float (x : Float)
  | text (s : String)
  deriving Repr, Inhabited

inductive Tree where
  | node (label : Label) (span : Option Span) (children : List Tree)
  | leaf (leaf : Leaf)
  | datum (d : Datum)
  deriving Repr, Inhabited

def Tree.line? : Tree → Option Nat
  | node _ span _ => span.map (·.first.line)
  | leaf l => l.span.map (·.first.line)
  | datum _ => none

end DeskScript.Syntax
