import DeskScript.Syntax.Tree
import DeskScript.Number.Layout
import DeskScript.Text.Quoted

/-!
# Trees as text

How a tree is shown where the memory of a script is listed, and what a part of a tree is called
where a name is expected.
-/

namespace DeskScript.Syntax

def Datum.quoted : Datum → String
  | null => "None"
  | bool b => if b then "True" else "False"
  | int i => toString i
  | float x => Number.plain x
  | text s => Text.quoted s

def Datum.describe : Datum → String
  | null => "<class 'NoneType'>"
  | bool _ => "<class 'bool'>"
  | int _ => "<class 'int'>"
  | float _ => "<class 'float'>"
  | text _ => "<class 'str'>"

/-- The name of a label as it is shown: two of them come from rules without a name of their own. -/
def Label.quoted : Label → String
  | start => "Token('RULE', 'start')"
  | builtinCall => "Token('RULE', 'built_in_calls')"
  | l => Text.quoted l.name

def Leaf.quoted (l : Leaf) : String :=
  "Token(" ++ Text.quoted l.kind.text ++ ", " ++ Text.quoted l.text ++ ")"

mutual

def Tree.quoted : Tree → String
  | .node label _ children =>
    "Tree(" ++ label.quoted ++ ", [" ++ ", ".intercalate (Tree.quotedAll children) ++ "])"
  | .leaf l => l.quoted
  | .datum d => d.quoted

def Tree.quotedAll : List Tree → List String
  | [] => []
  | t :: rest => Tree.quoted t :: Tree.quotedAll rest

end

def Tree.text : Tree → String
  | .leaf l => l.text
  | .datum (.text s) => s
  | t => t.quoted

def Tree.isName : Tree → Bool
  | .leaf l => l.kind = .name
  | _ => false

end DeskScript.Syntax
