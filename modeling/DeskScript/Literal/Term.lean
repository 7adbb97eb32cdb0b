import DeskScript.Literal.Token

/-!
# What literals consist of

The terms that a text can be read as. Only the parts that literals consist of are kept, and what
decides how a term is blamed; of any other term there is only the noun that it is called by.
-/

namespace DeskScript.Literal

inductive Term where
  | null
  | bool (b : Bool)
  | int (n : Nat)
  | float (x : Float)
  | imaginary (x : Float)
  | text (s : String)
  | bytes (bs : List UInt8)
  | ellipsis
  | signed (negative : Bool) (operand : Term)
  | sum (negative : Bool) (left right : Term)
  | tuple (items : List (Spot × Term))
  | list (items : List (Spot × Term))
  /-- A table; an entry without a key stands for all entries of another table. -/
  | dict (entries : List (Option Term × Term))
  | set (items : List Term)
  | name (s : String)
  /-- All items of another term, which has a place of its own. -/
  | starred (spot : Spot) (items : Term)
  | call (callee : Term) (isBare : Bool)
  /-- A comparison, with its first operand and the place of that if it asks whether that is in the second. -/
  | comparison (member : Option (Spot × Term))
  | other (noun : String)
  deriving Repr, Inhabited

namespace Term

def noun : Term → String
  | null => "None"
  | bool true => "True"
  | bool false => "False"
  | int _ | float _ | imaginary _ | text _ | bytes _ => "literal"
  | ellipsis => "ellipsis"
  | signed .. | sum .. => "expression"
  | tuple _ => "tuple"
  | list _ => "list"
  | dict _ => "dict literal"
  | set _ => "set display"
  | name _ => "name"
  | starred .. => "starred"
  | call .. => "function call"
  | comparison _ => "comparison"
  | other noun => noun

mutual

/-- What keeps a term from being given a value in turn: its place, and what it is called.
Before `in`, a comparison counts for its first operand. -/
def unassignable? (spot : Spot) : Term → Option (Spot × String)
  | name _ | other "attribute" | other "subscript" | comparison none => none
  | tuple items | list items => unassignableIn? items
  | starred spot items => items.unassignable? spot
  | comparison (some (spot, operand)) => operand.unassignable? spot
  | term => some (spot, term.noun)

def unassignableIn? : List (Spot × Term) → Option (Spot × String)
  | [] => none
  | (spot, term) :: rest => (term.unassignable? spot).or (unassignableIn? rest)

end

end Term

structure Node where
  term : Term
  spot : Spot
  depth : Nat := 1
  deriving Repr, Inhabited

end DeskScript.Literal
