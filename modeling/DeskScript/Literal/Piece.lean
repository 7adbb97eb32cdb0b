import DeskScript.Literal.Numeral
import DeskScript.Literal.Symbol
import DeskScript.Literal.Term

/-!
# What rules make of their parts

A rule that fits makes something of the pieces that its parts gave, or finds a fault in them.
-/

namespace DeskScript.Literal

inductive Piece where
  | absent
  | token (t : Token)
  | node (n : Node)
  | many (pieces : List Piece)
  /-- An argument with a name, or all entries of a table as such arguments. -/
  | keyword (unpacked : Bool) (value : Node)
  /-- The arguments of a call: those by place, whether each of those by name is unpacked, and
  where they begin. -/
  | arguments (byPlace : List Node) (byName : List Bool) (spot : Spot) (depth : Nat)
  deriving Repr, Inhabited

mutual

def Piece.depth : Piece → Nat
  | absent | token _ => 0
  | node n => n.depth
  | many pieces => Piece.deepest pieces
  | keyword _ n => n.depth + 1
  | arguments _ _ _ depth => depth

def Piece.deepest : List Piece → Nat
  | [] => 0
  | p :: rest => max p.depth (Piece.deepest rest)

end

namespace Piece

def spot : Piece → Spot
  | token t => t.spot
  | node n => n.spot
  | keyword _ n => n.spot
  | arguments _ _ spot _ => spot
  | _ => ⟨0, 0⟩

def term : Piece → Term
  | node n => n.term
  | _ => .other "expression"

def pieces : Piece → List Piece
  | many pieces => pieces
  | _ => []

def terms (p : Piece) : List Term := p.pieces.map term

def placed (p : Piece) : Spot × Term := (p.spot, p.term)

def word : Piece → String
  | token t => t.text
  | _ => ""

end Piece

def pieceAt (ps : List Piece) (i : Nat) : Piece := ps[i]?.getD .absent

structure Site where
  spot : Spot
  /-- How many brackets are open after its last word. -/
  level : Nat
  seen : Spot

inductive Outcome where
  | piece (p : Piece)
  /-- The rule does not apply after all, and no other alternative does. -/
  | nothing
  | blame (cause : Cause) (spot : Spot)
  /-- Strings in a row, which may have terms of their own in them. -/
  | strings (tokens : List Token)

structure Alternative where
  parts : List Part
  build : Site → List Piece → Outcome
  /-- Whether it is only tried in search for a fault. -/
  isSearch : Bool := false

namespace Build

def pick (i : Nat) (_ : Site) (ps : List Piece) : Outcome := .piece (pieceAt ps i)

def all (_ : Site) (ps : List Piece) : Outcome := .piece (.many ps)

def node (make : List Piece → Term) (site : Site) (ps : List Piece) : Outcome :=
  .piece (.node ⟨make ps, site.spot, Piece.deepest ps + 1⟩)

def other (noun : String) : Site → List Piece → Outcome := node fun _ => .other noun

def blame (cause : Cause) (i : Nat) (_ : Site) (ps : List Piece) : Outcome :=
  .blame cause (pieceAt ps i).spot

def blameSeen (cause : Cause) (site : Site) (_ : List Piece) : Outcome := .blame cause site.seen

/-- A fault in words about the term with a number. -/
def blameNoun (cause : String → Cause) (i : Nat) (_ : Site) (ps : List Piece) : Outcome :=
  let p := pieceAt ps i
  .blame (cause p.term.noun) p.spot

def tuple : Site → List Piece → Outcome := node fun ps =>
  .tuple (match ps with
    | first :: .many rest :: _ => first.placed :: rest.map Piece.placed
    | first :: _ => [first.placed]
    | [] => [])

end Build

end DeskScript.Literal
