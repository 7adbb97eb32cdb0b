import DeskScript.Syntax.Grammar

/-!
# Parse table

One row for each state of the parser: the words it takes and the state that follows, the words on
which it folds a production, and where it goes once a category is folded. A word with an entry in a
row is acceptable there, and the scanner looks for acceptable words only. Where both a shift and a
fold would do, the row holds the shift: a chain of terms belongs to the minus sign before it, and
a block takes the semicolons after it.
-/

namespace DeskScript.Syntax

structure Row where
  /-- The words taken here, with the next state. -/
  shifts : List (Terminal × Nat)
  /-- The words on which a production, given by its number, is folded. -/
  folds : List (List Terminal × Nat)
  /-- The state that follows once a category is folded. -/
  gotos : List (Category × Nat)
  deriving Repr, Inhabited

inductive Action where
  | shift (state : Nat)
  | fold (production : Nat)
  deriving DecidableEq, Repr, Inhabited

namespace Row

def action (r : Row) (t : Terminal) : Option Action :=
  match r.shifts.find? fun e => e.1 == t with
  | some e => some (.shift e.2)
  | none => (r.folds.find? fun e => e.1.contains t).map fun e => .fold e.2

def accepts (r : Row) (t : Terminal) : Bool := (r.action t).isSome

def goto? (r : Row) (c : Category) : Option Nat :=
  (r.gotos.find? fun e => e.1 == c).map (·.2)

end Row

namespace Table

open Terminal

/-- Words that start an operand, other than a name. -/
def unnamedOperands : List (Terminal × Nat) :=
  [(number, 30), (string, 31), (nullWord, 35), (trueWord, 36), (falseWord, 37), (leftParen,
    34), (leftBracket, 38), (callMany, 40), (callOne, 41), (callEmpty, 42), (callNames, 43)]

def operands : List (Terminal × Nat) := (name, 48) :: unnamedOperands

def afterExpr : List Terminal := [semicolon, comma, rightParen, leftBrace, rightBracket]

def afterDisjunct : List Terminal := orOr :: afterExpr

def afterConjunct : List Terminal := andAnd :: afterDisjunct

def afterSum : List Terminal :=
  afterConjunct ++ [greater, less, greaterEq, lessEq, equal, notEqual]

def afterTerm : List Terminal := afterSum ++ [plus, minus]

def afterFactor : List Terminal := afterTerm ++ [times, slash, percent]

def afterAtom : List Terminal := leftBracket :: afterFactor

def afterFirstName : List Terminal :=
  [semicolon, leftBracket, orOr, andAnd, greater, less, greaterEq, lessEq, equal, notEqual, plus,
    minus, times, slash, percent]

def afterFirstAtom : List Terminal :=
  [rightParen, orOr, andAnd, greater, less, greaterEq, lessEq, equal, notEqual, plus, minus, times,
    slash, percent]

def afterStmt : List Terminal :=
  [name, number, string, importWord, outerWord, breakWord, returnWord, continueWord, fnWord,
    whileWord, ifWord, nullWord, trueWord, falseWord, leftParen, rightBrace, leftBracket, minus,
    callMany, callOne, callEmpty, callNames, endOfText]

def afterClosedBlock : List Terminal :=
  afterStmt ++ [comma, rightParen, leftBrace, rightBracket, elseWord]

def afterOpenBlock : List Terminal := semicolon :: afterClosedBlock

def afterElseBlock : List Terminal :=
  afterStmt ++ [semicolon, comma, rightParen, leftBrace, rightBracket]

def exprWords : List (Terminal × Nat) := operands ++ [(ifWord, 23), (minus, 27)]

def stmtWords : List (Terminal × Nat) :=
  unnamedOperands ++ [(name, 14), (importWord, 21), (outerWord, 17), (breakWord, 18),
    (returnWord, 19), (continueWord, 20), (fnWord, 12), (whileWord, 13), (ifWord, 23)]

def callGotos : List (Category × Nat) := [(.call, 32), (.builtinCall, 33), (.builtin, 39)]

def atomGotos : List (Category × Nat) := (.atom, 29) :: callGotos

def productGotos : List (Category × Nat) := (.product, 28) :: atomGotos

def sumGotos : List (Category × Nat) := (.sum, 26) :: productGotos

def comparisonGotos : List (Category × Nat) := (.comparison, 25) :: sumGotos

def conjunctionGotos : List (Category × Nat) := (.conjunction, 24) :: comparisonGotos

def exprGotos : List (Category × Nat) := (.disjunction, 22) :: (.choice, 47) :: conjunctionGotos

def stmtGotos : List (Category × Nat) :=
  [(.define, 5), (.loop, 6), (.assignStmt, 7), (.exprStmt, 8), (.outerStmt, 9), (.controlStmt, 10),
    (.importStmt, 11), (.expr, 15), (.choice, 16), (.disjunction, 22)] ++ conjunctionGotos

@[irreducible]
def rows : Array Row :=
  #[
    ⟨stmtWords ++ [(minus, 27)], [([endOfText], 2)], (.start, 1) :: (.program, 2) :: (.stmts, 3)
      :: (.stmt, 4) :: stmtGotos⟩,
    ⟨[], [], []⟩,
    ⟨[], [([endOfText], 0)], []⟩,
    ⟨stmtWords ++ [(minus, 27)], [([endOfText], 1)], (.stmt, 44) :: stmtGotos⟩,
    ⟨[], [(afterStmt, 76)], []⟩,
    ⟨[], [(afterStmt, 3)], []⟩,
    ⟨[], [(afterStmt, 4)], []⟩,
    ⟨[], [(afterStmt, 5)], []⟩,
    ⟨[], [(afterStmt, 6)], []⟩,
    ⟨[], [(afterStmt, 7)], []⟩,
    ⟨[], [(afterStmt, 8)], []⟩,
    ⟨[], [(afterStmt, 9)], []⟩,
    ⟨[(name, 45)], [], []⟩,
    ⟨exprWords, [], (.expr, 46) :: exprGotos⟩,
    ⟨[(comma, 52), (assign, 50), (leftParen, 51)], [(afterFirstName, 62)], [(.moreNames, 49)]⟩,
    ⟨[(semicolon, 54)], [], [(.semicolons, 53)]⟩,
    ⟨[], [(afterStmt, 15), ([semicolon], 35)], []⟩,
    ⟨[(name, 55)], [], []⟩,
    ⟨[(semicolon, 54)], [], [(.semicolons, 56)]⟩,
    ⟨operands ++ [(ifWord, 23), (semicolon, 54), (minus, 27)], [], (.expr, 57) :: (.semicolons,
      58) :: exprGotos⟩,
    ⟨[(semicolon, 54)], [], [(.semicolons, 59)]⟩,
    ⟨[(string, 60)], [], []⟩,
    ⟨[(orOr, 61)], [(afterExpr, 34)], []⟩,
    ⟨operands ++ [(minus, 27)], [], (.disjunction, 62) :: conjunctionGotos⟩,
    ⟨[(andAnd, 63)], [(afterDisjunct, 38)], []⟩,
    ⟨[], [(afterConjunct, 40)], []⟩,
    ⟨[(greater, 64), (less, 65), (greaterEq, 66), (lessEq, 67), (equal, 68), (notEqual, 69),
      (plus, 70), (minus, 71)], [(afterConjunct, 42)], []⟩,
    ⟨operands ++ [(minus, 27)], [], (.sum, 72) :: productGotos⟩,
    ⟨[(times, 73), (slash, 74), (percent, 75)], [(afterTerm, 52)], []⟩,
    ⟨[(leftBracket, 76)], [(afterFactor, 56)], []⟩,
    ⟨[], [(afterAtom, 58)], []⟩,
    ⟨[], [(afterAtom, 59)], []⟩,
    ⟨[], [(afterAtom, 60)], []⟩,
    ⟨[], [(afterAtom, 61)], []⟩,
    ⟨exprWords, [], [(.expr, 77), (.atom, 78), (.disjunction, 22), (.choice, 47), (.call, 32),
      (.builtinCall, 33), (.conjunction, 24), (.builtin, 39), (.comparison, 25), (.sum, 26),
      (.product, 28)]⟩,
    ⟨[], [(afterAtom, 64)], []⟩,
    ⟨[], [(afterAtom, 65)], []⟩,
    ⟨[], [(afterAtom, 66)], []⟩,
    ⟨operands ++ [(ifWord, 23), (rightBracket, 80), (minus, 27)], [], (.items, 79) :: (.expr, 81)
      :: exprGotos⟩,
    ⟨[], [(afterAtom, 20)], []⟩,
    ⟨[(leftParen, 82)], [], []⟩,
    ⟨[(leftParen, 83)], [], []⟩,
    ⟨[(leftParen, 84)], [], []⟩,
    ⟨[(leftParen, 85)], [], []⟩,
    ⟨[], [(afterStmt, 77)], []⟩,
    ⟨[(leftParen, 86)], [], []⟩,
    ⟨[(leftBrace, 88)], [], [(.block, 87)]⟩,
    ⟨[], [(afterExpr, 35)], []⟩,
    ⟨[(leftParen, 51)], [(afterAtom, 62)], []⟩,
    ⟨[(comma, 90), (assign, 89)], [], []⟩,
    ⟨exprWords, [], (.expr, 91) :: exprGotos⟩,
    ⟨operands ++ [(ifWord, 23), (rightParen, 93), (minus, 27)], [], (.args, 92) :: (.expr, 94) ::
      exprGotos⟩,
    ⟨[(name, 95)], [], []⟩,
    ⟨[(semicolon, 96)], [(afterStmt, 14)], []⟩,
    ⟨[], [(afterOpenBlock, 80)], []⟩,
    ⟨[(semicolon, 97)], [], []⟩,
    ⟨[(semicolon, 96)], [(afterStmt, 16)], []⟩,
    ⟨[(semicolon, 54)], [], [(.semicolons, 98)]⟩,
    ⟨[(semicolon, 96)], [(afterStmt, 18)], []⟩,
    ⟨[(semicolon, 96)], [(afterStmt, 19)], []⟩,
    ⟨[(semicolon, 99)], [], []⟩,
    ⟨operands ++ [(minus, 27)], [], (.conjunction, 100) :: comparisonGotos⟩,
    ⟨[(leftBrace, 88), (orOr, 61)], [], [(.block, 101)]⟩,
    ⟨operands ++ [(minus, 27)], [], (.comparison, 102) :: sumGotos⟩,
    ⟨operands ++ [(minus, 27)], [], (.sum, 103) :: productGotos⟩,
    ⟨operands ++ [(minus, 27)], [], (.sum, 104) :: productGotos⟩,
    ⟨operands ++ [(minus, 27)], [], (.sum, 105) :: productGotos⟩,
    ⟨operands ++ [(minus, 27)], [], (.sum, 106) :: productGotos⟩,
    ⟨operands ++ [(minus, 27)], [], (.sum, 107) :: productGotos⟩,
    ⟨operands ++ [(minus, 27)], [], (.sum, 108) :: productGotos⟩,
    ⟨operands, [], (.product, 109) :: atomGotos⟩,
    ⟨operands, [], (.product, 110) :: atomGotos⟩,
    ⟨[(plus, 70), (minus, 71)], [(afterSum, 51)], []⟩,
    ⟨operands, [], (.atom, 111) :: callGotos⟩,
    ⟨operands, [], (.atom, 112) :: callGotos⟩,
    ⟨operands, [], (.atom, 113) :: callGotos⟩,
    ⟨exprWords, [], (.expr, 114) :: exprGotos⟩,
    ⟨[(rightParen, 115)], [], []⟩,
    ⟨[(comma, 117), (leftBracket, 76)], [(afterFirstAtom, 56)], [(.moreAtoms, 116)]⟩,
    ⟨[(rightBracket, 118)], [], []⟩,
    ⟨[], [(afterAtom, 69)], []⟩,
    ⟨[(comma, 120)], [([rightBracket], 71)], [(.moreExprs, 119)]⟩,
    ⟨exprWords, [], (.args, 121) :: (.expr, 94) :: exprGotos⟩,
    ⟨exprWords, [], (.expr, 122) :: exprGotos⟩,
    ⟨[(rightParen, 123)], [], []⟩,
    ⟨[(name, 124)], [], []⟩,
    ⟨[(name, 127), (rightParen, 126)], [], [(.parameters, 125)]⟩,
    ⟨[], [(afterStmt, 33)], []⟩,
    ⟨stmtWords ++ [(rightBrace, 129), (minus, 27)], [], (.stmts, 128) :: (.stmt, 4) :: stmtGotos⟩,
    ⟨exprWords, [], (.expr, 130) :: exprGotos⟩,
    ⟨[(name, 131)], [], []⟩,
    ⟨[(semicolon, 132)], [], []⟩,
    ⟨[(rightParen, 133)], [], []⟩,
    ⟨[], [(afterAtom, 73)], []⟩,
    ⟨[(comma, 120)], [([rightParen], 75)], [(.moreExprs, 134)]⟩,
    ⟨[], [([comma, assign, rightParen], 78)], []⟩,
    ⟨[], [(afterOpenBlock, 81)], []⟩,
    ⟨[], [(afterStmt, 11)], []⟩,
    ⟨[(semicolon, 96)], [(afterStmt, 17)], []⟩,
    ⟨[], [(afterStmt, 10)], []⟩,
    ⟨[(andAnd, 63)], [(afterDisjunct, 39)], []⟩,
    ⟨[(elseWord, 135)], [(afterElseBlock, 37)], []⟩,
    ⟨[], [(afterConjunct, 41)], []⟩,
    ⟨[(plus, 70), (minus, 71)], [(afterConjunct, 43)], []⟩,
    ⟨[(plus, 70), (minus, 71)], [(afterConjunct, 44)], []⟩,
    ⟨[(plus, 70), (minus, 71)], [(afterConjunct, 45)], []⟩,
    ⟨[(plus, 70), (minus, 71)], [(afterConjunct, 46)], []⟩,
    ⟨[(plus, 70), (minus, 71)], [(afterConjunct, 47)], []⟩,
    ⟨[(plus, 70), (minus, 71)], [(afterConjunct, 48)], []⟩,
    ⟨[(times, 73), (slash, 74), (percent, 75)], [(afterTerm, 49)], []⟩,
    ⟨[(times, 73), (slash, 74), (percent, 75)], [(afterTerm, 50)], []⟩,
    ⟨[(leftBracket, 76)], [(afterFactor, 53)], []⟩,
    ⟨[(leftBracket, 76)], [(afterFactor, 54)], []⟩,
    ⟨[(leftBracket, 76)], [(afterFactor, 55)], []⟩,
    ⟨[(rightBracket, 136)], [], []⟩,
    ⟨[], [(afterAtom, 63)], []⟩,
    ⟨[(comma, 138), (rightParen, 137)], [], []⟩,
    ⟨operands, [], (.atom, 139) :: callGotos⟩,
    ⟨[], [(afterAtom, 68)], []⟩,
    ⟨[(comma, 140)], [([rightBracket], 70)], []⟩,
    ⟨exprWords, [], (.expr, 141) :: exprGotos⟩,
    ⟨[(rightParen, 142)], [], []⟩,
    ⟨[(rightParen, 143)], [], []⟩,
    ⟨[], [(afterAtom, 23)], []⟩,
    ⟨[(comma, 144)], [], []⟩,
    ⟨[(rightParen, 145)], [], []⟩,
    ⟨[(leftBrace, 88)], [], [(.block, 146)]⟩,
    ⟨[(comma, 52)], [([rightParen], 28)], [(.moreNames, 147)]⟩,
    ⟨stmtWords ++ [(rightBrace, 148), (minus, 27)], [], (.stmt, 44) :: stmtGotos⟩,
    ⟨[(semicolon, 54)], [(afterClosedBlock, 32)], [(.semicolons, 149)]⟩,
    ⟨[(semicolon, 150)], [], []⟩,
    ⟨[], [([comma, assign, rightParen], 79)], []⟩,
    ⟨[], [(afterStmt, 13)], []⟩,
    ⟨[], [(afterAtom, 72)], []⟩,
    ⟨[(comma, 140)], [([rightParen], 74)], []⟩,
    ⟨[(leftBrace, 88)], [], [(.block, 151)]⟩,
    ⟨[], [(afterAtom, 57)], []⟩,
    ⟨[], [(afterAtom, 67)], []⟩,
    ⟨operands, [], (.atom, 152) :: callGotos⟩,
    ⟨[(leftBracket, 76)], [([comma, rightParen], 82)], []⟩,
    ⟨exprWords, [], (.expr, 153) :: exprGotos⟩,
    ⟨[], [([comma, rightParen, rightBracket], 84)], []⟩,
    ⟨[], [(afterAtom, 21)], []⟩,
    ⟨[], [(afterAtom, 22)], []⟩,
    ⟨[(name, 154)], [], []⟩,
    ⟨[(leftBrace, 88)], [], [(.block, 155)]⟩,
    ⟨[], [(afterStmt, 26)], []⟩,
    ⟨[(comma, 90)], [([rightParen], 27)], []⟩,
    ⟨[(semicolon, 54)], [(afterClosedBlock, 30)], [(.semicolons, 156)]⟩,
    ⟨[(semicolon, 96)], [(afterClosedBlock, 31)], []⟩,
    ⟨[], [(afterStmt, 12)], []⟩,
    ⟨[], [(afterElseBlock, 36)], []⟩,
    ⟨[(leftBracket, 76)], [([comma, rightParen], 83)], []⟩,
    ⟨[], [([comma, rightParen, rightBracket], 85)], []⟩,
    ⟨[(rightParen, 157)], [], []⟩,
    ⟨[], [(afterStmt, 25)], []⟩,
    ⟨[(semicolon, 96)], [(afterClosedBlock, 29)], []⟩,
    ⟨[], [(afterAtom, 24)], []⟩]

def row (state : Nat) : Row := rows.getD state ⟨[], [], []⟩

end Table

end DeskScript.Syntax
