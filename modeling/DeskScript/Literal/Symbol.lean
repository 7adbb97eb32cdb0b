import DeskScript.Literal.Token

/-!
# Symbols of the grammar

The names of the rules that terms are read by, and what a rule can ask for. Most symbols stand for a
kind of term; others stand for a part of a rule that is repeated or can be left out. Symbols for
faults are only looked for after a text has turned out to be no term.
-/

namespace DeskScript.Literal

inductive Symbol where
  -- Terms
  | whole | embedded | terms | furtherTerm | term | yielding | starTerms | furtherStarTerm | starTerm
  | elements | element | binding | namedTerm
  | disjunction | orPart | conjunction | andPart | inversion
  | comparison | comparisonPart | equal | notEqual | unequalSign | lessEqual | less | greaterEqual
  | greater | notMember | member | notSame | same
  | alternation | exclusion | intersection | shift | sum | product | factor | power | awaited | primary
  | subscripts | subscriptItem | subscript | sliceStep
  | atom | roundBracketed | squareBracketed | braced
  | group | groupContent | strings | list | tuple | tupleContent | set | dict | entries | entry | pair
  -- Functions and calls
  | function | parameters | parameterList | slashPlain | slashDefault | starParameters
  | doubleStarParameter | plainParameter | defaultParameter | anyParameter | parameter | default
  | arguments | argumentList | positional | positionalTerm | keywordTail | keywords | starred
  | keywordOrStarred | keywordOrDouble
  -- Comprehensions
  | clauses | clause | condition | listFor | setFor | generator | dictFor
  | targets | furtherTarget | target | innerTarget | targetAtom | simpleTarget | targetList
  | targetTuple | targetPrimary | targetGoesOn
  -- Faults
  | plainTerm | strayTerm | nameThenString | elseOrColon | oldStatement
  | wrongBinding | equalsOrBinds | noAssignee
  | wrongArguments | generatorOrArguments | generatorArgument | wrongKeyword | constantWord
  | nameEquals
  | wrongComprehension | anyBracket | squareOrBrace | wrongDictFor | wrongTarget | wrongGroup
  | wrongEntries | wrongPair | braceOrComma
  | wrongParameters | parametersHelper | slashParameters | commaOrPlain | wrongStar | colonOrComma
  | colonOrDoubleStar | wrongDoubleStar | anyStar | wrongDefault | roundOrComma
  deriving DecidableEq, Repr, Inhabited

inductive Match where
  | sign (s : String)
  | keyword (s : String)
  /-- Names that are the beginning of a word with a meaning in some places. -/
  | softKeyword
  | kind (k : TokenKind)
  deriving DecidableEq, Repr

def Match.accepts : Match → Token → Bool
  | sign s, t => t.isSign s
  | keyword s, t => t.isKeyword s
  | softKeyword, t => t.kind = .name && softKeywords.any fun w => t.text.toList.isPrefixOf w.toList
  | kind k, t => t.kind = k

inductive Item where
  | symbol (s : Symbol)
  | token (m : Match)
  deriving DecidableEq, Repr

inductive Part where
  | one (i : Item)
  | optional (i : Item)
  | repeated (atLeastOnce : Bool) (i : Item)
  | separated (i : Item)
  /-- What has to come next, or must not, without being passed over. -/
  | ahead (wanted : Bool) (i : Item)
  /-- From here on no other alternative is tried. -/
  | commit
  deriving DecidableEq, Repr

inductive Keeping where
  | never
  | kept
  /-- A result is taken as the beginning of a longer one, as long as there is one. -/
  | growing
  /-- Nothing is kept, and no faults are looked for. -/
  | quiet
  deriving DecidableEq, Repr

def Symbol.keeping : Symbol → Keeping
  | starTerm | term | disjunction | conjunction | inversion | factor | awaited | strings | arguments
  | target | targetAtom | wrongBinding => .kept
  | alternation | exclusion | intersection | shift | sum | product | primary | targetPrimary =>
    .growing
  | plainTerm => .quiet
  | _ => .never

end DeskScript.Literal
