import DeskScript.Literal.Piece

/-!
# The grammar of terms

How each symbol is read: the alternatives in the order in which they are tried. The first one that
fits counts. Literals are only a small part of all terms, but a text that is none has to be read as
far as a term goes, because that decides what it is blamed for.
-/

namespace DeskScript.Literal

namespace Part

def sub (s : Symbol) : Part := one (.symbol s)

def sign (s : String) : Part := one (.token (.sign s))

def word (s : String) : Part := one (.token (.keyword s))

def name : Part := one (.token (.kind .name))

def maybe (s : Symbol) : Part := optional (.symbol s)

def maybeComma : Part := optional (.token (.sign ","))

def atLeastOne (s : Symbol) : Part := repeated true (.symbol s)

def several (s : Symbol) : Part := repeated false (.symbol s)

def row (s : Symbol) : Part := separated (.symbol s)

def next (s : String) : Part := ahead true (.token (.sign s))

def notNext (s : String) : Part := ahead false (.token (.sign s))

def before (s : Symbol) : Part := ahead true (.symbol s)

def notBefore (s : Symbol) : Part := ahead false (.symbol s)

end Part

namespace Alternative

open DeskScript.Literal.Part

def of (s : Symbol) : Alternative := ⟨[sub s], Build.pick 0, false⟩

def search (s : Symbol) : Alternative := ⟨[sub s], Build.pick 0, true⟩

def mark (s : String) : Alternative := ⟨[sign s], Build.pick 0, false⟩

def constant (s : String) : Alternative := ⟨[word s], Build.pick 0, false⟩

/-- Parts in a row and what they build, the first of them unless another thing is said. -/
def rule (parts : List Part) (build : Site → List Piece → Outcome := Build.pick 0) : Alternative :=
  ⟨parts, build, false⟩

def operation (left : Symbol) (s : String) (right : Symbol) : Alternative :=
  .rule [sub left, sign s, sub right] (Build.other "expression")

def summation (negative : Bool) (s : String) : Alternative :=
  .rule [sub .sum, sign s, sub .product] <| Build.node fun ps =>
    .sum negative (pieceAt ps 0).term (pieceAt ps 2).term

def signed (negative : Bool) (s : String) : Alternative :=
  .rule [sign s, sub .factor] <| Build.node fun ps =>
    .signed negative (pieceAt ps 1).term

/-- A sign that compares, with the operand after it. -/
def compared (s : String) : Alternative := .rule [sign s, sub .alternation] Build.all

def starred (operand : Symbol) : Alternative :=
  .rule [sign "*", sub operand] <| Build.node fun ps =>
    let p := pieceAt ps 1
    .starred p.spot p.term

def comprehension (opening : String) (head : Symbol) (closing noun : String) : Alternative :=
  .rule [sign opening, sub head, sub .clauses, sign closing] (Build.other noun)

def clause (front : List Part) : Alternative :=
  .rule (front ++ [word "for", sub .targets, word "in", commit, sub .disjunction,
    several .condition]) (Build.other "comprehension")

def parameter (front : List Part) (last : Part) : Alternative :=
  .rule (sub .parameter :: front ++ [last])

end Alternative

namespace Build

def comparison : Site → List Piece → Outcome := node fun ps =>
  match ps with
  | first :: .many (.many (.token t :: _) :: _) :: _ =>
    .comparison (if t.isKeyword "in" then some first.placed else none)
  | _ => .comparison none

/-- A call; the third piece holds its arguments. -/
def call : Site → List Piece → Outcome := node fun ps =>
  .call (pieceAt ps 0).term (match ps with
    | _ :: _ :: .absent :: _ => true
    | _ => false)

def number (site : Site) (ps : List Piece) : Outcome :=
  match numeralValue (pieceAt ps 0).word.toList with
  | .ok (.int n) => node (fun _ => .int n) site ps
  | .ok (.float x) => node (fun _ => .float x) site ps
  | .ok (.imaginary x) => node (fun _ => .imaginary x) site ps
  | .error cause => .blame cause site.spot

def strings (_ : Site) (ps : List Piece) : Outcome :=
  .strings ((pieceAt ps 0).pieces.filterMap fun p =>
    match p with
    | .token t => some t
    | _ => none)

/-- The first piece and those in the third one, in a row. -/
def row (_ : Site) (ps : List Piece) : Outcome :=
  .piece (.many (pieceAt ps 0 :: (pieceAt ps 2).pieces))

def pair (_ : Site) (ps : List Piece) : Outcome :=
  .piece (.many [pieceAt ps 0, pieceAt ps 2])

def unpacked (_ : Site) (ps : List Piece) : Outcome :=
  .piece (.many [.absent, pieceAt ps 1])

def entryTerm (p : Piece) : Option Term × Term :=
  match p with
  | .many [.absent, value] => (none, value.term)
  | .many [key, value] => (some key.term, value.term)
  | p => (none, p.term)

def dict : Site → List Piece → Outcome := node fun ps =>
  .dict ((pieceAt ps 1).pieces.map entryTerm)

def items (make : List (Spot × Term) → Term) : Site → List Piece → Outcome := node fun ps =>
  make ((pieceAt ps 1).pieces.map Piece.placed)

/-- An argument with a name, or a table of such arguments; its value is the piece with a number. -/
def keyword (unpacked : Bool) (i : Nat) (site : Site) (ps : List Piece) : Outcome :=
  match pieceAt ps i with
  | .node n => .piece (.keyword unpacked { n with spot := site.spot })
  | _ => .nothing

def argumentPieces (pieces : List Piece) (site : Site) : Outcome :=
  .piece (.arguments
    (pieces.filterMap fun p => match p with
      | .node n => some n
      | _ => none)
    (pieces.filterMap fun p => match p with
      | .keyword unpacked _ => some unpacked
      | _ => none)
    site.spot (Piece.deepest pieces))

/-- Arguments by place, and those with a name after them. -/
def arguments (site : Site) (ps : List Piece) : Outcome :=
  argumentPieces ((pieceAt ps 0).pieces ++ (pieceAt ps 1).pieces) site

def keywords (_ : Site) (ps : List Piece) : Outcome :=
  .piece (.many ((pieceAt ps 0).pieces ++ (pieceAt ps 2).pieces))

def isStatementName (s : String) : Bool := s = "print" || s = "exec"

/-- A term that is followed by another one within brackets. -/
def strayTerm (site : Site) (ps : List Piece) : Outcome :=
  let a := pieceAt ps 0
  match a.term with
  | .name s => if isStatementName s || site.level = 0 then .nothing else .blame .missingComma a.spot
  | _ => if site.level = 0 then .nothing else .blame .missingComma a.spot

def oldStatement (_ : Site) (ps : List Piece) : Outcome :=
  let a := pieceAt ps 0
  if isStatementName a.word then .blame (.missingBrackets a.word) a.spot else .nothing

def bareGenerator (_ : Site) (ps : List Piece) : Outcome :=
  match pieceAt ps 0 with
  | .arguments (_ :: second :: rest) _ _ _ =>
    .blame .bareGenerator ((second :: rest).getLast?.getD second).spot
  | _ => .nothing

def afterNamed (site : Site) (ps : List Piece) : Outcome :=
  match pieceAt ps 0 with
  | .arguments _ byName _ _ => .blame (.afterNamed (byName.any id)) site.seen
  | _ => .nothing

def constantArgument (_ : Site) (ps : List Piece) : Outcome :=
  let a := pieceAt ps 0
  .blame (.keywordArgument a.word) a.spot

/-- A comprehension that gives values to something that cannot have them. -/
def wrongTarget (_ : Site) (ps : List Piece) : Outcome :=
  let a := pieceAt ps 2
  match a.term.unassignable? a.spot with
  | some (spot, noun) => .blame (.assignmentTarget noun) spot
  | none => .nothing

end Build

open DeskScript.Literal.Part

def callFaultRules : Symbol → List Alternative
  | .wrongArguments =>
    [.rule [sub .argumentList, sign ",", sign "*"] (Build.blame .starAfterDouble 0),
      .rule [sub .term, sub .clauses, sign ",", maybe .generatorOrArguments]
        (Build.blame .bareGenerator 0),
      .rule [name, sign "=", sub .term, sub .clauses] (Build.blame .assignment 0),
      .rule [sub .argumentList, sub .clauses] Build.bareGenerator,
      .rule [sub .argumentList, sign ",", sub .term, sub .clauses] (Build.blame .bareGenerator 2),
      .rule [sub .argumentList, sign ",", sub .argumentList] Build.afterNamed]
  | .generatorOrArguments =>
    [.of .argumentList, .rule [sub .term, sub .clauses] Build.all]
  | .wrongKeyword =>
    [.rule [sub .constantWord, sign "="] Build.constantArgument,
      .rule [name, sign "=", sub .term, sub .clauses] (Build.blame .assignment 0),
      .rule [notBefore .nameEquals, sub .term, sign "="] (Build.blame .assignmentArgument 0)]
  | .constantWord => [.constant "True", .constant "False", .constant "None"]
  | .nameEquals => [.rule [name, sign "="] Build.all]
  | .wrongParameters =>
    [.rule [several .plainParameter, sub .parametersHelper, sub .plainParameter]
        (Build.blame .defaultBeforePlain 2),
      .rule [several .plainParameter, sign "(", row .parameter, maybeComma, sign ")"]
        (Build.blame .bracketedParameters 1),
      .rule [sign "/", sign ","] (Build.blame .slashFirst 0),
      .rule [sub .slashParameters, several .anyParameter, sign "/"] (Build.blame .slashTwice 2),
      .rule [maybe .slashParameters, several .anyParameter, sign "*", sub .commaOrPlain,
        several .anyParameter,
        sign "/"] (Build.blame .slashAfterStar 5),
      .rule [atLeastOne .anyParameter, sign "/", sign "*"] (Build.blame .slashBesideStar 2)]
  | .parametersHelper => [.of .slashDefault, .rule [atLeastOne .defaultParameter] Build.all]
  | .slashParameters => [.of .slashPlain, .of .slashDefault]
  | .commaOrPlain => [.mark ",", .of .plainParameter]
  | .wrongStar =>
    [.rule [sign "*", sub .colonOrComma] (Build.blameSeen .bareStar),
      .rule [sign "*", sub .parameter, sign "="] (Build.blame .starDefault 2),
      .rule [sign "*", sub .commaOrPlain, several .anyParameter, sign "*", sub .commaOrPlain]
        (Build.blame .starTwice 3)]
  | .colonOrComma => [.mark ":", .rule [sign ",", sub .colonOrDoubleStar] Build.all]
  | .colonOrDoubleStar => [.mark ":", .mark "**"]
  | .wrongDoubleStar =>
    [.rule [sign "**", sub .parameter, sign "="] (Build.blame .doubleStarDefault 2),
      .rule [sign "**", sub .parameter, sign ",", sub .parameter] (Build.blame .afterDoubleStar 3),
      .rule [sign "**", sub .parameter, sign ",", sub .anyStar] (Build.blame .afterDoubleStar 3)]
  | .anyStar => [.mark "*", .mark "**", .mark "/"]
  | .wrongDefault => [.rule [sign "=", before .roundOrComma] (Build.blame .missingDefault 0)]
  | .roundOrComma => [.mark ")", .mark ","]
  | _ => []

def faultRules : Symbol → List Alternative
  | .plainTerm =>
    [.rule [sub .disjunction, word "if", sub .disjunction, word "else", sub .term]
        (Build.other "conditional expression"), .of .disjunction, .of .function]
  | .strayTerm =>
    [.rule [notBefore .nameThenString, sub .disjunction, sub .plainTerm] Build.strayTerm,
      .rule [sub .disjunction, word "if", sub .disjunction, notBefore .elseOrColon]
        (Build.blame .missingElse 0)]
  | .nameThenString =>
    [.rule [name, one (.token (.kind .string))] Build.all,
      .rule [one (.token .softKeyword)] Build.all]
  | .elseOrColon => [.constant "else", .mark ":"]
  | .oldStatement => [.rule [name, notNext "(", sub .starTerms] Build.oldStatement]
  | .wrongBinding =>
    [.rule [sub .term, sign ":=", sub .term] (Build.blameNoun .assignmentWith 0),
      .rule [name, sign "=", sub .alternation, notBefore .equalsOrBinds]
        (Build.blame .assignment 0),
      .rule [notBefore .noAssignee, sub .alternation, sign "=", sub .alternation,
        notBefore .equalsOrBinds] (Build.blameNoun .assignmentTo 0)]
  | .equalsOrBinds => [.mark "=", .mark ":="]
  | .noAssignee =>
    [.of .list, .of .tuple, .of .generator, .constant "True", .constant "None", .constant "False"]
  | .wrongComprehension =>
    [.rule [sub .anyBracket, sub .starred, sub .clauses] (Build.blame .starredComprehension 1),
      .rule [sub .squareOrBrace, sub .element, sign ",", sub .elements, sub .clauses]
        (Build.blame .bareTarget 1),
      .rule [sub .squareOrBrace, sub .element, sign ",", sub .clauses] (Build.blame .bareTarget 1)]
  | .anyBracket => [.mark "[", .mark "(", .mark "\x7b"]
  | .squareOrBrace => [.mark "[", .mark "\x7b"]
  | .wrongDictFor =>
    [.rule [sign "\x7b", sign "**", sub .alternation, sub .clauses, sign "\x7d"]
        (Build.blame .entryComprehension 1)]
  | .wrongTarget =>
    [.rule [optional (.token (.keyword "async")), word "for", sub .starTerms] Build.wrongTarget]
  | .wrongGroup =>
    [.rule [sign "(", sub .starred, sign ")"] (Build.blame .starred 1),
      .rule [sign "(", sign "**", sub .term, sign ")"] (Build.blame .doubleStarred 1)]
  | .wrongEntries =>
    [.rule [row .entry, sign ",", sub .wrongPair] Build.all,
      .rule [sub .term, sign ":", sign "*", sub .alternation] (Build.blame .starredEntry 2),
      .rule [sub .term, sign ":", before .braceOrComma] (Build.blame .missingEntry 1)]
  | .wrongPair =>
    [.rule [sub .term, notNext ":"] (Build.blame .missingColon 0),
      .rule [sub .term, sign ":", sign "*", sub .alternation] (Build.blame .starredEntry 2),
      .rule [sub .term, sign ":", before .braceOrComma] (Build.blame .missingEntry 1)]
  | .braceOrComma => [.mark "\x7d", .mark ","]
  | s => callFaultRules s

def comprehensionRules : Symbol → List Alternative
  | .clauses => [.rule [atLeastOne .clause]]
  | .clause => [.clause [word "async"], .clause [], .search .wrongTarget]
  | .condition => [.rule [word "if", sub .disjunction] (Build.pick 1)]
  | .listFor =>
    [.comprehension "[" .namedTerm "]" "list comprehension", .search .wrongComprehension]
  | .setFor =>
    [.comprehension "\x7b" .namedTerm "\x7d" "set comprehension", .search .wrongComprehension]
  | .generator =>
    [.comprehension "(" .positionalTerm ")" "generator expression", .search .wrongComprehension]
  | .dictFor => [.comprehension "\x7b" .pair "\x7d" "dict comprehension", .search .wrongDictFor]
  | .targets =>
    [.rule [sub .target, notNext ","],
      .rule [sub .target, several .furtherTarget, maybeComma] (Build.other "tuple")]
  | .furtherTarget => [.rule [sign ",", sub .target] (Build.pick 1)]
  | .target => [.rule [sign "*", sub .innerTarget] (Build.other "starred"), .of .targetAtom]
  | .innerTarget => [.rule [notNext "*", sub .target]]
  | .targetAtom =>
    [.rule [sub .targetPrimary, sign ".", name, notBefore .targetGoesOn] (Build.other "attribute"),
      .rule [sub .targetPrimary, sign "[", sub .subscripts, sign "]",
        notBefore .targetGoesOn] (Build.other "subscript"),
      .of .simpleTarget]
  | .simpleTarget =>
    [.rule [name] (Build.other "name"),
      .rule [sign "(", sub .targetAtom, sign ")"] (Build.pick 1),
      .rule [sign "(", maybe .targetTuple, sign ")"] (Build.other "tuple"),
      .rule [sign "[", maybe .targetList, sign "]"] (Build.other "list")]
  | .targetList => [.rule [row .target, maybeComma]]
  | .targetTuple =>
    [.rule [sub .target, atLeastOne .furtherTarget, maybeComma] Build.all,
      .rule [sub .target, sign ","] Build.all]
  | .targetPrimary =>
    [.rule [sub .targetPrimary, sign ".", name, before .targetGoesOn] (Build.other "attribute"),
      .rule [sub .targetPrimary, sign "[", sub .subscripts, sign "]", before .targetGoesOn]
        (Build.other "subscript"),
      .rule [sub .targetPrimary, sub .generator,
        before .targetGoesOn] <| Build.other "function call",
      .rule [sub .targetPrimary, sign "(", maybe .arguments, sign ")",
        before .targetGoesOn] <| Build.other "function call",
      .rule [sub .atom, before .targetGoesOn]]
  | .targetGoesOn => [.mark "(", .mark "[", .mark "."]
  | s => faultRules s

def callRules : Symbol → List Alternative
  | .function =>
    [.rule [word "lambda", maybe .parameters, sign ":", sub .term] (Build.other "lambda")]
  | .parameters => [.search .wrongParameters, .of .parameterList]
  | .parameterList =>
    [.rule [sub .slashPlain, several .plainParameter, several .defaultParameter,
        maybe .starParameters] Build.all,
      .rule [sub .slashDefault, several .defaultParameter, maybe .starParameters] Build.all,
      .rule [atLeastOne .plainParameter, several .defaultParameter,
        maybe .starParameters] Build.all,
      .rule [atLeastOne .defaultParameter, maybe .starParameters] Build.all, .of .starParameters]
  | .slashPlain =>
    [.rule [atLeastOne .plainParameter, sign "/", sign ","] Build.all,
      .rule [atLeastOne .plainParameter, sign "/", next ":"] Build.all]
  | .slashDefault =>
    [.rule [several .plainParameter, atLeastOne .defaultParameter, sign "/", sign ","] Build.all,
      .rule [several .plainParameter, atLeastOne .defaultParameter, sign "/", next ":"] Build.all]
  | .starParameters =>
    [.search .wrongStar,
      .rule [sign "*", sub .plainParameter, several .anyParameter,
        maybe .doubleStarParameter] Build.all,
      .rule [sign "*", sign ",", atLeastOne .anyParameter, maybe .doubleStarParameter] Build.all,
      .of .doubleStarParameter]
  | .doubleStarParameter =>
    [.search .wrongDoubleStar, .rule [sign "**", sub .plainParameter] Build.all]
  | .plainParameter => [.parameter [] (sign ","), .parameter [] (next ":")]
  | .defaultParameter =>
    [.parameter [sub .default] (sign ","), .parameter [sub .default] (next ":")]
  | .anyParameter =>
    [.parameter [maybe .default] (sign ","), .parameter [maybe .default] (next ":")]
  | .parameter => [.rule [name] <| Build.node fun ps => .name (pieceAt ps 0).word]
  | .default => [.rule [sign "=", sub .term] (Build.pick 1), .search .wrongDefault]
  | .arguments =>
    [.rule [sub .argumentList, maybeComma, next ")"], .search .wrongArguments]
  | .argumentList =>
    [.rule [row .positional, maybe .keywordTail] Build.arguments,
      .rule [sub .keywords] Build.arguments]
  | .positional => [.of .starred, .rule [sub .positionalTerm, notNext "="]]
  | .positionalTerm => [.of .binding, .rule [sub .term, notNext ":="]]
  | .keywordTail => [.rule [sign ",", sub .keywords] (Build.pick 1)]
  | .keywords =>
    [.rule [row .keywordOrStarred, sign ",", row .keywordOrDouble] Build.keywords,
      .rule [row .keywordOrStarred],
      .rule [row .keywordOrDouble]]
  | .starred => [.starred .term]
  | .keywordOrStarred =>
    [.search .wrongKeyword, .rule [name, sign "=", sub .term] (Build.keyword false 2), .of .starred]
  | .keywordOrDouble =>
    [.search .wrongKeyword, .rule [name, sign "=", sub .term] (Build.keyword false 2),
      .rule [sign "**", sub .term] (Build.keyword true 1)]
  | s => comprehensionRules s

def tightRules : Symbol → List Alternative
  | .alternation => [.operation .alternation "|" .exclusion, .of .exclusion]
  | .exclusion => [.operation .exclusion "^" .intersection, .of .intersection]
  | .intersection => [.operation .intersection "&" .shift, .of .shift]
  | .shift => [.operation .shift "<<" .sum, .operation .shift ">>" .sum, .of .sum]
  | .sum => [.summation false "+", .summation true "-", .of .product]
  | .product =>
    [.operation .product "*" .factor, .operation .product "/" .factor,
      .operation .product "//" .factor, .operation .product "%" .factor,
      .operation .product "@" .factor, .of .factor]
  | .factor =>
    [.signed false "+", .signed true "-",
      .rule [sign "~", sub .factor] (Build.other "expression"), .of .power]
  | .power => [.operation .awaited "**" .factor, .of .awaited]
  | .awaited =>
    [.rule [word "await", sub .primary] (Build.other "await expression"), .of .primary]
  | .primary =>
    [.rule [sub .primary, sign ".", name] (Build.other "attribute"),
      .rule [sub .primary, sub .generator] Build.call,
      .rule [sub .primary, sign "(", maybe .arguments, sign ")"] Build.call,
      .rule [sub .primary, sign "[", sub .subscripts, sign "]"] (Build.other "subscript"),
      .of .atom]
  | .subscripts =>
    [.rule [sub .subscript, notNext ","],
      .rule [row .subscriptItem, maybeComma] (Build.other "tuple")]
  | .subscriptItem => [.of .subscript, .of .starred]
  | .subscript =>
    [.rule [maybe .term, sign ":", maybe .term, maybe .sliceStep] (Build.other "slice"),
      .of .namedTerm]
  | .sliceStep => [.rule [sign ":", maybe .term] (Build.pick 1)]
  | .atom =>
    [.rule [name] <| Build.node fun ps => .name (pieceAt ps 0).word,
      .rule [word "True"] <| Build.node fun _ => .bool true,
      .rule [word "False"] <| Build.node fun _ => .bool false,
      .rule [word "None"] <| Build.node fun _ => .null,
      .rule [ahead true (.token (.kind .string)), sub .strings],
      .rule [one (.token (.kind .number))] Build.number,
      .rule [next "(", sub .roundBracketed],
      .rule [next "[", sub .squareBracketed],
      .rule [next "\x7b", sub .braced],
      .rule [sign "..."] <| Build.node fun _ => .ellipsis]
  | .roundBracketed => [.of .tuple, .of .group, .of .generator]
  | .squareBracketed => [.of .list, .of .listFor]
  | .braced => [.of .dict, .of .set, .of .dictFor, .of .setFor]
  | .group =>
    [.rule [sign "(", sub .groupContent, sign ")"] (Build.pick 1), .search .wrongGroup]
  | .groupContent => [.of .yielding, .of .namedTerm]
  | .strings => [.rule [repeated true (.token (.kind .string))] Build.strings]
  | .list => [.rule [sign "[", maybe .elements, sign "]"] (Build.items .list)]
  | .tuple => [.rule [sign "(", maybe .tupleContent, sign ")"] (Build.items .tuple)]
  | .tupleContent => [.rule [sub .element, sign ",", maybe .elements] Build.row]
  | .set =>
    [.rule [sign "\x7b", sub .elements,
        sign "\x7d"] <| Build.items fun items => .set (items.map (·.2))]
  | .dict =>
    [.rule [sign "\x7b", maybe .entries, sign "\x7d"] Build.dict,
      .rule [sign "\x7b", sub .wrongEntries, sign "\x7d"] Build.dict]
  | .entries => [.rule [row .entry, maybeComma]]
  | .entry => [.rule [sign "**", sub .alternation] Build.unpacked, .of .pair]
  | .pair => [.rule [sub .term, sign ":", sub .term] Build.pair]
  | s => callRules s

/-- All alternatives: those of terms, down to comparisons, and all others. -/
def rules : Symbol → List Alternative
  | .whole =>
    [.rule [sub .terms, repeated false (.token (.kind .lineEnd)), one (.token (.kind .finish))]]
  | .embedded => [.of .starTerms]
  | .terms =>
    [.rule [sub .term, atLeastOne .furtherTerm, maybeComma] Build.tuple,
      .rule [sub .term, sign ","] Build.tuple, .of .term]
  | .furtherTerm => [.rule [sign ",", sub .term] (Build.pick 1)]
  | .term =>
    [.search .strayTerm, .search .oldStatement,
      .rule [sub .disjunction, word "if", sub .disjunction, word "else", sub .term]
        (Build.other "conditional expression"), .of .disjunction, .of .function]
  | .yielding =>
    [.rule [word "yield", word "from", sub .term] (Build.other "yield expression"),
      .rule [word "yield", maybe .starTerms] (Build.other "yield expression")]
  | .starTerms =>
    [.rule [sub .starTerm, atLeastOne .furtherStarTerm, maybeComma] Build.tuple,
      .rule [sub .starTerm, sign ","] Build.tuple, .of .starTerm]
  | .furtherStarTerm => [.rule [sign ",", sub .starTerm] (Build.pick 1)]
  | .starTerm => [.starred .alternation, .of .term]
  | .elements => [.rule [row .element, maybeComma]]
  | .element => [.starred .alternation, .of .namedTerm]
  | .binding =>
    [.rule [name, sign ":=", commit, sub .term] (Build.other "named expression")]
  | .namedTerm =>
    [.of .binding, .search .wrongBinding, .rule [sub .term, notNext ":="]]
  | .disjunction =>
    [.rule [sub .conjunction, atLeastOne .orPart] (Build.other "expression"), .of .conjunction]
  | .orPart => [.rule [word "or", sub .conjunction] (Build.pick 1)]
  | .conjunction =>
    [.rule [sub .inversion, atLeastOne .andPart] (Build.other "expression"), .of .inversion]
  | .andPart => [.rule [word "and", sub .inversion] (Build.pick 1)]
  | .inversion =>
    [.rule [word "not", sub .inversion] (Build.other "expression"), .of .comparison]
  | .comparison =>
    [.rule [sub .alternation, atLeastOne .comparisonPart] Build.comparison, .of .alternation]
  | .comparisonPart =>
    [.of .equal, .of .notEqual, .of .lessEqual, .of .less, .of .greaterEqual, .of .greater,
      .of .notMember, .of .member, .of .notSame, .of .same]
  | .equal => [.compared "=="]
  | .notEqual => [.rule [sub .unequalSign, sub .alternation] Build.all]
  | .unequalSign => [.mark "!="]
  | .lessEqual => [.compared "<="]
  | .less => [.compared "<"]
  | .greaterEqual => [.compared ">="]
  | .greater => [.compared ">"]
  | .notMember => [.rule [word "not", word "in", sub .alternation] Build.all]
  | .member => [.rule [word "in", sub .alternation] Build.all]
  | .notSame => [.rule [word "is", word "not", sub .alternation] Build.all]
  | .same => [.rule [word "is", sub .alternation] Build.all]
  | s => tightRules s

end DeskScript.Literal
