import DeskScript.Proofs.Scanning

/-!
# The rules of the language

The language as a reader is told it: a rule for every kind of phrase, with optional parts and
repetitions, apart from the productions and the table that the parser works with. A phrase derives a
sequence of words and leaves a row of trees. Words written out in a rule leave nothing, names,
numbers and strings leave themselves, a part that is absent leaves nothing, and a rule leaves one
tree: a node over what its parts left, or, for the rules that only tell one level of precedence or
one kind of statement from another, the only tree that its parts left.
-/

namespace DeskScript.Syntax

/-- The rules by name. -/
inductive Rule where
  | start | program | stmt | importStmt | outerStmt | assignStmt | exprStmt | controlStmt
  | builtinCalls | builtin (b : Builtin) | funcDef | params | block | whileStmt | expr
  | conditional | logicalOr | logicalAnd | comparison | sum | product | atom | listItems
  | call | args
  deriving DecidableEq, Repr

/-- What a rule asks for. -/
inductive Phrase where
  | nothing
  /-- A word written out. -/
  | literal (word : String)
  /-- A word of which only the kind is given. -/
  | leaf (kind : LeafKind)
  | rule (r : Rule)
  | seq (first second : Phrase)
  | maybe (part : Phrase)
  /-- Any number of times, or none. -/
  | many (part : Phrase)
  deriving DecidableEq, Repr

namespace Phrase

def row : List Phrase → Phrase
  | [] => nothing
  | [part] => part
  | part :: parts => seq part (row parts)

/-- Once or more. -/
def several (part : Phrase) : Phrase := seq part (many part)

/-- Once or more, with commas between. -/
def listed (part : Phrase) : Phrase := seq part (many (seq (literal ",") part))

end Phrase

/-- One way to follow a rule, and the label of the node that it leaves, if that is not the rule's
own. -/
structure Alternative where
  body : Phrase
  label : Option Label
  deriving DecidableEq, Repr

namespace Rule

/-- Whether a rule whose parts left one tree leaves that tree, unless an alternative names a node. -/
def inlined : Rule → Bool
  | stmt | expr | conditional | logicalOr | logicalAnd | comparison | sum | product | atom => true
  | _ => false

/-- The label of the node for a rule by itself. -/
def label : Rule → Label
  | start => .start
  | program => .other "program"
  | stmt => .other "stmt"
  | importStmt => .importFile
  | outerStmt => .outer
  | assignStmt => .other "assign_stmt"
  | exprStmt => .expression
  | controlStmt => .other "control_stmt"
  | builtinCalls => .builtinCall
  | builtin b => .other (b.name ++ "_stmt")
  | funcDef => .define
  | params => .parameters
  | block => .other "block"
  | whileStmt => .other "while_stmt"
  | expr => .other "expr"
  | conditional => .choice
  | logicalOr => .other "logical_or"
  | logicalAnd => .other "logical_and"
  | comparison => .other "comparison"
  | sum => .other "sum"
  | product => .other "product"
  | atom => .other "atom"
  | listItems => .items
  | call => .call
  | args => .args

/-- What stands behind the name of a built-in call. -/
def arguments : Arguments → Phrase
  | .many => .row [.literal "(", .rule args, .literal ")"]
  | .one => .row [.literal "(", .rule expr, .literal ")"]
  | .empty => .row [.literal "(", .literal ")"]
  | .twoNames => .row [.literal "(", .leaf .name, .literal ",", .leaf .name, .literal ")"]

/-- An alternative that leaves a node of its own. -/
def as (label : Label) (parts : List Phrase) : Alternative := ⟨.row parts, some label⟩

/-- An alternative that leaves what its rule leaves. -/
def plain (parts : List Phrase) : Alternative := ⟨.row parts, none⟩

/-- Two operands with an operator between. -/
def operator (left : Rule) (word : String) (right : Rule) (label : Label) : Alternative :=
  as label [.rule left, .literal word, .rule right]

/-- The ways to follow a rule. -/
def alternatives : Rule → List Alternative
  | start => [plain [.rule program]]
  | program => [as .block [.many (.rule stmt)]]
  | stmt => [funcDef, whileStmt, assignStmt, exprStmt, outerStmt, controlStmt, importStmt].map
      fun r => plain [.rule r]
  | importStmt => [as .importFile [.literal "import", .leaf .string, .literal ";"]]
  | outerStmt => [as .outer [.literal "outer", .leaf .name, .literal ";"]]
  | assignStmt =>
    [as .store [.leaf .name, .many (.seq (.literal ",") (.leaf .name)), .literal "=", .rule expr,
      .literal ";"]]
  | exprStmt =>
    [as .expression [.rule expr, .several (.literal ";")], as .expression [.rule conditional]]
  | controlStmt =>
    [as .breakLoop [.literal "break", .several (.literal ";")],
      as .giveBack [.literal "return", .maybe (.rule expr), .several (.literal ";")],
      as .continueLoop [.literal "continue", .several (.literal ";")]]
  | builtinCalls => Builtin.all.map fun b => plain [.rule (builtin b)]
  | builtin b => [as (.builtin b) [.literal b.word, arguments b.arguments]]
  | funcDef =>
    [as .define [.literal "fn", .leaf .name, .literal "(", .maybe (.rule params), .literal ")",
      .rule block]]
  | params => [as .parameters [.listed (.leaf .name)]]
  | block =>
    [as .block [.literal "\x7b", .many (.rule stmt), .literal "\x7d", .many (.literal ";")]]
  | whileStmt => [as .loop [.literal "while", .rule expr, .rule block]]
  | expr => [plain [.rule logicalOr], plain [.rule conditional]]
  | conditional =>
    [as .choice [.literal "if", .rule logicalOr, .rule block,
      .maybe (.seq (.literal "else") (.rule block))]]
  | logicalOr => [plain [.rule logicalAnd], operator logicalOr "||" logicalAnd .either]
  | logicalAnd => [plain [.rule comparison], operator logicalAnd "&&" comparison .both]
  | comparison =>
    [plain [.rule sum], operator sum ">" sum .greater, operator sum "<" sum .less,
      operator sum ">=" sum .greaterEq, operator sum "<=" sum .lessEq,
      operator sum "==" sum .equal, operator sum "!=" sum .notEqual]
  | sum =>
    [operator sum "+" product .add, operator sum "-" product .subtract,
      as .negate [.literal "-", .rule sum], plain [.rule product]]
  | product =>
    [operator product "*" atom .multiply, operator product "/" atom .divide,
      operator product "%" atom .modulo, plain [.rule atom]]
  | atom =>
    [as .index [.rule atom, .literal "[", .rule expr, .literal "]"], as .number [.leaf .number],
      as .string [.leaf .string], plain [.rule call], plain [.rule builtinCalls],
      as .var [.leaf .name], plain [.literal "(", .rule expr, .literal ")"],
      as .null [.literal "null"], as .yes [.literal "true"], as .no [.literal "false"],
      as .tuple [.literal "(", .rule atom, .several (.seq (.literal ",") (.rule atom)),
        .literal ")"],
      as .list [.literal "[", .maybe (.rule listItems), .literal "]"]]
  | listItems => [as .items [.listed (.rule expr)]]
  | call => [as .call [.leaf .name, .literal "(", .maybe (.rule args), .literal ")"]]
  | args => [as .args [.listed (.rule expr)]]

/-- The tree that a rule leaves, given the label of the alternative, the text that was read and
what the parts left. -/
def tree (r : Rule) (label : Option Label) (span : Option Span) (parts : List Tree) : Tree :=
  match label, parts with
  | some l, _ => .node l span parts
  | none, [part] => if r.inlined then part else .node r.label span [part]
  | none, _ => .node r.label span parts

end Rule

/-- The kind of leaf that a word is kept as. -/
def Terminal.leafKind? : Terminal → Option LeafKind
  | .name => some .name
  | .number => some .number
  | .string => some .string
  | _ => none

/-- The text from the first to the last of several words. -/
def Token.extent : List Token → Option Span
  | [] => none
  | t :: ts => Span.join (some t.span) (extent ts)

/-- The words that a phrase derives, and the trees that it leaves. -/
inductive Derives : Phrase → List Token → List Tree → Prop
  | nothing : Derives .nothing [] []
  | literal {t : Token} (spelled : (t.text, t.terminal) ∈ Terminal.spelled) :
      Derives (.literal t.text) [t] []
  | leaf {t : Token} {kind : LeafKind} (kept : t.terminal.leafKind? = some kind) :
      Derives (.leaf kind) [t] [.leaf ⟨kind, t.text, some t.span⟩]
  | rule {r : Rule} {way : Alternative} {words : List Token} {trees : List Tree}
      (among : way ∈ r.alternatives) (body : Derives way.body words trees) :
      Derives (.rule r) words [r.tree way.label (Token.extent words) trees]
  | seq {a b : Phrase} {u v : List Token} {f g : List Tree} (first : Derives a u f)
      (second : Derives b v g) : Derives (.seq a b) (u ++ v) (f ++ g)
  | absent {a : Phrase} : Derives (.maybe a) [] []
  | present {a : Phrase} {u : List Token} {f : List Tree} (part : Derives a u f) :
      Derives (.maybe a) u f
  | none {a : Phrase} : Derives (.many a) [] []
  | more {a : Phrase} {u v : List Token} {f g : List Tree} (first : Derives a u f)
      (later : Derives (.many a) v g) : Derives (.many a) (u ++ v) (f ++ g)

namespace Derives

variable {a : Phrase} {u : List Token} {f : List Tree}

/-- One more time. -/
theorem many_concat {v : List Token} {g : List Tree} (before : Derives (.many a) u f)
    (last : Derives a v g) : Derives (.many a) (u ++ v) (f ++ g) := by
  generalize repeated : Phrase.many a = φ at before
  induction before with
  | none =>
    cases repeated
    simpa using more last none
  | more first _ _ ih =>
    cases repeated
    rw [List.append_assoc, List.append_assoc]
    exact .more first (ih rfl)
  | _ => cases repeated

theorem several_iff {w : List Token} {h : List Tree} :
    Derives (.several a) w h ↔ ∃ u v f g, Derives a u f ∧ Derives (.many a) v g ∧
      w = u ++ v ∧ h = f ++ g := by
  constructor
  · intro derives
    cases derives with
    | seq first later => exact ⟨_, _, _, _, first, later, rfl, rfl⟩
  · rintro ⟨u, v, f, g, first, later, rfl, rfl⟩
    exact .seq first later

theorem several_concat {v : List Token} {g : List Tree} (before : Derives (.several a) u f)
    (last : Derives a v g) : Derives (.several a) (u ++ v) (f ++ g) := by
  obtain ⟨_, _, _, _, first, later, rfl, rfl⟩ := several_iff.mp before
  rw [List.append_assoc, List.append_assoc]
  exact .seq first (later.many_concat last)

theorem many_of_several (before : Derives (.several a) u f) : Derives (.many a) u f := by
  obtain ⟨_, _, _, _, first, later, rfl, rfl⟩ := several_iff.mp before
  exact .more first later

/-- A rule leaves one tree. -/
theorem rule_tree {r : Rule} (derives : Derives (.rule r) u f) : ∃ t, f = [t] := by
  cases derives with
  | rule => exact ⟨_, rfl⟩

end Derives

end DeskScript.Syntax
