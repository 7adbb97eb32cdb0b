import DeskScript.Syntax.Tree

/-!
# Trees of scripts

What the trees of the language look like: which statements and expressions there are, and which
parts each of them has. Nothing is said of texts here; which words may stand in the leaves is left
open, and so is where the parts of a tree were read.
-/

namespace DeskScript.Syntax

/-- The part that a tree plays in a script. -/
inductive Role where
  | script | block | statement | expression
  /-- The names in a definition, and what a list, a call and a call of a built-in are given. -/
  | parameters | items | args | builtin
  deriving DecidableEq, Repr

/-- The texts that may stand in leaves of each kind. -/
abbrev Vocabulary := LeafKind → String → Prop

/-- A leaf of a kind, with a text that may stand in it. -/
structure Leaf.Of (word : Vocabulary) (k : LeafKind) (l : Leaf) : Prop where
  kind : l.kind = k
  text : word k l.text

theorem Leaf.Of.exists_eq {word : Vocabulary} {k : LeafKind} {l : Leaf} (of : l.Of word k) :
    ∃ text span, l = ⟨k, text, span⟩ ∧ word k text := by
  obtain ⟨kind, text, span⟩ := l
  obtain ⟨rfl, valid⟩ := of
  exact ⟨text, span, rfl, valid⟩

/-- The operators with two operands. -/
def Label.binary : List Label :=
  [either, both, greater, less, greaterEq, lessEq, equal, notEqual, add, subtract, multiply, divide,
    modulo]

/-- The expressions without parts. -/
def Label.constants : List Label := [null, yes, no]

/-- The trees of the language, by the part that they play. Where nothing is given, there is no node for
what is given. -/
inductive Tree.Formed (word : Vocabulary) : Role → Tree → Prop
  | script {span : Option Span} {body : Tree} (block : Formed word .block body) :
      Formed word .script (.node .start span [body])
  | block {span : Option Span} {parts : List Tree} (each : ∀ t ∈ parts, Formed word .statement t) :
      Formed word .block (.node .block span parts)
  | importFile {span : Option Span} {file : Leaf} (named : file.Of word .string) :
      Formed word .statement (.node .importFile span [.leaf file])
  | outer {span : Option Span} {name : Leaf} (named : name.Of word .name) :
      Formed word .statement (.node .outer span [.leaf name])
  | store {span : Option Span} {names : List Leaf} {value : Tree} (some : names ≠ [])
      (named : ∀ n ∈ names, n.Of word .name) (given : Formed word .expression value) :
      Formed word .statement (.node .store span (names.map .leaf ++ [value]))
  | expression {span : Option Span} {value : Tree} (given : Formed word .expression value) :
      Formed word .statement (.node .expression span [value])
  | breakLoop {span : Option Span} : Formed word .statement (.node .breakLoop span [])
  | continueLoop {span : Option Span} : Formed word .statement (.node .continueLoop span [])
  | giveNothing {span : Option Span} : Formed word .statement (.node .giveBack span [])
  | giveBack {span : Option Span} {value : Tree} (given : Formed word .expression value) :
      Formed word .statement (.node .giveBack span [value])
  | define {span : Option Span} {name : Leaf} {body : Tree} (named : name.Of word .name)
      (block : Formed word .block body) :
      Formed word .statement (.node .define span [.leaf name, body])
  | defineWith {span : Option Span} {name : Leaf} {params body : Tree} (named : name.Of word .name)
      (listed : Formed word .parameters params) (block : Formed word .block body) :
      Formed word .statement (.node .define span [.leaf name, params, body])
  | parameters {span : Option Span} {names : List Leaf} (some : names ≠ [])
      (named : ∀ n ∈ names, n.Of word .name) :
      Formed word .parameters (.node .parameters span (names.map .leaf))
  | loop {span : Option Span} {test body : Tree} (given : Formed word .expression test)
      (block : Formed word .block body) : Formed word .statement (.node .loop span [test, body])
  | choice {span : Option Span} {test body : Tree} (given : Formed word .expression test)
      (block : Formed word .block body) : Formed word .expression (.node .choice span [test, body])
  | choiceElse {span : Option Span} {test body other : Tree} (given : Formed word .expression test)
      (block : Formed word .block body) (block' : Formed word .block other) :
      Formed word .expression (.node .choice span [test, body, other])
  | operator {span : Option Span} {label : Label} {left right : Tree} (binary : label ∈ Label.binary)
      (first : Formed word .expression left) (second : Formed word .expression right) :
      Formed word .expression (.node label span [left, right])
  | negate {span : Option Span} {value : Tree} (given : Formed word .expression value) :
      Formed word .expression (.node .negate span [value])
  | index {span : Option Span} {value place : Tree} (given : Formed word .expression value)
      (placed : Formed word .expression place) :
      Formed word .expression (.node .index span [value, place])
  | number {span : Option Span} {l : Leaf} (text : l.Of word .number) :
      Formed word .expression (.node .number span [.leaf l])
  | string {span : Option Span} {l : Leaf} (text : l.Of word .string) :
      Formed word .expression (.node .string span [.leaf l])
  | var {span : Option Span} {l : Leaf} (text : l.Of word .name) :
      Formed word .expression (.node .var span [.leaf l])
  | constant {span : Option Span} {label : Label} (among : label ∈ Label.constants) :
      Formed word .expression (.node label span [])
  | tuple {span : Option Span} {parts : List Tree} (two : 2 ≤ parts.length)
      (each : ∀ t ∈ parts, Formed word .expression t) :
      Formed word .expression (.node .tuple span parts)
  | emptyList {span : Option Span} : Formed word .expression (.node .list span [])
  | list {span : Option Span} {items : Tree} (given : Formed word .items items) :
      Formed word .expression (.node .list span [items])
  | items {span : Option Span} {parts : List Tree} (some : parts ≠ [])
      (each : ∀ t ∈ parts, Formed word .expression t) : Formed word .items (.node .items span parts)
  | call {span : Option Span} {name : Leaf} (named : name.Of word .name) :
      Formed word .expression (.node .call span [.leaf name])
  | callWith {span : Option Span} {name : Leaf} {args : Tree} (named : name.Of word .name)
      (given : Formed word .args args) :
      Formed word .expression (.node .call span [.leaf name, args])
  | args {span : Option Span} {parts : List Tree} (some : parts ≠ [])
      (each : ∀ t ∈ parts, Formed word .expression t) : Formed word .args (.node .args span parts)
  | builtinCall {span : Option Span} {inner : Tree} (called : Formed word .builtin inner) :
      Formed word .expression (.node .builtinCall span [inner])
  | builtinMany {span : Option Span} {b : Builtin} {args : Tree} (takes : b.arguments = .many)
      (given : Formed word .args args) : Formed word .builtin (.node (.builtin b) span [args])
  | builtinOne {span : Option Span} {b : Builtin} {value : Tree} (takes : b.arguments = .one)
      (given : Formed word .expression value) :
      Formed word .builtin (.node (.builtin b) span [value])
  | builtinEmpty {span : Option Span} {b : Builtin} (takes : b.arguments = .empty) :
      Formed word .builtin (.node (.builtin b) span [])
  | builtinNames {span : Option Span} {b : Builtin} {f g : Leaf} (takes : b.arguments = .twoNames)
      (named : f.Of word .name) (named' : g.Of word .name) :
      Formed word .builtin (.node (.builtin b) span [.leaf f, .leaf g])

end DeskScript.Syntax
