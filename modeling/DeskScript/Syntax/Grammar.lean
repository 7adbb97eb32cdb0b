import DeskScript.Syntax.Terminal
import DeskScript.Syntax.Tree

/-!
# Grammar

The productions of the language as data, each with the way it shapes the tree: most name a node,
some only pass their one child on, and the repetitions splice their children into the node around
them. Marks and reserved words leave nothing in the tree; names, numbers and strings stay as leaves.
-/

namespace DeskScript.Syntax

inductive Category where
  | start | program | stmt | importStmt | outerStmt | assignStmt | exprStmt | controlStmt
  | builtinCall | builtin | define | parameters | block | loop | expr | choice | disjunction
  | conjunction | comparison | sum | product | atom | items | call | args
  | stmts | moreNames | semicolons | moreAtoms | moreExprs
  deriving DecidableEq, Repr, Inhabited

inductive Symbol where
  | word (t : Terminal)
  | part (c : Category)
  deriving DecidableEq, Repr, Inhabited

inductive Shape where
  | node (l : Label)
  /-- A node labelled by the built-in call that starts the production. -/
  | call
  | pass
  deriving DecidableEq, Repr, Inhabited

structure Production where
  head : Category
  body : List Symbol
  shape : Shape
  deriving DecidableEq, Repr, Inhabited

open Terminal in
/-- The grammar. The position of a production is its number in the parse table. -/
def grammar : List Production :=
  let t := Symbol.word
  let c := Symbol.part
  let p := fun (head : Category) (body : List Symbol) (shape : Shape) =>
    Production.mk head body shape
  [p .start [c .program] (.node .start),
    p .program [c .stmts] (.node .block),
    p .program [] (.node .block),
    p .stmt [c .define] .pass,
    p .stmt [c .loop] .pass,
    p .stmt [c .assignStmt] .pass,
    p .stmt [c .exprStmt] .pass,
    p .stmt [c .outerStmt] .pass,
    p .stmt [c .controlStmt] .pass,
    p .stmt [c .importStmt] .pass,
    p .importStmt [t importWord, t string, t semicolon] (.node .importFile),
    p .outerStmt [t outerWord, t name, t semicolon] (.node .outer),
    p .assignStmt [t name, c .moreNames, t assign, c .expr, t semicolon] (.node .store),
    p .assignStmt [t name, t assign, c .expr, t semicolon] (.node .store),
    p .exprStmt [c .expr, c .semicolons] (.node .expression),
    p .exprStmt [c .choice] (.node .expression),
    p .controlStmt [t breakWord, c .semicolons] (.node .breakLoop),
    p .controlStmt [t returnWord, c .expr, c .semicolons] (.node .giveBack),
    p .controlStmt [t returnWord, c .semicolons] (.node .giveBack),
    p .controlStmt [t continueWord, c .semicolons] (.node .continueLoop),
    p .builtinCall [c .builtin] (.node .builtinCall),
    p .builtin [t callMany, t leftParen, c .args, t rightParen] .call,
    p .builtin [t callOne, t leftParen, c .expr, t rightParen] .call,
    p .builtin [t callEmpty, t leftParen, t rightParen] .call,
    p .builtin [t callNames, t leftParen, t name, t comma, t name, t rightParen] .call,
    p .define [t fnWord, t name, t leftParen, c .parameters, t rightParen, c .block] (.node .define),
    p .define [t fnWord, t name, t leftParen, t rightParen, c .block] (.node .define),
    p .parameters [t name, c .moreNames] (.node .parameters),
    p .parameters [t name] (.node .parameters),
    p .block [t leftBrace, c .stmts, t rightBrace, c .semicolons] (.node .block),
    p .block [t leftBrace, c .stmts, t rightBrace] (.node .block),
    p .block [t leftBrace, t rightBrace, c .semicolons] (.node .block),
    p .block [t leftBrace, t rightBrace] (.node .block),
    p .loop [t whileWord, c .expr, c .block] (.node .loop),
    p .expr [c .disjunction] .pass,
    p .expr [c .choice] .pass,
    p .choice [t ifWord, c .disjunction, c .block, t elseWord, c .block] (.node .choice),
    p .choice [t ifWord, c .disjunction, c .block] (.node .choice),
    p .disjunction [c .conjunction] .pass,
    p .disjunction [c .disjunction, t orOr, c .conjunction] (.node .either),
    p .conjunction [c .comparison] .pass,
    p .conjunction [c .conjunction, t andAnd, c .comparison] (.node .both),
    p .comparison [c .sum] .pass,
    p .comparison [c .sum, t greater, c .sum] (.node .greater),
    p .comparison [c .sum, t less, c .sum] (.node .less),
    p .comparison [c .sum, t greaterEq, c .sum] (.node .greaterEq),
    p .comparison [c .sum, t lessEq, c .sum] (.node .lessEq),
    p .comparison [c .sum, t equal, c .sum] (.node .equal),
    p .comparison [c .sum, t notEqual, c .sum] (.node .notEqual),
    p .sum [c .sum, t plus, c .product] (.node .add),
    p .sum [c .sum, t minus, c .product] (.node .subtract),
    p .sum [t minus, c .sum] (.node .negate),
    p .sum [c .product] .pass,
    p .product [c .product, t times, c .atom] (.node .multiply),
    p .product [c .product, t slash, c .atom] (.node .divide),
    p .product [c .product, t percent, c .atom] (.node .modulo),
    p .product [c .atom] .pass,
    p .atom [c .atom, t leftBracket, c .expr, t rightBracket] (.node .index),
    p .atom [t number] (.node .number),
    p .atom [t string] (.node .string),
    p .atom [c .call] .pass,
    p .atom [c .builtinCall] .pass,
    p .atom [t name] (.node .var),
    p .atom [t leftParen, c .expr, t rightParen] .pass,
    p .atom [t nullWord] (.node .null),
    p .atom [t trueWord] (.node .yes),
    p .atom [t falseWord] (.node .no),
    p .atom [t leftParen, c .atom, c .moreAtoms, t rightParen] (.node .tuple),
    p .atom [t leftBracket, c .items, t rightBracket] (.node .list),
    p .atom [t leftBracket, t rightBracket] (.node .list),
    p .items [c .expr, c .moreExprs] (.node .items),
    p .items [c .expr] (.node .items),
    p .call [t name, t leftParen, c .args, t rightParen] (.node .call),
    p .call [t name, t leftParen, t rightParen] (.node .call),
    p .args [c .expr, c .moreExprs] (.node .args),
    p .args [c .expr] (.node .args),
    p .stmts [c .stmt] .pass,
    p .stmts [c .stmts, c .stmt] .pass,
    p .moreNames [t comma, t name] .pass,
    p .moreNames [c .moreNames, t comma, t name] .pass,
    p .semicolons [t semicolon] .pass,
    p .semicolons [c .semicolons, t semicolon] .pass,
    p .moreAtoms [t comma, c .atom] .pass,
    p .moreAtoms [c .moreAtoms, t comma, c .atom] .pass,
    p .moreExprs [t comma, c .expr] .pass,
    p .moreExprs [c .moreExprs, t comma, c .expr] .pass]

def production? (i : Nat) : Option Production := grammar[i]?

theorem mem_of_production? {i : Nat} {p : Production} (h : production? i = some p) :
    p ∈ grammar :=
  List.mem_of_getElem? h

/-- A measure under which every production's body weighs more than its head, so that a run of
reductions ends. -/
def Symbol.weight : Symbol → Nat
  | word _ => 40
  | part c => match c with
    | .start | .args | .items | .moreNames | .semicolons | .moreAtoms | .moreExprs
    | .parameters | .block => 1
    | .program => 2
    | .stmts => 3
    | .stmt => 4
    | .importStmt | .outerStmt | .assignStmt | .exprStmt | .controlStmt | .define | .loop => 5
    | .expr => 6
    | .disjunction | .choice => 7
    | .conjunction => 8
    | .comparison => 9
    | .sum => 10
    | .product => 11
    | .atom => 12
    | .call | .builtinCall => 13
    | .builtin => 14

def weight : List Symbol → Nat
  | [] => 0
  | s :: rest => s.weight + weight rest

/-- Only an empty program has an empty body, and every other body outweighs its head. -/
theorem weight_head_lt (p : Production) (h : p ∈ grammar) :
    (p.body = [] ∧ p.head = .program) ∨ (Symbol.part p.head).weight < weight p.body := by
  revert p
  decide

end DeskScript.Syntax
