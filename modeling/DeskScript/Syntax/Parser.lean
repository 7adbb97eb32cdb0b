import DeskScript.Syntax.Scanner
import DeskScript.Syntax.Table

/-!
# Parser

A stack of folded parts and a text left to read. The state on top of the stack says which words are
acceptable; a word read is first answered by the folds it calls for and then shifted. A production
is folded only if the parts on the stack are exactly its body, so a tree that comes out is a tree of
the grammar whatever the table holds. Folding ends because each fold makes the stack lighter, and
reading ends because each word makes the text shorter.
-/

namespace DeskScript.Syntax

inductive SyntaxError where
  /-- A word in a place where it cannot stand; its text is empty at the end of the script. -/
  | unexpectedWord (text : String) (position : Position)
  | unexpectedCharacter (n : Nat) (position : Position)
  deriving DecidableEq, Repr, Inhabited

def SyntaxError.message : SyntaxError → String
  | unexpectedWord text p => s!"Unexpected token {text} at line {p.line}, column {p.column}"
  | unexpectedCharacter n p =>
    s!"Unexpected character {Text.single n} at line {p.line}, column {p.column}"

/-- A part of the script that has been folded, or a word. -/
structure Part where
  state : Nat
  symbol : Symbol
  /-- The text of a word; empty for a folded part. -/
  word : String
  /-- What the part leaves in the tree, the latest first. -/
  forest : List Tree
  /-- The text from the first to the last word of the part. -/
  extent : Option Span
  deriving Inhabited

/-- The parts read so far, the latest first. -/
abbrev Stack := List Part

namespace Stack

def state : Stack → Nat
  | [] => 0
  | part :: _ => part.state

def symbols (stack : Stack) : List Symbol := stack.map (·.symbol)

/-- What bounds the folds still possible. The empty stack weighs as much as one part, which leaves
room to fold an empty script. -/
def potential (stack : Stack) : Nat :=
  weight stack.symbols + if stack.isEmpty then 3 else 0

end Stack

namespace Part

def extents (parts : List Part) : Option Span :=
  parts.foldl (fun e part => Span.join e part.extent) none

/-- A word as a part: names, numbers and strings stay in the tree as leaves. -/
def ofToken (state : Nat) (t : Token) : Part where
  state := state
  symbol := .word t.terminal
  word := t.text
  forest := match t.terminal with
    | .name => [.leaf ⟨.name, t.text, some t.span⟩]
    | .number => [.leaf ⟨.number, t.text, some t.span⟩]
    | .string => [.leaf ⟨.string, t.text, some t.span⟩]
    | _ => []
  extent := some t.span

end Part

/-- What several parts leave in the tree, the latest first. A last list is shared and not copied, so
that a repetition grows in one step. -/
def Part.forests : List Part → List Tree
  | [] => []
  | [part] => part.forest
  | part :: parts => part.forest ++ forests parts

def Part.children (parts : List Part) : List Tree := (forests parts.reverse).reverse

def Shape.apply (shape : Shape) (parts : List Part) : List Tree :=
  match shape with
  | .pass => Part.forests parts.reverse
  | .node l => [.node l (Part.extents parts) (Part.children parts)]
  | .call =>
    let word := (parts.head?.map (·.word)).getD ""
    let label := ((Builtin.ofWord? word).map Label.builtin).getD (.other word)
    [.node label (Part.extents parts) (Part.children parts)]

namespace Parser

/-- Folds a production: its body must lie on top of the stack, an empty body on an empty stack. -/
def fold? (p : Production) (stack : Stack) : Option Stack :=
  let n := p.body.length
  let parts := (stack.take n).reverse
  let below := stack.drop n
  if parts.map (·.symbol) = p.body ∧ (n = 0 → stack = []) then
    (Table.row (Stack.state below)).goto? p.head |>.map fun state =>
      ⟨state, .part p.head, "", p.shape.apply parts, Part.extents parts⟩ :: below
  else none

theorem weight_append (a b : List Symbol) : weight (a ++ b) = weight a + weight b := by
  induction a with
  | nil => simp [weight]
  | cons s a ih =>
    simp only [List.cons_append, weight, ih]
    omega

theorem weight_reverse (a : List Symbol) : weight a.reverse = weight a := by
  induction a with
  | nil => rfl
  | cons s a ih =>
    simp only [List.reverse_cons, weight_append, ih, weight]
    omega

theorem potential_fold? {p : Production} (hp : p ∈ grammar) {stack stack' : Stack}
    (h : fold? p stack = some stack') : stack'.potential < stack.potential := by
  unfold fold? at h
  simp only at h
  split at h
  case isFalse => simp at h
  case isTrue hc =>
    obtain ⟨hbody, hempty⟩ := hc
    obtain ⟨state, -, rfl⟩ := Option.map_eq_some_iff.1 h
    have split : weight stack.symbols
        = weight p.body + weight (Stack.symbols (stack.drop p.body.length)) := by
      conv => lhs; rw [← List.take_append_drop p.body.length stack]
      have : Stack.symbols (stack.take p.body.length) = p.body.reverse := by
        simpa [Stack.symbols, List.map_reverse] using congrArg List.reverse hbody
      simp only [Stack.symbols, List.map_append, weight_append] at this ⊢
      rw [this, weight_reverse]
    have top : weight (Stack.symbols (⟨state, .part p.head, "", p.shape.apply
          (stack.take p.body.length).reverse, Part.extents (stack.take p.body.length).reverse⟩
          :: stack.drop p.body.length))
        = (Symbol.part p.head).weight + weight (Stack.symbols (stack.drop p.body.length)) := by
      simp [Stack.symbols, weight]
    simp only [Stack.potential, top, split, List.isEmpty_cons]
    rcases weight_head_lt p hp with ⟨hnil, hhead⟩ | hlt
    · have : stack = [] := hempty (by simp [hnil])
      subst this
      simp [hnil, hhead, weight, Symbol.weight, Stack.symbols]
    · simp only [Bool.false_eq_true, if_false]
      omega

def foldNumber? (i : Nat) (stack : Stack) : Option Stack :=
  (production? i).bind fun p => fold? p stack

theorem potential_foldNumber? {i : Nat} {stack stack' : Stack}
    (h : foldNumber? i stack = some stack') : stack'.potential < stack.potential := by
  obtain ⟨p, hp, hf⟩ := Option.bind_eq_some_iff.1 h
  exact potential_fold? (mem_of_production? hp) hf

inductive Answer where
  /-- The folds it called for are done and the word is on the stack. -/
  | taken (stack : Stack)
  | complete (tree : Tree)
  | refused

/-- The finished tree, once the end of the text has folded everything into one script. -/
def complete? (t : Token) : Stack → Option Tree
  | [part] =>
    match part.symbol, part.forest with
    | .part .start, [tree] => if t.terminal = .endOfText then some tree else none
    | _, _ => none
  | _ => none

set_option maxRecDepth 1000 in
def feed (t : Token) (stack : Stack) : Answer :=
  match complete? t stack with
  | some tree => .complete tree
  | none =>
    match (Table.row (Stack.state stack)).action t.terminal with
    | none => .refused
    | some (.shift state) => .taken (Part.ofToken state t :: stack)
    | some (.fold i) =>
      match _h : foldNumber? i stack with
      | none => .refused
      | some stack' => feed t stack'
termination_by Stack.potential stack
decreasing_by exact potential_foldNumber? _h

def endToken (last : Option Token) : Token :=
  let p := (last.map (·.span.first)).getD .start
  ⟨.endOfText, "", ⟨p, p⟩⟩

/-- The error for a text that goes on with no acceptable word: a word of the language out of place,
or a code point that starts none. -/
def strayError (cursor : Cursor) : SyntaxError :=
  match cursor.next fun _ => true with
  | .word t _ _ => .unexpectedWord t.text t.span.first
  | _ => .unexpectedCharacter ((Text.pointsOf (cursor.rest.take 2)).headD 0) cursor.position

def run (stack : Stack) (last : Option Token) (cursor : Cursor) : Except SyntaxError Tree :=
  match cursor.next (Table.row (Stack.state stack)).accepts with
  | .done =>
    let t := endToken last
    match feed t stack with
    | .complete tree => .ok tree
    | _ => .error (.unexpectedWord t.text t.span.first)
  | .stray place => .error (strayError place)
  | .word t after _ =>
    match feed t stack with
    | .taken stack' => run stack' (some t) after
    | _ => .error (.unexpectedWord t.text t.span.first)
termination_by cursor.rest.length

end Parser

def parse (source : String) : Except SyntaxError Tree :=
  Parser.run [] none ⟨.start, source.toList⟩

end DeskScript.Syntax
