import DeskScript.Syntax.Parser
import Mathlib.Tactic.Common

/-!
# Statements of parsed scripts

Only a node can be checked as a statement, since a leaf has no line of its own. In a parsed script
every statement is a node: names, numbers and strings are the only leaves, and no production leaves
them in a block. The parser folds a production only where its body lies on the stack, so this is a
matter of the grammar and not of the table.
-/

namespace DeskScript.Syntax

/-- Whether a tree is a node. -/
def Tree.isNode : Tree → Bool
  | .node .. => true
  | _ => false

/-- A tree in which the statements of all blocks are nodes. -/
inductive Tree.Checkable : Tree → Prop
  | node {label : Label} {span : Option Span} {children : List Tree}
      (statements : label = .block → ∀ t ∈ children, t.isNode)
      (parts : ∀ t ∈ children, t.Checkable) : Checkable (.node label span children)
  | leaf (l : Leaf) : Checkable (.leaf l)
  | datum (d : Datum) : Checkable (.datum d)

/-- Whether a symbol leaves nothing but nodes. -/
def Symbol.leafless : Symbol → Bool
  | word .name | word .number | word .string | part .moreNames => false
  | _ => true

/-- Whether a production puts no leaf where there should be none. -/
def Production.leafless (p : Production) : Bool :=
  match p.shape with
  | .pass => !(Symbol.part p.head).leafless || p.body.all Symbol.leafless
  | .node l => l ≠ .block || p.body.all Symbol.leafless
  | .call => true

theorem leafless_of_mem_grammar : ∀ p ∈ grammar, p.leafless := by decide

/-- A part whose trees are checkable, and nodes if its symbol says so. -/
structure Part.Sound (part : Part) : Prop where
  checkable : ∀ t ∈ part.forest, t.Checkable
  nodes : part.symbol.leafless → ∀ t ∈ part.forest, t.isNode

theorem Part.mem_forests {t : Tree} {parts : List Part} :
    t ∈ Part.forests parts ↔ ∃ part ∈ parts, t ∈ part.forest := by
  fun_induction Part.forests parts with
  | case1 => simp
  | case2 part => simp
  | case3 part parts _ ih => simp [ih]

theorem Part.mem_children {t : Tree} {parts : List Part} :
    t ∈ Part.children parts ↔ ∃ part ∈ parts, t ∈ part.forest := by
  simp [Part.children, Part.mem_forests]

section

variable {parts : List Part} (sound : ∀ part ∈ parts, part.Sound)
include sound

theorem Part.checkable_children : ∀ t ∈ Part.children parts, t.Checkable := by
  intro t member
  obtain ⟨part, here, there⟩ := Part.mem_children.mp member
  exact (sound part here).checkable t there

theorem Part.nodes_children (leafless : (parts.map (·.symbol)).all Symbol.leafless) :
    ∀ t ∈ Part.children parts, t.isNode := by
  intro t member
  obtain ⟨part, here, there⟩ := Part.mem_children.mp member
  refine (sound part here).nodes ?_ t there
  exact List.all_eq_true.mp leafless part.symbol (List.mem_map_of_mem here)

/-- What a production of the grammar makes of sound parts. -/
theorem Shape.sound_apply {p : Production} (known : p ∈ grammar)
    (body : parts.map (·.symbol) = p.body) (state : Nat) (word : String) (extent : Option Span) :
    Part.Sound ⟨state, .part p.head, word, p.shape.apply parts, extent⟩ := by
  have leafless := leafless_of_mem_grammar p known
  have checkable := Part.checkable_children sound
  cases shape : p.shape with
  | pass =>
    have same : ∀ t, t ∈ Shape.apply .pass parts ↔ t ∈ Part.children parts := by
      simp [Shape.apply, Part.children]
    refine ⟨fun t member => checkable t ((same t).mp member), fun head t member => ?_⟩
    simp only [Production.leafless, shape, Bool.or_eq_true, Bool.not_eq_true'] at leafless
    rcases leafless with not | all
    · exact absurd head (by simp [not])
    · exact Part.nodes_children sound (body ▸ all) t ((same t).mp member)
  | node l =>
    refine ⟨fun t member => ?_, fun _ t member => ?_⟩ <;>
      obtain rfl := List.mem_singleton.mp member
    · refine .node (fun block => ?_) checkable
      simp only [Production.leafless, shape, block, ne_eq, not_true_eq_false, decide_false,
        Bool.false_or] at leafless
      exact Part.nodes_children sound (body ▸ leafless)
    · rfl
  | call =>
    refine ⟨fun t member => ?_, fun _ t member => ?_⟩ <;>
      obtain rfl := List.mem_singleton.mp member
    · refine .node (fun block => ?_) checkable
      cases named : Builtin.ofWord? ((parts.head?.map (·.word)).getD "") <;>
        simp [named] at block
    · rfl

end

theorem Part.sound_ofToken (state : Nat) (t : Token) : (Part.ofToken state t).Sound := by
  constructor
  · intro tree member
    cases h : t.terminal <;>
      simp only [Part.ofToken, h, List.mem_singleton, List.not_mem_nil] at member
    all_goals exact member ▸ .leaf _
  · intro leafless tree member
    cases h : t.terminal <;> simp_all [Part.ofToken, Symbol.leafless]

namespace Parser

/-- A fold keeps the parts of the stack sound. -/
theorem sound_foldNumber? {i : Nat} {stack stack' : Stack} (sound : ∀ part ∈ stack, part.Sound)
    (folded : foldNumber? i stack = some stack') : ∀ part ∈ stack', part.Sound := by
  obtain ⟨p, found, folded⟩ := Option.bind_eq_some_iff.mp folded
  simp only [fold?] at folded
  split at folded
  case isFalse => simp at folded
  case isTrue body =>
    obtain ⟨state, -, rfl⟩ := Option.map_eq_some_iff.mp folded
    intro part member
    rcases List.mem_cons.mp member with rfl | member
    · refine Shape.sound_apply (fun part member => ?_) (mem_of_production? found) body.1 _ _ _
      exact sound part (List.mem_of_mem_take (List.mem_reverse.mp member))
    · exact sound part (List.mem_of_mem_drop member)

/-- What every fold keeps holds while a word is answered: until the word lies on top of the stack, or
until one part is the whole script. -/
theorem feed_keeps {kept : Stack → Prop}
    (folds : ∀ {i : Nat} {stack stack' : Stack}, kept stack → foldNumber? i stack = some stack' → kept stack')
    (t : Token) {stack : Stack} (holds : kept stack) :
    (∀ taken, feed t stack = .taken taken → ∃ state below, kept below ∧ taken = Part.ofToken state t :: below ∧
      (Table.row (Stack.state below)).action t.terminal = some (.shift state)) ∧
      ∀ tree, feed t stack = .complete tree →
        ∃ part : Part, kept [part] ∧ part.symbol = .part .start ∧ part.forest = [tree] := by
  fun_induction feed t stack with
  | case1 stack tree complete =>
    refine ⟨by simp, fun tree' same => ?_⟩
    obtain rfl : tree = tree' := by simpa using same
    unfold complete? at complete
    split at complete
    next part =>
      split at complete
      next symbol forest =>
        have last : t.terminal = .endOfText := by
          by_contra other
          simp [other] at complete
        exact ⟨part, holds, symbol, by simpa [last, forest] using complete⟩
      next => simp at complete
    next => simp at complete
  | case2 => simp
  | case3 stack _ state shift =>
    refine ⟨fun stack' same => ⟨state, stack, holds, ?_, shift⟩, by simp⟩
    simpa using same.symm
  | case4 => simp
  | case5 stack _ i _ stack' folded ih => exact ih (folds holds folded)

theorem checkable_run (stack : Stack) (last : Option Token) (cursor : Cursor)
    (sound : ∀ part ∈ stack, part.Sound) (tree : Tree) (parsed : run stack last cursor = .ok tree) :
    tree.Checkable := by
  have answered (t : Token) {stack : Stack} := @feed_keeps (∀ part ∈ ·, part.Sound) sound_foldNumber? t stack
  fun_induction run stack last cursor with
  | case1 stack last cursor _ t tree' complete =>
    obtain rfl : tree' = tree := by simpa using parsed
    obtain ⟨part, sound, -, forest⟩ := (answered t sound).2 _ complete
    exact (sound part List.mem_cons_self).checkable _ (by simp [forest])
  | case2 => simp at parsed
  | case3 => simp at parsed
  | case4 stack last cursor t after _ _ stack' taken ih =>
    obtain ⟨state, below, sound, rfl, -⟩ := (answered t sound).1 stack' taken
    exact ih (List.forall_mem_cons.mpr ⟨Part.sound_ofToken state t, sound⟩) parsed
  | case5 => simp at parsed

end Parser

/-- A parsed script can be checked from statement to statement. -/
theorem checkable_of_parse {source : String} {tree : Tree} (parsed : parse source = .ok tree) :
    tree.Checkable :=
  Parser.checkable_run [] none _ (by simp) tree parsed

end DeskScript.Syntax

/-! ### What can be tried out -/

section Tried

variable {ε σ α : Type} {x : Except ε α} {r : EStateM.Result ε σ α}

instance Except.decidableExistsOk : Decidable (∃ a, x = .ok a) :=
  match x with
  | .ok a => isTrue ⟨a, rfl⟩
  | .error _ => isFalse (by simp)

instance Except.decidableExistsOkAnd {p : α → Prop} [DecidablePred p] :
    Decidable (∃ a, x = .ok a ∧ p a) :=
  match x with
  | .ok a => decidable_of_iff (p a) (by simp)
  | .error _ => isFalse (by simp)

instance EStateM.Result.decidableExistsOk {p : α → σ → Prop} [∀ a s, Decidable (p a s)] :
    Decidable (∃ a s, r = .ok a s ∧ p a s) :=
  match r with
  | .ok a s => decidable_of_iff (p a s) (by simp)
  | .error .. => isFalse (by simp)

instance EStateM.Result.decidableExistsError {p : ε → σ → Prop} [∀ e s, Decidable (p e s)] :
    Decidable (∃ e s, r = .error e s ∧ p e s) :=
  match r with
  | .ok .. => isFalse (by simp)
  | .error e s => decidable_of_iff (p e s) (by simp)

end Tried
