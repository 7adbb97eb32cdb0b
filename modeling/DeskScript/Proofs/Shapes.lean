import DeskScript.Proofs.Derivations
import DeskScript.Proofs.Formed

/-!
# The trees of scripts that are parsed

What a rule of the language leaves is a tree of the language, in the role that belongs to the rule.
So every tree that the parser builds is one of those that `Tree.Formed` lists.
-/

namespace DeskScript.Syntax

/-- Any text in any leaf. -/
def Vocabulary.any : Vocabulary := fun _ _ => True

/-- The role of the trees that a rule leaves. -/
def Rule.role : Rule → Role
  | start => .script
  | program | block => .block
  | stmt | importStmt | outerStmt | assignStmt | exprStmt | controlStmt | funcDef | whileStmt =>
    .statement
  | builtin _ => .builtin
  | params => .parameters
  | listItems => .items
  | args => .args
  | _ => .expression

/-- What a phrase can leave, read off its parts. -/
def Phrase.Leaves : Phrase → List Tree → Prop
  | nothing, ts => ts = []
  | literal _, ts => ts = []
  | leaf kind, ts => ∃ l : Leaf, l.Of .any kind ∧ ts = [.leaf l]
  | rule r, ts => ∃ t : Tree, t.Formed .any r.role ∧ ts = [t]
  | seq a b, ts => ∃ f g, a.Leaves f ∧ b.Leaves g ∧ ts = f ++ g
  | maybe a, ts => ts = [] ∨ a.Leaves ts
  | many a, ts => ∃ rows : List (List Tree), (∀ row ∈ rows, a.Leaves row) ∧ ts = rows.flatten

variable {word : String}

namespace Phrase

variable {ts : List Tree}

theorem leaves_many_literal (leaves : (many (literal word)).Leaves ts) : ts = [] := by
  obtain ⟨rows, each, rfl⟩ := leaves
  exact List.flatten_eq_nil_iff.mpr each

theorem leaves_several_literal (leaves : (several (literal word)).Leaves ts) : ts = [] := by
  obtain ⟨f, g, rfl, later, rfl⟩ := leaves
  exact leaves_many_literal later

theorem leaves_many_rule {r : Rule} (leaves : (many (rule r)).Leaves ts) :
    ∀ t ∈ ts, t.Formed .any r.role := by
  obtain ⟨rows, each, rfl⟩ := leaves
  intro t member
  obtain ⟨row, here, inside⟩ := List.mem_flatten.mp member
  obtain ⟨t', formed, rfl⟩ := each row here
  exact List.mem_singleton.mp inside ▸ formed

/-- Parts after commas. -/
theorem leaves_many_commas {a : Phrase} (leaves : (many (seq (literal ",") a)).Leaves ts) :
    (many a).Leaves ts := by
  obtain ⟨rows, each, rfl⟩ := leaves
  refine ⟨rows, fun row member => ?_, rfl⟩
  obtain ⟨f, g, rfl, part, rfl⟩ := each row member
  exact part

theorem leaves_many_leaf {kind : LeafKind} (leaves : (many (leaf kind)).Leaves ts) :
    ∃ ls : List Leaf, (∀ l ∈ ls, l.Of .any kind) ∧ ts = ls.map .leaf := by
  obtain ⟨rows, each, rfl⟩ := leaves
  induction rows with
  | nil => exact ⟨[], by simp, rfl⟩
  | cons row rows ih =>
    obtain ⟨ls, named, later⟩ := ih fun row member => each row (List.mem_cons_of_mem _ member)
    obtain ⟨l, first, rfl⟩ := each row List.mem_cons_self
    exact ⟨l :: ls, List.forall_mem_cons.mpr ⟨first, named⟩, by rw [List.flatten_cons, later]; rfl⟩

/-- Expressions with commas between them. -/
theorem leaves_listed_rule {r : Rule} (leaves : (listed (rule r)).Leaves ts) :
    ts ≠ [] ∧ ∀ t ∈ ts, t.Formed .any r.role := by
  obtain ⟨f, g, ⟨t, first, rfl⟩, later, rfl⟩ := leaves
  exact ⟨List.cons_ne_nil t g,
    List.forall_mem_cons.mpr ⟨first, leaves_many_rule (leaves_many_commas later)⟩⟩

end Phrase

namespace Rule

open Phrase

variable {ts : List Tree}

theorem formed_operator {left right : Rule}
    (operands : left.role = .expression ∧ right.role = .expression) {label : Label}
    (binary : label ∈ Label.binary) (leaves : (operator left word right label).body.Leaves ts)
    (span : Option Span) : (Tree.node label span ts).Formed .any .expression := by
  obtain ⟨_, _, ⟨a, first, rfl⟩, ⟨_, _, rfl, ⟨b, second, rfl⟩, rfl⟩, rfl⟩ := leaves
  rw [operands.1] at first
  rw [operands.2] at second
  exact .operator binary first second

/-- A rule that only passes on what another leaves. -/
theorem formed_plain {r inner : Rule} (inlined : r.inlined) (same : inner.role = r.role)
    (leaves : (plain [.rule inner]).body.Leaves ts) (span : Option Span) :
    (r.tree none span ts).Formed .any r.role := by
  obtain ⟨t, formed, rfl⟩ := leaves
  rw [tree, if_pos inlined, ← same]
  exact formed

theorem formed_builtin {b : Builtin} (leaves : (arguments b.arguments).Leaves ts) (span : Option Span) :
    (Tree.node (.builtin b) span ts).Formed .any .builtin := by
  cases takes : b.arguments with
  | many =>
    rw [takes] at leaves
    obtain ⟨_, _, rfl, ⟨_, _, ⟨t, given, rfl⟩, rfl, rfl⟩, rfl⟩ := leaves
    exact .builtinMany takes given
  | one =>
    rw [takes] at leaves
    obtain ⟨_, _, rfl, ⟨_, _, ⟨t, given, rfl⟩, rfl, rfl⟩, rfl⟩ := leaves
    exact .builtinOne takes given
  | empty =>
    rw [takes] at leaves
    obtain ⟨_, _, rfl, rfl, rfl⟩ := leaves
    exact .builtinEmpty takes
  | twoNames =>
    rw [takes] at leaves
    obtain ⟨_, _, rfl, ⟨_, _, ⟨f, named, rfl⟩, ⟨_, _, rfl, ⟨_, _, ⟨g, named', rfl⟩, rfl, rfl⟩, rfl⟩,
      rfl⟩, rfl⟩ := leaves
    exact .builtinNames takes named named'

/-- What an alternative of a rule leaves is a tree of the rule's role. -/
theorem formed {r : Rule} {way : Alternative} (among : way ∈ r.alternatives)
    (leaves : way.body.Leaves ts) (span : Option Span) : (r.tree way.label span ts).Formed .any r.role := by
  cases r with
  | start =>
    obtain rfl := List.mem_singleton.mp among
    obtain ⟨t, formed, rfl⟩ := leaves
    exact .script formed
  | program =>
    obtain rfl := List.mem_singleton.mp among
    exact .block (leaves_many_rule leaves)
  | stmt =>
    simp only [alternatives, List.map_cons, List.map_nil, List.mem_cons, List.not_mem_nil, or_false] at among
    rcases among with rfl | rfl | rfl | rfl | rfl | rfl | rfl <;> exact formed_plain (r := .stmt) rfl rfl leaves span
  | importStmt =>
    obtain rfl := List.mem_singleton.mp among
    obtain ⟨_, _, rfl, ⟨_, _, ⟨l, named, rfl⟩, rfl, rfl⟩, rfl⟩ := leaves
    exact .importFile named
  | outerStmt =>
    obtain rfl := List.mem_singleton.mp among
    obtain ⟨_, _, rfl, ⟨_, _, ⟨l, named, rfl⟩, rfl, rfl⟩, rfl⟩ := leaves
    exact .outer named
  | assignStmt =>
    obtain rfl := List.mem_singleton.mp among
    obtain ⟨_, _, ⟨l, named, rfl⟩, ⟨_, _, others, ⟨_, _, rfl, ⟨_, _, ⟨e, given, rfl⟩, rfl, rfl⟩, rfl⟩, rfl⟩,
      rfl⟩ := leaves
    obtain ⟨ls, more, rfl⟩ := leaves_many_leaf (leaves_many_commas others)
    exact .store (List.cons_ne_nil l ls) (List.forall_mem_cons.mpr ⟨named, more⟩) given
  | exprStmt =>
    simp only [alternatives, List.mem_cons, List.not_mem_nil, or_false] at among
    rcases among with rfl | rfl
    · obtain ⟨_, _, ⟨e, given, rfl⟩, marks, rfl⟩ := leaves
      rw [leaves_several_literal marks]
      exact .expression given
    · obtain ⟨e, given, rfl⟩ := leaves
      exact .expression given
  | controlStmt =>
    simp only [alternatives, List.mem_cons, List.not_mem_nil, or_false] at among
    rcases among with rfl | rfl | rfl
    · obtain ⟨_, _, rfl, marks, rfl⟩ := leaves
      rw [leaves_several_literal marks]
      exact .breakLoop
    · obtain ⟨_, _, rfl, ⟨_, _, value, marks, rfl⟩, rfl⟩ := leaves
      rw [leaves_several_literal marks]
      rcases value with rfl | ⟨e, given, rfl⟩
      · exact .giveNothing
      · exact .giveBack given
    · obtain ⟨_, _, rfl, marks, rfl⟩ := leaves
      rw [leaves_several_literal marks]
      exact .continueLoop
  | builtinCalls =>
    obtain ⟨b, -, rfl⟩ := List.mem_map.mp among
    obtain ⟨t, formed, rfl⟩ := leaves
    exact .builtinCall formed
  | builtin b =>
    obtain rfl := List.mem_singleton.mp among
    obtain ⟨_, _, rfl, given, rfl⟩ := leaves
    exact formed_builtin given span
  | funcDef =>
    obtain rfl := List.mem_singleton.mp among
    obtain ⟨_, _, rfl, ⟨_, _, ⟨l, named, rfl⟩, ⟨_, _, rfl, ⟨_, _, params, ⟨_, _, rfl, ⟨body, block, rfl⟩,
      rfl⟩, rfl⟩, rfl⟩, rfl⟩, rfl⟩ := leaves
    rcases params with rfl | ⟨p, listed, rfl⟩
    · exact .define named block
    · exact .defineWith named listed block
  | params =>
    obtain rfl := List.mem_singleton.mp among
    obtain ⟨_, _, ⟨l, named, rfl⟩, others, rfl⟩ := leaves
    obtain ⟨ls, more, rfl⟩ := leaves_many_leaf (leaves_many_commas others)
    exact .parameters (List.cons_ne_nil l ls) (List.forall_mem_cons.mpr ⟨named, more⟩)
  | block =>
    obtain rfl := List.mem_singleton.mp among
    obtain ⟨_, _, rfl, ⟨_, _, stmts, ⟨_, _, rfl, marks, rfl⟩, rfl⟩, rfl⟩ := leaves
    rw [leaves_many_literal marks, List.append_nil]
    exact .block (leaves_many_rule stmts)
  | whileStmt =>
    obtain rfl := List.mem_singleton.mp among
    obtain ⟨_, _, rfl, ⟨_, _, ⟨e, given, rfl⟩, ⟨b, block, rfl⟩, rfl⟩, rfl⟩ := leaves
    exact .loop given block
  | expr =>
    simp only [alternatives, List.mem_cons, List.not_mem_nil, or_false] at among
    rcases among with rfl | rfl <;> exact formed_plain (r := .expr) rfl rfl leaves span
  | conditional =>
    obtain rfl := List.mem_singleton.mp among
    obtain ⟨_, _, rfl, ⟨_, _, ⟨e, given, rfl⟩, ⟨_, _, ⟨b, block, rfl⟩, other, rfl⟩, rfl⟩, rfl⟩ := leaves
    rcases other with rfl | ⟨_, _, rfl, ⟨d, block', rfl⟩, rfl⟩
    · exact .choice given block
    · exact .choiceElse given block block'
  | logicalOr =>
    simp only [alternatives, List.mem_cons, List.not_mem_nil, or_false] at among
    rcases among with rfl | rfl
    · exact formed_plain (r := .logicalOr) rfl rfl leaves span
    · exact formed_operator ⟨rfl, rfl⟩ (by decide) leaves span
  | logicalAnd =>
    simp only [alternatives, List.mem_cons, List.not_mem_nil, or_false] at among
    rcases among with rfl | rfl
    · exact formed_plain (r := .logicalAnd) rfl rfl leaves span
    · exact formed_operator ⟨rfl, rfl⟩ (by decide) leaves span
  | comparison =>
    simp only [alternatives, List.mem_cons, List.not_mem_nil, or_false] at among
    rcases among with rfl | rfl | rfl | rfl | rfl | rfl | rfl
    · exact formed_plain (r := .comparison) rfl rfl leaves span
    all_goals exact formed_operator ⟨rfl, rfl⟩ (by decide) leaves span
  | sum =>
    simp only [alternatives, List.mem_cons, List.not_mem_nil, or_false] at among
    rcases among with rfl | rfl | rfl | rfl
    · exact formed_operator ⟨rfl, rfl⟩ (by decide) leaves span
    · exact formed_operator ⟨rfl, rfl⟩ (by decide) leaves span
    · obtain ⟨_, _, rfl, ⟨e, given, rfl⟩, rfl⟩ := leaves
      exact .negate given
    · exact formed_plain (r := .sum) rfl rfl leaves span
  | product =>
    simp only [alternatives, List.mem_cons, List.not_mem_nil, or_false] at among
    rcases among with rfl | rfl | rfl | rfl
    · exact formed_operator ⟨rfl, rfl⟩ (by decide) leaves span
    · exact formed_operator ⟨rfl, rfl⟩ (by decide) leaves span
    · exact formed_operator ⟨rfl, rfl⟩ (by decide) leaves span
    · exact formed_plain (r := .product) rfl rfl leaves span
  | atom =>
    simp only [alternatives, List.mem_cons, List.not_mem_nil, or_false] at among
    rcases among with rfl | rfl | rfl | rfl | rfl | rfl | rfl | rfl | rfl | rfl | rfl | rfl
    · obtain ⟨_, _, ⟨a, given, rfl⟩, ⟨_, _, rfl, ⟨_, _, ⟨e, placed, rfl⟩, rfl, rfl⟩, rfl⟩, rfl⟩ := leaves
      exact .index given placed
    · obtain ⟨l, text, rfl⟩ := leaves
      exact .number text
    · obtain ⟨l, text, rfl⟩ := leaves
      exact .string text
    · exact formed_plain (r := .atom) rfl rfl leaves span
    · exact formed_plain (r := .atom) rfl rfl leaves span
    · obtain ⟨l, text, rfl⟩ := leaves
      exact .var text
    · obtain ⟨_, _, rfl, ⟨_, _, inner, rfl, rfl⟩, rfl⟩ := leaves
      rw [List.nil_append, List.append_nil]
      exact formed_plain (r := .atom) rfl rfl inner span
    · obtain rfl := leaves
      exact .constant (by decide)
    · obtain rfl := leaves
      exact .constant (by decide)
    · obtain rfl := leaves
      exact .constant (by decide)
    · obtain ⟨_, _, rfl, ⟨_, _, ⟨a, first, rfl⟩, ⟨_, _, others, rfl, rfl⟩, rfl⟩, rfl⟩ := leaves
      obtain ⟨_, g, ⟨_, _, rfl, ⟨b, second, rfl⟩, rfl⟩, later, rfl⟩ := others
      have more := leaves_many_rule (leaves_many_commas later)
      rw [List.append_nil]
      exact .tuple (by simp) (List.forall_mem_cons.mpr ⟨first, List.forall_mem_cons.mpr ⟨second, more⟩⟩)
    · obtain ⟨_, _, rfl, ⟨_, _, items, rfl, rfl⟩, rfl⟩ := leaves
      rcases items with rfl | ⟨t, given, rfl⟩
      · exact .emptyList
      · exact .list given
  | listItems =>
    obtain rfl := List.mem_singleton.mp among
    obtain ⟨some, each⟩ := leaves_listed_rule leaves
    exact .items some each
  | call =>
    obtain rfl := List.mem_singleton.mp among
    obtain ⟨_, _, ⟨l, named, rfl⟩, ⟨_, _, rfl, ⟨_, _, args, rfl, rfl⟩, rfl⟩, rfl⟩ := leaves
    rcases args with rfl | ⟨t, given, rfl⟩
    · exact .call named
    · exact .callWith named given
  | args =>
    obtain rfl := List.mem_singleton.mp among
    obtain ⟨some, each⟩ := leaves_listed_rule leaves
    exact .args some each

end Rule

/-- What is derived from a phrase is what the phrase can leave. -/
theorem Derives.leaves {φ : Phrase} {words : List Token} {ts : List Tree} (derives : Derives φ words ts) :
    φ.Leaves ts := by
  induction derives with
  | nothing => rfl
  | literal spelled => rfl
  | leaf kept => exact ⟨_, ⟨rfl, trivial⟩, rfl⟩
  | rule among _ ih => exact ⟨_, Rule.formed among ih _, rfl⟩
  | seq _ _ first second => exact ⟨_, _, first, second, rfl⟩
  | absent => exact .inl rfl
  | present _ part => exact .inr part
  | none => exact ⟨[], by simp, rfl⟩
  | @more a u v f g _ _ first later =>
    obtain ⟨rows, each, rfl⟩ := later
    exact ⟨f :: rows, List.forall_mem_cons.mpr ⟨first, each⟩, rfl⟩

/-- The parser builds trees of the language only. -/
theorem formed_of_parse {source : String} {t : Tree} (parsed : parse source = .ok t) :
    t.Formed .any .script := by
  obtain ⟨t', formed, same⟩ := (Parser.derives_run parsed .nil).2.leaves
  obtain rfl : t = t' := by simpa using same
  exact formed

end DeskScript.Syntax
