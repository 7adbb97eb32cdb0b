import DeskScript.Proofs.Derivations

/-!
# Where trees stand

A tree that was read from a text starts where one of its words stands in that text. So the line of a
tree is the line of the text on which it starts, counted by the line feeds before it.
-/

namespace DeskScript.Syntax

/-- A tree is a part of another one, or is it. -/
inductive Tree.Inside (t : Tree) : Tree → Prop
  | self : Inside t t
  | child {label : Label} {span : Option Span} {children : List Tree} {u : Tree}
      (member : u ∈ children) (inner : Inside t u) : Inside t (.node label span children)

/-- Where a tree starts. -/
def Tree.first? : Tree → Option Position
  | .node _ span _ => span.map (·.first)
  | .leaf l => l.span.map (·.first)
  | .datum _ => none

theorem Token.first_extent {words : List Token} {span : Span}
    (extent : Token.extent words = some span) : ∃ w ∈ words, w.span.first = span.first := by
  cases words with
  | nil => cases extent
  | cons w later =>
    refine ⟨w, List.mem_cons_self, ?_⟩
    rw [Token.extent] at extent
    cases rest : Token.extent later with
    | none =>
      rw [rest] at extent
      cases extent
      rfl
    | some span' =>
      rw [rest] at extent
      cases extent
      rfl

/-- A rule leaves a node of its own, or its only part. -/
theorem Rule.tree_cases (r : Rule) (label : Option Label) (span : Option Span) (parts : List Tree) :
    (∃ l, r.tree label span parts = .node l span parts) ∨
      ∃ part, parts = [part] ∧ r.tree label span parts = part := by
  unfold Rule.tree
  split
  · exact Or.inl ⟨_, rfl⟩
  · split
    · exact Or.inr ⟨_, rfl, rfl⟩
    · exact Or.inl ⟨_, rfl⟩
  · exact Or.inl ⟨_, rfl⟩

/-- A tree starts with one of the words that it was derived from. -/
theorem Derives.first {φ : Phrase} {words : List Token} {trees : List Tree}
    (derives : Derives φ words trees) {t u : Tree} (member : t ∈ trees) (inside : u.Inside t)
    {p : Position} (first : u.first? = some p) : ∃ w ∈ words, w.span.first = p := by
  induction derives generalizing t with
  | nothing | literal | absent | none => cases member
  | @leaf w kind kept =>
    obtain rfl := List.mem_singleton.mp member
    cases inside
    cases first
    exact ⟨w, List.mem_cons_self, rfl⟩
  | @rule r way words trees among body ih =>
    obtain rfl := List.mem_singleton.mp member
    rcases r.tree_cases way.label (Token.extent words) trees with ⟨l, same⟩ | ⟨part, rfl, same⟩
    · rw [same] at inside
      cases inside with
      | self =>
        obtain ⟨span, extent, rfl⟩ := Option.map_eq_some_iff.mp first
        exact Token.first_extent extent
      | child member inner => exact ih member inner
    · rw [same] at inside
      exact ih List.mem_cons_self inside
  | seq first' second ih ih' | more first' second ih ih' =>
    rcases List.mem_append.mp member with member | member
    · obtain ⟨w, there, same⟩ := ih member inside
      exact ⟨w, List.mem_append_left _ there, same⟩
    · obtain ⟨w, there, same⟩ := ih' member inside
      exact ⟨w, List.mem_append_right _ there, same⟩
  | present part ih => exact ih member inside

/-- The words of a text stand where they say. -/
theorem Written.stands {p : Position} {cs : List Char} {words : List Token}
    (written : Written p cs words) {w : Token} (member : w ∈ words) :
    ∃ before after, cs = before ++ (w.text.toList ++ after) ∧ w.span.first = p.after before := by
  induction written with
  | done | comment => cases member
  | @word p gap word rest t words between spells longest later ih =>
    rcases List.mem_cons.mp member with rfl | member
    · exact ⟨gap, rest, by simp, rfl⟩
    · obtain ⟨before, after, split, first⟩ := ih member
      refine ⟨gap ++ (word ++ before), after, by simp [split], ?_⟩
      rw [first, Position.after_append, Position.after_append]

/-- A place of a text. -/
def Position.In (p : Position) (text : String) : Prop :=
  ∃ before after, text.toList = before ++ after ∧ p = start.after before

/-- A tree that was read from a text starts in this text where it says. -/
theorem first_of_parse {source : String} {tree u : Tree} (parsed : parse source = .ok tree)
    (inside : u.Inside tree) {p : Position} (first : u.first? = some p) : p.In source := by
  obtain ⟨written, derives⟩ := Parser.derives_run parsed .nil
  obtain ⟨w, member, rfl⟩ := derives.first List.mem_cons_self inside first
  obtain ⟨before, after, split, place⟩ := written.stands member
  exact ⟨before, _, split, place⟩

end DeskScript.Syntax
