import DeskScript.Proofs.Returning
import DeskScript.Proofs.Precedence

/-!
# A minus sign in front

A minus sign takes all that follows it as far as products are added and subtracted. So it turns the
sign of the whole sum and not of the first product alone.
-/

namespace DeskScript

open Syntax

namespace Syntax

/-! ### How it is read -/

/-- Words that are read as a product, with their tree: operands joined by operators that bind more
tightly than those of a sum. An operand is whatever is read as one wherever one is expected. -/
structure Product where
  words : List Word
  tree : Tree
  joined : Joined 4 words tree

/-- A product behind a plus or a minus sign. -/
structure Term where
  label : Label
  product : Product
  sign : label = .add ∨ label = .subtract

def Term.words (term : Term) : List Word := .of term.label.sign :: term.product.words

/-- A sum with one more term. -/
def Tree.plus (t : Tree) (term : Term) : Tree := .node term.label none [t, term.product.tree]

theorem Joined.terms {us : List Word} {t : Tree} (joined : Joined 3 us t) (terms : List Term) :
    Joined 3 (us ++ terms.flatMap Term.words) (terms.foldl Tree.plus t) := by
  induction terms generalizing us t with
  | nil => simpa using joined
  | cons term rest ih =>
    have facts : term.label ∈ Label.binary ∧ term.label.rank = 3 ∧ term.label.leftRank = 3 := by
      rcases term.sign with sign | sign <;> rw [sign] <;> decide
    obtain ⟨binary, rank, leftRank⟩ := facts
    have one : Joined 3 (us ++ term.words) (t.plus term) :=
      .join binary (Nat.le_of_eq rank.symm) (leftRank.symm ▸ joined) (rank.symm ▸ term.product.joined)
    simpa using ih one

/-- A product alone is a sum. -/
theorem Product.sum (p : Product) : Joined 3 p.words p.tree := by
  obtain ⟨words, tree, joined⟩ := p
  cases joined with
  | operand makes _ => exact .operand makes (by decide)
  | join binary tight left right => exact .join binary (Nat.le_of_succ_le tight) left right

/-- The sum is read first, and then the minus sign in front of it. -/
theorem Joined.negated {us : List Word} {t : Tree} (joined : Joined 3 us t) :
    Leads 0 (.of .minus :: us) .semicolon [.of (.ranked 0) [.node .negate none [t]]] := by
  let place : Place := fun c states nexts => c = .sum && states = [27] && nexts = [.semicolon]
  have readable : Table.readable place [0] 51 [.semicolon] := by decide +kernel
  have contents : Contents place [.semicolon] [.word .minus, .part .sum] (.of .minus :: (us ++ []))
      [.ofWord (.of .minus), .of .sum [t]] := by
    refine .word (Word.of_valid rfl) (.part (joined.starts 3) (fun states s n placed member here => ?_) .nil)
    obtain ⟨rfl, -⟩ : states = [27] ∧ _ := by simpa [place] using placed
    obtain rfl := List.mem_singleton.mp member
    obtain rfl := List.mem_singleton.mp here
    exact joined.leads (by decide) (by decide)
  have made := Table.leads_readable readable rfl contents (List.mem_singleton_self 0)
    (List.mem_singleton_self _)
  have read : Leads 0 (.of .minus :: us) .semicolon [.of .sum [.node .negate none [t]]] := by
    simpa [Shape.left, Item.of, Item.ofWord, Word.of, Terminal.leafKind?] using made
  exact Table.leads_ranked (j := 3) (Nat.zero_le 3) (by decide) (by decide) (by decide) read

end Syntax

/-! ### What comes of it -/

/-- A tree has a whole number for its value, with so many levels left or more, wherever it stands in a
text. -/
def Worth (mode : Mode) (n : Nat) (t : Tree) (s : State) (v : Int) (s' : State) : Prop :=
  ∀ m ≥ n, ∀ t' : Tree, t'.bare = t → evalAt m mode t' s = .ok (.int v) s'

section Values

variable {mode : Mode} {n : Nat} {s s₁ s₂ : State} {t u : Tree} {v w : Int} {label : Label}

theorem Worth.mono (worth : Worth mode n t s v s₁) {m : Nat} (more : n ≤ m) : Worth mode m t s v s₁ :=
  fun k enough => worth k (more.trans enough)

theorem exists_of_bare {children : List Tree} {t : Tree} (bare : t.bare = .node label none children) :
    ∃ span children', t = .node label span children' ∧ children'.map Tree.bare = children := by
  cases t with
  | node label' span children' =>
    rw [Tree.bare_node] at bare
    cases bare
    exact ⟨span, children', rfl, rfl⟩
  | leaf l => cases bare
  | datum d => cases bare

theorem exists_of_bare_one {child t : Tree} (bare : t.bare = .node label none [child]) :
    ∃ span child', t = .node label span [child'] ∧ child'.bare = child := by
  obtain ⟨span, children, rfl, parts⟩ := exists_of_bare bare
  obtain ⟨a, _, rfl, same, none⟩ := List.map_eq_cons_iff.mp parts
  obtain rfl := List.map_eq_nil_iff.mp none
  exact ⟨span, a, rfl, same⟩

/-- Both sides are evaluated one after the other. -/
theorem Worth.binary {x : Int} (left : Worth mode n t s v s₁) (right : Worth mode n u s₁ w s₂)
    (node : ∀ a b, Eval.node label [a, b] = do
      let v ← Task.value a
      let w ← Task.value b
      .request (.binary label v w))
    (joins : Interp.ofOp (Request.binary label (.int v) (.int w)).carryOut s₂ = .ok (.int x) s₂) :
    Worth mode (n + 1) (.node label none [t, u]) s x s₂ := by
  intro m enough t' bare
  obtain ⟨m, rfl⟩ := Nat.exists_eq_add_of_le' (Nat.le_trans (Nat.le_add_left 1 n) enough)
  obtain ⟨span, children, rfl, parts⟩ := exists_of_bare bare
  obtain ⟨a, _, rfl, rfl, more⟩ := List.map_eq_cons_iff.mp parts
  obtain ⟨b, _, rfl, rfl, none⟩ := List.map_eq_cons_iff.mp more
  obtain rfl := List.map_eq_nil_iff.mp none
  have enough : n ≤ m := Nat.le_of_succ_le_succ enough
  change (Eval.node label [a, b]).run (evalAt m) mode s = _
  rw [node, Task.run_bind, Task.run_value]
  simp only [bind, EStateM.bind, left m enough a rfl]
  change (Task.value b >>= fun w => Task.request (.binary label (.int v) w)).run (evalAt m) mode s₁ = _
  rw [Task.run_bind, Task.run_value]
  simp only [bind, EStateM.bind, right m enough b rfl]
  change (Interp.ofOp (Request.binary label (.int v) (.int w)).carryOut >>= pure) s₂ = _
  rw [bind_pure, joins]

theorem Worth.negate (worth : Worth mode n t s v s₁) :
    Worth mode (n + 1) (.node .negate none [t]) s (-v) s₁ := by
  intro m enough t' bare
  obtain ⟨m, rfl⟩ := Nat.exists_eq_add_of_le' (Nat.le_trans (Nat.le_add_left 1 n) enough)
  obtain ⟨span, a, rfl, rfl⟩ := exists_of_bare_one bare
  change (Task.value a >>= fun v => (liftM v.neg : Task Value) >>= fun w =>
    Task.request (.computed w)).run (evalAt m) mode s = _
  rw [Task.run_bind, Task.run_value]
  simp only [bind, EStateM.bind, worth m (Nat.le_of_succ_le_succ enough) a rfl]
  rfl

/-- The products of some terms have whole numbers for their values, one after the other, and this is the
sum of these numbers with their signs. -/
inductive Sums (mode : Mode) (n : Nat) : State → List Term → Int → State → Prop
  | nil (s : State) : Sums mode n s [] 0 s
  | cons {term : Term} {rest : List Term} {w r : Int} {s s₁ s' : State}
      (value : Worth mode n term.product.tree s w s₁) (later : Sums mode n s₁ rest r s') :
      Sums mode n s (term :: rest) ((if term.label = .add then w else -w) + r) s'

theorem Sums.mono {terms : List Term} {r : Int} (sums : Sums mode n s terms r s₁) {m : Nat}
    (more : n ≤ m) : Sums mode m s terms r s₁ := by
  induction sums with
  | nil s => exact .nil s
  | cons value _ ih => exact .cons (value.mono more) ih

theorem Worth.plus {term : Term} (value : Worth mode n t s v s₁)
    (more : Worth mode n term.product.tree s₁ w s₂) :
    Worth mode (n + 1) (t.plus term) s (v + if term.label = .add then w else -w) s₂ := by
  obtain ⟨label, product, sign⟩ := term
  rcases sign with rfl | rfl
  · exact value.binary more (fun _ _ => rfl) rfl
  · exact value.binary more (fun _ _ => rfl) rfl

theorem Worth.terms {terms : List Term} {r : Int} (value : Worth mode n t s v s₁)
    (sums : Sums mode n s₁ terms r s₂) :
    Worth mode (n + terms.length) (terms.foldl Tree.plus t) s (v + r) s₂ := by
  induction terms generalizing n t v s₁ r with
  | nil =>
    cases sums
    simpa using value
  | cons term rest ih =>
    cases sums with
    | cons more later =>
      have all := ih (value.plus more) (later.mono (Nat.le_succ n))
      rw [Nat.add_right_comm, Int.add_assoc] at all
      exact all

/-- A script that is one expression has its value. -/
theorem Worth.lone (off : mode.debug = false) (value : Worth mode n t s v s₁) :
    Worth mode (n + 3) t.lone s v s₁ := by
  intro m enough t' bare
  obtain ⟨m, rfl⟩ := Nat.exists_eq_add_of_le' (Nat.le_trans (Nat.le_add_left 3 n) enough)
  obtain ⟨span, block, rfl, isBlock⟩ := exists_of_bare_one bare
  obtain ⟨span₁, statement, rfl, isStatement⟩ := exists_of_bare_one isBlock
  obtain ⟨span₂, e, rfl, rfl⟩ := exists_of_bare_one isStatement
  have inner : evalAt (m + 1) mode (.node .expression span₂ [e]) s = .ok (.int v) s₁ := by
    change (Task.value e).run (evalAt m) mode s = _
    rw [Task.run_value, value m (Nat.le_of_add_le_add_right enough) e rfl]
  change (Task.value _).run (evalAt (m + 2)) mode s = _
  rw [Task.run_value, evalAt_block, Eval.block, Task.run_bind, Task.run_checked]
  simp only [bind, EStateM.bind, Eval.check_off off]
  change (Task.value _ >>= fun v => if Eval.isSignal v then pure v else Eval.block v []).run
    (evalAt (m + 1)) mode s = _
  rw [Task.run_bind, Task.run_value]
  simp only [bind, EStateM.bind, inner]
  rfl

end Values

/-- A minus sign in front of a product and further terms turns the sign of the whole sum, so the value
is the conventional one only if the further terms come to nothing. -/
theorem leading_minus_negates_sum (first : Product) (terms : List Term) {source : String}
    (placed : Placed (.of .minus :: (first.words ++ terms.flatMap Term.words) ++ [.of .semicolon])
      source.toList) :
    ∃ tree, parse source = .ok tree ∧
      tree.bare = Tree.lone (.node .negate none [terms.foldl Tree.plus first.tree]) ∧
      ∀ {mode : Mode} {n : Nat} {s s₁ s' : State} {v r : Int}, mode.debug = false →
        Worth mode n first.tree s v s₁ → Sums mode n s₁ terms r s' →
        ∀ m ≥ n + terms.length + 4, evalAt m mode tree s = .ok (.int (-(v + r))) s' := by
  have sum := first.sum.terms terms
  have starts : Starts .expr (.of .minus :: (first.words ++ terms.flatMap Term.words)) :=
    ⟨_, _, rfl, by decide⟩
  obtain ⟨tree, parsed, bare⟩ := (sum.negated.statement starts).parse placed
  refine ⟨tree, parsed, bare, ?_⟩
  intro mode n s s₁ s' v r off value sums m enough
  exact ((value.terms sums).negate.lone off) m enough tree bare

theorem worth_name {mode : Mode} {x : String} {v : Int} {s : State}
    (bound : s.stack.read? x = some (.int v)) :
    Worth mode 2 (.node .var none [.leaf ⟨.name, x, none⟩]) s v s := by
  intro m enough t' bare
  obtain ⟨m, rfl⟩ := Nat.exists_eq_add_of_le' enough
  obtain ⟨span, a, rfl, isName⟩ := exists_of_bare_one bare
  obtain ⟨span', rfl⟩ : ∃ span', a = .leaf ⟨.name, x, span'⟩ := by
    cases a with
    | node label span children =>
      rw [Tree.bare_node] at isName
      cases isName
    | leaf l =>
      obtain ⟨kind, text, span'⟩ := l
      cases isName
      exact ⟨span', rfl⟩
    | datum d => cases isName
  change (Task.value _).run (evalAt (m + 1)) mode s = _
  rw [Task.run_value]
  change (Eval.readVariable x).run (evalAt m) mode s = _
  have looked : Task.stack.run (evalAt m) mode s = .ok s.stack s := rfl
  rw [Eval.readVariable, Task.run_bind]
  simp only [bind, EStateM.bind, looked, bound]
  rfl

/-- The minus sign turns the sign of the sum of a product and a square. -/
theorem leading_minus_negates_sum_square :
    let s : State := { stack.current.vars := [("x", .int 2)] }
    ∃ tree, parse "- x + x * x ; " = .ok tree ∧ evalAt 8 {} tree s = .ok (.int (-6)) s := by
  intro s
  have x : Word.Valid ("x", .name) := ⟨.name (c := 'x') (by decide) (by simp), fun _ => by decide⟩
  have name (k : Nat) (low : k ≤ 5) : Joined k [("x", .name)] _ := .operand (Makes.name x) low
  let first : Product := ⟨_, _, name 4 (by decide)⟩
  let square : Product := ⟨_, _, .join (l := .multiply) (by decide) (by decide) (name _ (by decide))
    (name _ (by decide))⟩
  let term : Term := ⟨.add, square, .inl rfl⟩
  let words : List Word := [.of .minus, ("x", .name), .of .plus, ("x", .name), .of .times, ("x", .name),
    .of .semicolon]
  have text : Word.text words = "- x + x * x ; " := by decide +kernel
  have placed : Placed words "- x + x * x ; ".toList := text ▸ (laid_text words).placed
  obtain ⟨tree, parsed, -, value⟩ := leading_minus_negates_sum first [term] placed
  have two : Worth {} 2 first.tree s 2 s := worth_name rfl
  have four : Worth {} 3 square.tree s 4 s := two.binary two (fun _ _ => rfl) rfl
  exact ⟨tree, parsed, value rfl (two.mono (by decide)) (.cons four (.nil s)) 8 (Nat.le_refl 8)⟩

/-- Whether a script has a whole number for its value. -/
def comesTo (source : String) (v : Int) : Bool :=
  match parse source with
  | .ok tree =>
    match eval {} tree {} with
    | .ok (.int w) _ => v = w
    | _ => false
  | .error _ => false

/-- One more than minus one is not what is computed here. -/
theorem minus_one_plus_two : comesTo "-1 + 2;" (-3) ∧ ¬ comesTo "-1 + 2;" 1 := by decide +kernel

end DeskScript
