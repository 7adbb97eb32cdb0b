import Mathlib
import DeskScript.Proofs.Making
import DeskScript.Proofs.Spacing

/-!
# Words in parentheses

Words in parentheses that the parser reads when they stand alone are an operand wherever one is
expected. As long as a parenthesis is open at the bottom of the stack, nothing below it is looked at:
every production has its parentheses in pairs, so the part at the bottom is not folded before its
parenthesis is closed, and then it is folded into an operand.
-/

namespace DeskScript.Syntax

open Scanner

/-- Whether words have their parentheses in pairs. -/
def Word.paired (words : List Word) : Prop :=
  (∀ front, front <+: words → front.countP (·.2 = .rightParen) ≤ front.countP (·.2 = .leftParen)) ∧
    words.countP (·.2 = .rightParen) = words.countP (·.2 = .leftParen)

/-! ### How deep words and stacks are in parentheses -/

/-- By how many parentheses a symbol leads inside. -/
def Symbol.depth : Symbol → Int
  | .word .leftParen => 1
  | .word .rightParen => -1
  | _ => 0

def Stack.depth (stack : Stack) : Int := (stack.map (·.symbol.depth)).sum

def Token.depth (tokens : List Token) : Int := (tokens.map fun t => (Symbol.word t.terminal).depth).sum

theorem Token.depth_eq (tokens : List Token) : depth tokens =
    (tokens.map word).countP (·.2 = .leftParen) - (tokens.map word).countP (·.2 = .rightParen) := by
  induction tokens with
  | nil => rfl
  | cons t tokens ih =>
    rw [depth, List.map_cons, List.sum_cons, ← depth, ih]
    simp only [List.map_cons, List.countP_cons, word]
    cases t.terminal <;> simp [Symbol.depth] <;> omega

theorem Stack.depth_append (stack stack' : Stack) :
    Stack.depth (stack ++ stack') = Stack.depth stack + Stack.depth stack' := by
  simp [depth]

/-- Every production has its parentheses in pairs. -/
theorem depth_of_mem_grammar : ∀ p ∈ grammar, (p.body.map Symbol.depth).sum = 0 := by decide

theorem Stack.depth_of_body {p : Production} (known : p ∈ grammar) {parts : List Part}
    (body : parts.map (·.symbol) = p.body) : Stack.depth parts.reverse = 0 := by
  rw [depth, List.map_reverse, List.sum_reverse, ← depth_of_mem_grammar p known, ← body, List.map_map]
  rfl

theorem Symbol.eq_of_depth_pos {x : Symbol} (inside : 0 < x.depth) : x = .word .leftParen := by
  unfold depth at inside
  split at inside
  · rfl
  · exact absurd inside (by decide)
  · exact absurd inside (by decide)

/-- From the bottom of the stack on, a parenthesis is open. -/
def Stack.Enclosed (stack : Stack) : Prop := ∀ below, below <:+ stack → below ≠ [] → 0 < Stack.depth below

theorem Stack.Enclosed.cons {part : Part} {stack : Stack} (enclosed : Stack.Enclosed stack)
    (deep : 0 < Stack.depth (part :: stack)) : Stack.Enclosed (part :: stack) := by
  intro below suffix nonempty
  rcases List.suffix_cons_iff.mp suffix with rfl | suffix
  · exact deep
  · exact enclosed below suffix nonempty

variable {stack stack' : Stack} {tokens : List Token}

theorem Stack.state_append (nonempty : stack ≠ []) (below : Stack) :
    Stack.state (stack ++ below) = Stack.state stack := by
  cases stack with
  | nil => exact absurd rfl nonempty
  | cons part stack => rfl

namespace Parser

/-- A fold inside a parenthesis does not look below it. -/
theorem foldNumber?_enclosed {i : Nat} (enclosed : Stack.Enclosed stack) (nonempty : stack ≠ [])
    (folded : foldNumber? i stack = some stack') :
    Stack.Enclosed stack' ∧ stack' ≠ [] ∧ Stack.depth stack' = Stack.depth stack ∧
      ∀ below, foldNumber? i (stack ++ below) = some (stack' ++ below) := by
  obtain ⟨p, found, folded⟩ := foldNumber?_eq_some.mp folded
  obtain ⟨parts, rest, state, rfl, body, empty, goes, rfl⟩ := fold?_eq_some.mp folded
  have paired := Stack.depth_of_body (mem_of_production? found) body
  have inside := enclosed _ (List.suffix_refl _) nonempty
  rw [Stack.depth_append, paired, Int.zero_add] at inside ⊢
  have some : rest ≠ [] := by
    rintro rfl
    exact absurd inside (by decide)
  have same : Stack.depth (⟨state, .part p.head, "", p.shape.apply parts, Part.extents parts⟩ :: rest) =
      Stack.depth rest := by simp [Stack.depth, Symbol.depth]
  refine ⟨?_, List.cons_ne_nil _ _, same, fun below => ?_⟩
  · refine Stack.Enclosed.cons (fun below suffix => enclosed below ?_) (same ▸ inside)
    exact suffix.trans (List.suffix_append _ _)
  · refine foldNumber?_eq_some.mpr ⟨p, found, fold?_eq_some.mpr ⟨parts, rest ++ below, state, ?_,
      body, fun none => absurd (empty none) nonempty, ?_, rfl⟩⟩
    · rw [List.append_assoc]
    · rw [Stack.state_append some]
      exact goes

/-- A word inside a parenthesis is taken whatever lies below. -/
theorem feed_enclosed {t : Token} (last : t.terminal ≠ .endOfText) (enclosed : Stack.Enclosed stack)
    (nonempty : stack ≠ []) (taken : feed t stack = .taken stack') :
    (∃ q rest, stack' = Part.ofToken q t :: rest ∧ Stack.Enclosed rest ∧ rest ≠ [] ∧
        Stack.depth rest = Stack.depth stack ∧
        (Table.row (Stack.state rest)).action t.terminal = some (.shift q)) ∧
      ∀ below, feed t (stack ++ below) = .taken (stack' ++ below) := by
  fun_induction feed t stack with
  | case1 => cases taken
  | case2 => cases taken
  | case3 stack more q shift =>
    obtain rfl : Part.ofToken q t :: stack = stack' := by simpa using taken
    refine ⟨⟨q, stack, rfl, enclosed, nonempty, rfl, shift⟩, fun below => ?_⟩
    refine feed_shift (complete?_of_ne last _) ?_
    rw [Stack.state_append nonempty]
    exact shift
  | case4 => cases taken
  | case5 stack more i fold stack₁ folded ih =>
    obtain ⟨enclosed₁, nonempty₁, depth, onward⟩ := foldNumber?_enclosed enclosed nonempty folded
    obtain ⟨⟨q, rest, top, inside, some, deep, shift⟩, later⟩ := ih enclosed₁ nonempty₁ taken
    refine ⟨⟨q, rest, top, inside, some, deep.trans depth, shift⟩, fun below => ?_⟩
    rw [feed_fold (complete?_of_ne last _) _ (onward below), later below]
    rw [Stack.state_append nonempty]
    exact fold

/-- And so are several, as long as the parenthesis stays open. -/
theorem feedAll_enclosed (last : ∀ t ∈ tokens, t.terminal ≠ .endOfText)
    (enclosed : Stack.Enclosed stack) (nonempty : stack ≠ [])
    (deep : ∀ front, front <+: tokens → 0 < Stack.depth stack + Token.depth front)
    (fed : feedAll tokens stack = some stack') :
    Stack.Enclosed stack' ∧ stack' ≠ [] ∧ Stack.depth stack' = Stack.depth stack + Token.depth tokens ∧
      ∀ below, feedAll tokens (stack ++ below) = some (stack' ++ below) := by
  induction tokens generalizing stack with
  | nil =>
    cases fed
    exact ⟨enclosed, nonempty, by simp [Token.depth], fun _ => rfl⟩
  | cons t tokens ih =>
    rw [feedAll] at fed
    split at fed
    next stack₁ taken =>
      obtain ⟨⟨q, rest, rfl, inside, -, same, -⟩, onward⟩ :=
        feed_enclosed (last t List.mem_cons_self) enclosed nonempty taken
      have step : Stack.depth (Part.ofToken q t :: rest) = Stack.depth stack + Token.depth [t] := by
        rw [← same]
        simp [Stack.depth, Token.depth, Part.ofToken, Int.add_comm]
      have more : ∀ front, Token.depth (t :: front) = Token.depth [t] + Token.depth front := by
        simp [Token.depth]
      have enclosed₁ := inside.cons (by rw [step]; exact deep [t] (by simp))
      obtain ⟨enclosed', nonempty', depth, later⟩ := ih (fun t member => last t (List.mem_cons_of_mem _ member))
        enclosed₁ (List.cons_ne_nil _ _) (fun front start => by
          rw [step, Int.add_assoc, ← more]
          exact deep (t :: front) (List.cons_prefix_cons.mpr ⟨rfl, start⟩)) fed
      refine ⟨enclosed', nonempty', by rw [depth, step, Int.add_assoc, ← more tokens], fun below => ?_⟩
      rw [feedAll, onward below]
      exact later below
    next => cases fed

/-- What the parser does with words depends on nothing but the words. -/
theorem feedAll_alike {tokens' : List Token} (same : tokens'.map Token.word = tokens.map Token.word)
    {after : Stack} (alike : Alike stack stack') (fed : feedAll tokens stack = some after) :
    ∃ after', feedAll tokens' stack' = some after' ∧ Alike after after' := by
  induction tokens generalizing tokens' stack stack' with
  | nil =>
    obtain rfl := List.map_eq_nil_iff.mp same
    cases fed
    exact ⟨stack', rfl, alike⟩
  | cons t tokens ih =>
    obtain ⟨t', tokens', rfl, word, same⟩ := List.map_eq_cons_iff.mp same
    rw [feedAll] at fed
    split at fed
    next stack₁ taken =>
      obtain ⟨stack₁', taken', alike'⟩ := alike.taken (congrArg Prod.snd word) (congrArg Prod.fst word) taken
      rw [feedAll, taken']
      exact ih same alike' fed
    next => cases fed

end Parser

namespace Table

theorem move_leftParen : ∀ s ∈ operandStates ++ startStates, move s (.word .leftParen) = some 34 := by
  decide +kernel

/-- No semicolon is taken behind a closed parenthesis before a production is folded. -/
theorem move_rightParen : ∀ s < 158, (move s (.word .rightParen)).all fun q =>
    move q (.word .semicolon) = none := by decide +kernel

/-- What is folded before a semicolon is folded before all that may follow an operand. -/
theorem action_enclosed : ∀ q < 158, ∀ i ∈ [63, 67], (row q).action .semicolon = some (.fold i) →
    ∀ n ∈ afterAtom, (row q).action n = some (.fold i) := by decide +kernel

/-- The productions that start with a parenthesis. -/
theorem production_leftParen {i : Nat} {p : Production} (found : production? i = some p)
    (first : p.body.head? = some (.word .leftParen)) : i ∈ [63, 67] ∧ p.head = .atom := by
  have checked : ∀ i < grammar.length, (production? i).all fun p =>
      p.body.head? = some (.word .leftParen) → i ∈ [63, 67] ∧ p.head = .atom := by decide
  have here := checked i (List.getElem?_eq_some_iff.mp found).1
  rw [found] at here
  exact of_decide_eq_true here first

end Table

namespace Parser

theorem row_lt {q : Nat} {t : Terminal} {a : Action} (action : (Table.row q).action t = some a) :
    q < 158 := by
  by_contra far
  rw [Table.row_of_le (Nat.le_of_not_lt far)] at action
  cases action

/-- A closed parenthesis with all that is open in it is the body of an operand, if a semicolon can
follow. -/
theorem fold_rightParen {q : Nat} {r t : Token} {rest : Stack} (closes : r.terminal = .rightParen)
    (ends : t.terminal = .semicolon) (enclosed : Stack.Enclosed rest) (nonempty : rest ≠ [])
    (depth : Stack.depth rest = 1)
    (shift : (Table.row (Stack.state rest)).action r.terminal = some (.shift q))
    (taken : feed t (Part.ofToken q r :: rest) = .taken stack') :
    ∃ i p, production? i = some p ∧ p.head = .atom ∧
      (Part.ofToken q r :: rest).reverse.map (·.symbol) = p.body ∧
      ∀ n ∈ Table.afterAtom, (Table.row q).action n = some (.fold i) := by
  have more := complete?_of_ne (t := t) (by rw [ends]; decide) (Part.ofToken q r :: rest)
  rw [feed, more] at taken
  cases action : (Table.row (Stack.state (Part.ofToken q r :: rest))).action t.terminal with
  | none => simp [action] at taken
  | some a =>
    simp only [action] at taken
    have action : (Table.row q).action .semicolon = some a := ends ▸ action
    cases a with
    | shift state =>
      have moved : Table.move (Stack.state rest) (.word .rightParen) = some q := by
        rw [Table.move, ← closes, shift]
      have none := Table.move_rightParen _ (row_lt shift)
      rw [moved, Option.all_some, decide_eq_true_eq, Table.move, action] at none
      cases none
    | fold i =>
      simp only at taken
      split at taken
      next => cases taken
      next stack₁ folded =>
        obtain ⟨p, found, folded⟩ := foldNumber?_eq_some.mp folded
        obtain ⟨parts, below, state, split, body, empty, -, -⟩ := fold?_eq_some.mp folded
        have paired := Stack.depth_of_body (mem_of_production? found) body
        -- Nothing is left below the parenthesis that is closed here.
        have whole : below = [] := by
          by_contra some
          have balance : Stack.depth (Part.ofToken q r :: rest) = Stack.depth below := by
            rw [split, Stack.depth_append, paired, Int.zero_add]
          have suffix : below <:+ Part.ofToken q r :: rest := split ▸ List.suffix_append _ _
          have closed : Stack.depth (Part.ofToken q r :: rest) = -1 + Stack.depth rest := by
            simp [Stack.depth, Part.ofToken, closes, Symbol.depth]
          rcases List.suffix_cons_iff.mp suffix with rfl | suffix
          · have none : parts = [] := by simpa using split
            rw [none] at body
            cases empty body.symm
          · have open' := enclosed below suffix some
            omega
        rw [whole, List.append_nil] at split
        have bottom : p.body.head? = some (.word .leftParen) := by
          obtain ⟨above, b, rfl⟩ := (List.eq_nil_or_concat rest).resolve_left nonempty
          have open' := enclosed [b] (by simp) (by simp)
          have symbol : b.symbol = .word .leftParen := Symbol.eq_of_depth_pos (by simpa [Stack.depth] using open')
          rw [← body, ← List.reverse_reverse parts, ← split]
          simp [symbol]
        obtain ⟨listed, head⟩ := Table.production_leftParen found bottom
        refine ⟨i, p, found, head, ?_, Table.action_enclosed q (row_lt action) i listed action⟩
        rw [split, List.reverse_reverse, body]

/-- Words in parentheses, alone before a semicolon, lie on the stack as the body of an operand; and
so they do above any stack on which an operand is expected. -/
theorem feedAll_parens {l r t : Token} (opens : l.terminal = .leftParen)
    (closes : r.terminal = .rightParen) (ends : t.terminal = .semicolon)
    (inside : ∀ t ∈ tokens, t.terminal ≠ .endOfText) (paired : Word.paired (tokens.map Token.word))
    (fed : feedAll (l :: (tokens ++ [r])) [] = some stack) (taken : feed t stack = .taken stack') :
    ∃ i p, production? i = some p ∧ p.head = .atom ∧ stack.reverse.map (·.symbol) = p.body ∧
      (∀ n ∈ Table.afterAtom, (Table.row stack.state).action n = some (.fold i)) ∧
      ∀ below : Stack, below.state ∈ Table.operandStates ++ Table.startStates →
        feedAll (l :: (tokens ++ [r])) below = some (stack ++ below) := by
  have first : ∀ below : Stack, below.state ∈ Table.operandStates ++ Table.startStates →
      feed l below = .taken (Part.ofToken 34 l :: below) := by
    intro below expected
    refine feed_shift (complete?_of_ne (by rw [opens]; decide) below) ?_
    rw [opens]
    exact Table.action_of_move (Table.move_leftParen _ expected)
  have deep : Stack.depth [Part.ofToken 34 l] = 1 := by
    simp [Stack.depth, Part.ofToken, opens, Symbol.depth]
  have enclosed : Stack.Enclosed [Part.ofToken 34 l] := by
    refine Stack.Enclosed.cons (fun below suffix nonempty => ?_) (by rw [deep]; decide)
    exact absurd (List.suffix_nil.mp suffix) nonempty
  rw [feedAll, first [] (by decide)] at fed
  simp only [feedAll_append] at fed
  obtain ⟨stack₁, fed₁, fed₂⟩ := Option.bind_eq_some_iff.mp fed
  obtain ⟨enclosed₁, nonempty₁, depth₁, onward⟩ := feedAll_enclosed inside enclosed
    (List.cons_ne_nil _ _) (fun front start => by
      have fewer := paired.1 _ (start.map Token.word)
      rw [deep, Token.depth_eq]
      omega) fed₁
  have same := paired.2
  rw [deep, Token.depth_eq] at depth₁
  obtain ⟨stack₂, taken₂, rfl⟩ : ∃ stack₂, feed r stack₁ = .taken stack₂ ∧ stack₂ = stack := by
    rw [feedAll] at fed₂
    split at fed₂
    next stack₂ taken₂ => exact ⟨stack₂, taken₂, Option.some.inj fed₂⟩
    next => cases fed₂
  obtain ⟨⟨q, rest, rfl, enclosed₂, nonempty₂, depth₂, shift⟩, onward₂⟩ :=
    feed_enclosed (by rw [closes]; decide) enclosed₁ nonempty₁ taken₂
  obtain ⟨i, p, found, head, body, folds⟩ :=
    fold_rightParen closes ends enclosed₂ nonempty₂ (by omega) shift taken
  refine ⟨i, p, found, head, body, folds, fun below expected => ?_⟩
  rw [feedAll, first below expected]
  simp only [feedAll_append]
  rw [← List.singleton_append, onward below, Option.bind_some, feedAll, onward₂ below]
  rfl

end Parser

theorem Alike.items (alike : Alike stack stack') : stack'.map Part.item = stack.map Part.item := by
  have forget : ∀ part : Part, (part.move Position.forget).item = part.item := by
    intro part
    simp only [Part.item, Part.move, ← List.map_reverse, List.map_map]
    congr 1
    exact List.map_congr_left fun t _ => Tree.bare_respan _ t
  have same := congrArg (List.map Part.item) alike
  rw [List.map_map, List.map_map] at same
  simpa [Function.comp_def, forget] using same

/-- Words in parentheses that are read when they stand alone make up an operand. -/
theorem Makes.alone {us : List Word} (valid : ∀ w ∈ us, w.Valid) (paired : Word.paired us)
    {tokens : List Token} {stack : Stack}
    (same : tokens.map Token.word = Word.parens us ++ [.of .semicolon])
    (fed : Parser.feedAll tokens [] = some stack) : ∃ trees, Makes .atom (Word.parens us) trees := by
  have cut : ∀ {tokens : List Token}, tokens.map Token.word = Word.parens us → ∃ l inner r,
      tokens = l :: (inner ++ [r]) ∧ l.terminal = .leftParen ∧ inner.map Token.word = us ∧
        r.terminal = .rightParen := by
    intro tokens same
    obtain ⟨l, rest, rfl, first, rest'⟩ := List.map_eq_cons_iff.mp same
    obtain ⟨inner, rs, rfl, inside, last⟩ := List.map_eq_append_iff.mp rest'
    obtain ⟨r, rfl, right⟩ := List.map_eq_singleton_iff.mp last
    have opens := congrArg Prod.snd first
    have closes := congrArg Prod.snd right
    exact ⟨l, inner, r, rfl, opens, inside, closes⟩
  have ordinary : ∀ {tokens : List Token}, tokens.map Token.word = us →
      ∀ t ∈ tokens, t.terminal ≠ .endOfText := by
    rintro tokens rfl t member
    exact (valid t.word (List.mem_map_of_mem member)).ne_endOfText
  obtain ⟨tokens, ts, rfl, words, last⟩ := List.map_eq_append_iff.mp same
  obtain ⟨t, rfl, mark⟩ := List.map_eq_singleton_iff.mp last
  have ends := congrArg Prod.snd mark
  rw [Parser.feedAll_append] at fed
  obtain ⟨stack₁, fed, fed₂⟩ := Option.bind_eq_some_iff.mp fed
  obtain ⟨stack₂, taken⟩ : ∃ stack₂, Parser.feed t stack₁ = .taken stack₂ := by
    rw [Parser.feedAll] at fed₂
    split at fed₂
    next stack₂ taken => exact ⟨stack₂, taken⟩
    next => cases fed₂
  obtain ⟨l, inner, r, rfl, opens, rfl, closes⟩ := cut words
  obtain ⟨i, p, found, head, -, folds, -⟩ :=
    Parser.feedAll_parens opens closes ends (ordinary rfl) paired fed taken
  refine ⟨p.shape.left (stack₁.reverse.map Part.item), ⟨_, _, rfl, by decide⟩, ?_⟩
  intro k states nexts s n placed member here
  cases k with
  | zero => cases placed
  | succ k =>
    obtain ⟨expected, follows⟩ := Table.operandAt_states placed member here
    refine ⟨?_, by simp [Word.parens], ?_⟩
    · intro w within
      simp only [Word.parens, List.mem_cons, List.mem_append, List.not_mem_nil, or_false] at within
      rcases within with rfl | within | rfl
      · exact Word.of_valid rfl
      · exact valid w within
      · exact Word.of_valid rfl
    intro below tokens' state words'
    -- The words are read alone as before, only at other places.
    obtain ⟨stack', fed', alike⟩ := Parser.feedAll_alike (words'.trans words.symm) (rfl : Alike [] []) fed
    obtain ⟨_, taken', -⟩ := alike.taken (t := t) rfl rfl taken
    obtain ⟨l', inner', r', rfl, opens', inside', closes'⟩ := cut words'
    obtain ⟨i', p', found', head', body', folds', onward⟩ :=
      Parser.feedAll_parens opens' closes' ends (ordinary inside') (inside' ▸ paired) fed' taken'
    obtain rfl : i = i' := by
      have action := folds' n follows
      rw [alike.state, folds n follows] at action
      simpa using action
    obtain rfl : p = p' := Option.some.inj (found.symm.trans found')
    obtain ⟨q, goes⟩ : ∃ q, (Table.row s).goto? .atom = some q := by
      have at_s := List.all_eq_true.mp placed s member
      rw [Bool.and_eq_true] at at_s
      exact Option.isSome_iff_exists.mp at_s.1
    subst state
    refine ⟨[⟨q, .part p.head, "", p.shape.apply stack'.reverse, Part.extents stack'.reverse⟩],
      stack' ++ below, ?_, ?_, onward below expected, fun t' next => ?_⟩
    · rw [List.map_singleton, List.reverse_singleton, Part.item, Shape.apply_bare, List.map_reverse,
        alike.items, ← List.map_reverse, head]
      rfl
    · simp only [Item.of, List.map_singleton, Table.through, Table.move, goes]
      rfl
    · have some : stack' ≠ [] := by
        rintro rfl
        have none : ∀ p ∈ grammar, p.head = .atom → p.body ≠ [] := by decide
        exact none p (mem_of_production? found) head body'.symm
      have other : t'.terminal ≠ .endOfText := by
        have apart : ∀ n ∈ Table.afterAtom, n ≠ .endOfText := by decide
        rw [next]
        exact apart n follows
      refine Parser.feed_fold (Parser.complete?_of_ne other _) ?_ (Parser.foldNumber?_eq_some.mpr
        ⟨p, found, Parser.fold?_eq_some.mpr ⟨stack'.reverse, below, q, by rw [List.reverse_reverse],
          body', fun empty => ?_, by rw [head]; exact goes, rfl⟩⟩)
      · rw [next, Stack.state_append some]
        exact folds' n follows
      · rw [empty, List.map_eq_nil_iff, List.reverse_eq_nil_iff] at body'
        exact absurd body' some

end DeskScript.Syntax
