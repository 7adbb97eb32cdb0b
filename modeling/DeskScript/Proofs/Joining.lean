import DeskScript.Proofs.Places
import DeskScript.Proofs.Spelling
import Mathlib.Data.List.Find

/-!
# Joined texts

Two scripts one below the other are read as one script: the statements of the first, and then those
of the second. At the end of the first text the parser may still be inside its last statement, and
the state that it is in accepts words that no statement starts with. So the two texts are followed
apart: what the first leaves on the stack is folded into one part as soon as a word comes that
starts a statement, and the second is then read above this part as it is read on an empty stack.
-/

namespace DeskScript.Syntax

/-- A category that only whole statements are folded into. -/
def Symbol.isWhole : Symbol → Bool
  | .part .stmt | .part .stmts | .part .program | .part .start => true
  | _ => false

/-! ### Facts of the table -/

variable {stack : Stack} {tree : Tree} {n i : Nat}

namespace Table

variable {t : Terminal} {q : Nat}

/-- The words that start a statement. -/
def starters : List Terminal := (row 0).shifts.map (·.1)

/-- The words besides the starters that are acceptable where a text may end. -/
def followers : List Terminal :=
  [.elseWord, .semicolon, .comma, .rightParen, .leftBrace, .rightBrace, .rightBracket]

-- The rows are irreducible. A single row is opened by unfolding everything, and the kernel goes
-- through all of them.
set_option maxRecDepth 2000

theorem size_rows : rows.size = 158 := by with_unfolding_all rfl

theorem row_of_le (far : 158 ≤ q) : row q = ⟨[], [], []⟩ := by
  simp [row, Array.getD, size_rows, Nat.not_lt.mpr far]

/-! A script, a program, statements and a statement each have a state for when they stand alone. -/

theorem goto_start : (row 0).goto? .start = some 1 := by with_unfolding_all rfl

theorem goto_program : (row 0).goto? .program = some 2 := by with_unfolding_all rfl

theorem goto_stmts : (row 0).goto? .stmts = some 3 := by with_unfolding_all rfl

theorem goto_stmt : (row 0).goto? .stmt = some 4 := by with_unfolding_all rfl

/-- A statement behind others has a state of its own. -/
theorem goto_next_stmt : (row 3).goto? .stmt = some 44 := by with_unfolding_all rfl

theorem row_start : row 1 = ⟨[], [], []⟩ := by with_unfolding_all rfl

theorem row_program : row 2 = ⟨[], [([.endOfText], 0)], []⟩ := by with_unfolding_all rfl

theorem row_stmt : row 4 = ⟨[], [(afterStmt, 76)], []⟩ := by with_unfolding_all rfl

theorem row_next_stmt : row 44 = ⟨[], [(afterStmt, 77)], []⟩ := by with_unfolding_all rfl

/-- What a state does that takes no word and folds one production. -/
theorem action_fold {q : Nat} {words : List Terminal} (only : row q = ⟨[], [(words, i)], []⟩)
    (t : Terminal) : (row q).action t = if t ∈ words then some (.fold i) else none := by
  by_cases member : t ∈ words <;> simp [Row.action, only, member]

/-- Whether a state that folds a production at the end of the text folds it before every starter
too. The script itself and the program are folded at the end only. -/
def closes (q i : Nat) : Bool :=
  (q = 0 && i = 2) || (q = 2 && i = 0) || (q = 3 && i = 1) ||
    (3 ≤ i && starters.all fun t => (row q).action t = some (.fold i))

/-- Whether a state does as all states do at the end of a text, with the parts that end one, and
before an `else`. -/
def regular (q : Nat) : Bool :=
  (((row q).action .endOfText).all fun a =>
    match a with
    | .shift _ => false
    | .fold i => closes q i) &&
  (!((row q).action .endOfText).isSome || q = 2 ||
    ([Terminal.string, .number, .name].all fun t => (row q).accepts t) &&
      Terminal.spelled.all fun w =>
        (row q).accepts w.2 = (row 0).accepts w.2 || followers.contains w.2) &&
  ((row q).goto? .program).all (· = 2) && ((row q).goto? .start).all (· = 1) &&
  (!(row q).accepts .elseWord || (row q).accepts .name) &&
  match (row q).action .elseWord with
  | some (.shift state) => state = 135
  | _ => true

theorem regular_row (q : Nat) : regular q := by
  have all : ∀ q < 158, regular q := by decide +kernel
  by_cases far : 158 ≤ q
  · simp [regular, row_of_le far, Row.action, Row.accepts, Row.goto?]
  · exact all q (by omega)

theorem closes_of_action {a : Action} (last : (row q).action .endOfText = some a) :
    ∃ i, a = .fold i ∧ closes q i := by
  have here := regular_row q
  simp only [regular, Bool.and_eq_true] at here
  replace here := here.1.1.1.1.1
  rw [last] at here
  cases a with
  | shift => cases here
  | fold i => exact ⟨i, rfl, here⟩

theorem else_refused : (row 0).accepts .elseWord = false := by with_unfolding_all rfl

/-- Where a text may end, the acceptable words are those that start a statement and followers. -/
theorem accepts_of_action (last : ((row q).action .endOfText).isSome) (inside : q ≠ 2) :
    (∀ t ∈ [Terminal.string, .number, .name], (row q).accepts t) ∧
      ∀ w ∈ Terminal.spelled, (row q).accepts w.2 = (row 0).accepts w.2 ∨ w.2 ∈ followers := by
  have here := regular_row q
  simp only [regular, Bool.and_eq_true] at here
  simpa [last, inside] using here.1.1.1.1.2

/-- No follower starts like a word that starts a statement. -/
theorem head_follower : ∀ w ∈ Terminal.spelled, w.2 ∈ followers → ∀ v ∈ Terminal.spelled,
    (row 0).accepts v.2 → v.1.toList.head? ≠ w.1.toList.head? := by with_unfolding_all decide

theorem starter_of_accepts (taken : (row 0).accepts t) (inside : t ≠ .endOfText) :
    t ∈ starters := by
  have folds : (row 0).folds = [([.endOfText], 2)] := by with_unfolding_all rfl
  unfold Row.accepts Row.action at taken
  split at taken
  next e found =>
    have same := List.find?_some found
    exact List.mem_map.mpr ⟨e, List.mem_of_find?_eq_some found, by simpa using same⟩
  next => exact absurd taken (by simp [folds, inside])

theorem action_nothing : (row 0).action .endOfText = some (.fold 2) := by with_unfolding_all rfl

theorem action_statements : (row 3).action .endOfText = some (.fold 1) := by with_unfolding_all rfl

theorem accepts_first : ∀ t ∈ [Terminal.string, .number, .name], (row 0).accepts t := by
  with_unfolding_all decide

theorem ne_endOfText (starts : t ∈ starters) : t ≠ .endOfText := by
  rintro rfl
  exact absurd starts (by with_unfolding_all decide)

theorem action_starter (starts : t ∈ starters) :
    ∃ state, (row 0).action t = some (.shift state) ∧ (row 3).action t = some (.shift state) := by
  have all : ∀ e ∈ (row 0).shifts, (row 0).action e.1 = some (.shift e.2) ∧
      (row 3).action e.1 = some (.shift e.2) := by with_unfolding_all decide
  obtain ⟨e, member, rfl⟩ := List.mem_map.mp starts
  exact ⟨e.2, all e member⟩

/-- There is one state for a program and one for a script. -/
theorem goto_end {q state : Nat} {c : Category} (goes : (row q).goto? c = some state) :
    (c = .program → state = 2) ∧ (c = .start → state = 1) := by
  have here := regular_row q
  simp only [regular, Bool.and_eq_true] at here
  constructor
  · rintro rfl
    simpa [goes] using here.1.1.1.2
  · rintro rfl
    simpa [goes] using here.1.1.2

theorem name_of_else (also : (row q).accepts .elseWord) : (row q).accepts .name := by
  have here := regular_row q
  simp only [regular, Bool.and_eq_true] at here
  simpa [also] using here.1.2

/-- An `else` leads to one state. -/
theorem shift_else {q state : Nat} (shift : (row q).action .elseWord = some (.shift state)) :
    state = 135 := by
  have here := regular_row q
  simp only [regular, Bool.and_eq_true] at here
  simpa [shift] using here.2

/-- Above other statements the parser goes on as on an empty stack, a statement apart. -/
theorem goto_above : ∀ p ∈ grammar, ¬ (Symbol.part p.head).isWhole →
    (row 3).goto? p.head = (row 0).goto? p.head := by with_unfolding_all decide

end Table

/-- What is not yet a whole statement is folded into a statement or into less. -/
theorem head_of_body : ∀ p ∈ grammar, (p.body.head?.all fun s => !s.isWhole) → p.body ≠ [] →
    p.head = .stmt ∨ ¬ (Symbol.part p.head).isWhole := by decide

theorem production_of_stmts : ∀ p ∈ grammar, p.body.head? = some (.part .stmts) →
    p = ⟨.program, [.part .stmts], .node .block⟩ ∨
      p = ⟨.stmts, [.part .stmts, .part .stmt], .pass⟩ := by decide

/-- The productions after the first three are for less than a program. -/
theorem head_of_inner : ∀ p ∈ grammar.drop 3, p.head ≠ .program ∧ p.head ≠ .start := by
  decide

theorem mem_drop_of_production? {p : Production} (found : production? i = some p) (far : n ≤ i) :
    p ∈ grammar.drop n := by
  refine List.mem_of_getElem? (i := i - n) ?_
  rw [List.getElem?_drop, Nat.add_sub_cancel' far]
  exact found

namespace Parser

/-- Everything that a fold does. -/
theorem fold?_eq_some {p : Production} {stack' : Stack} :
    fold? p stack = some stack' ↔ ∃ parts below state, stack = parts.reverse ++ below ∧
      parts.map (·.symbol) = p.body ∧ (p.body = [] → stack = []) ∧
      (Table.row (Stack.state below)).goto? p.head = some state ∧
      stack' = ⟨state, .part p.head, "", p.shape.apply parts, Part.extents parts⟩ :: below := by
  constructor
  · intro folded
    simp only [fold?] at folded
    split at folded
    case isFalse => cases folded
    case isTrue body =>
      obtain ⟨state, goes, rfl⟩ := Option.map_eq_some_iff.mp folded
      refine ⟨_, _, state, ?_, body.1, fun empty => body.2 (by simp [empty]), goes, rfl⟩
      rw [List.reverse_reverse, List.take_append_drop]
  · rintro ⟨parts, below, state, rfl, body, empty, goes, rfl⟩
    have length : p.body.length = parts.reverse.length := by simp [← body]
    have top : (parts.reverse ++ below).take p.body.length = parts.reverse := by
      rw [length, List.take_left]
    have rest : (parts.reverse ++ below).drop p.body.length = below := by
      rw [length, List.drop_left]
    simp only [fold?, top, rest, List.reverse_reverse, body, goes, Option.map_some, true_and]
    rw [if_pos fun zero => empty (List.length_eq_zero_iff.mp zero)]

theorem foldNumber?_eq_some {stack' : Stack} :
    foldNumber? i stack = some stack' ↔ ∃ p, production? i = some p ∧ fold? p stack = some stack' :=
  Option.bind_eq_some_iff

/-- A script is complete at the end of the text only. -/
theorem complete?_of_ne {t : Token} (inside : t.terminal ≠ .endOfText) (stack : Stack) :
    complete? t stack = none := by
  unfold complete?
  split
  · split
    · rw [if_neg inside]
    · rfl
  · rfl

theorem complete?_of_symbol {t : Token} {part : Part} (other : part.symbol ≠ .part .start)
    (below : Stack) : complete? t (part :: below) = none := by
  unfold complete?
  split
  next here =>
    cases here
    split
    next symbol _ => exact absurd symbol other
    next => rfl
  next => rfl

end Parser

/-! ### Whole scripts -/

/-- The tree of a script. -/
def Tree.script (extent : Option Span) (statements : List Tree) : Tree :=
  .node .start extent [.node .block extent statements]

/-- The script that a part holding its statements becomes. -/
def Part.script (part : Part) : Tree := Tree.script part.extent part.forest.reverse

namespace Parser

/-- A program on an otherwise empty stack becomes a script at the end of the text, and there is no
other way to go on with a program. -/
theorem feed_program (t : Token) {part : Part} {below : Stack}
    (symbol : part.symbol = .part .program) (state : part.state = 2) :
    feed t (part :: below) =
      if t.terminal = .endOfText ∧ below = [] then
        .complete (.node .start part.extent part.forest.reverse)
      else .refused := by
  have action := Table.action_fold Table.row_program t.terminal
  have more : complete? t (part :: below) = none := complete?_of_symbol (by simp [symbol]) below
  have first : production? 0 = some ⟨.start, [.part .program], .node .start⟩ := rfl
  by_cases last : t.terminal = .endOfText
  · rw [if_pos (by simp [last])] at action
    by_cases empty : below = []
    · subst empty
      have folded := foldNumber?_eq_some.mpr ⟨_, first, fold?_eq_some.mpr
        ⟨[part], [], 1, rfl, by simp [symbol], by simp, Table.goto_start, rfl⟩⟩
      rw [feed_fold more (by simpa [Stack.state, state] using action) folded, feed]
      simp [complete?, last, Shape.apply, Part.extents, Part.children, Part.forests, Span.join]
    · rw [if_neg (by simp [empty]), feed, more]
      simp only [Stack.state, state, action]
      split
      next => rfl
      next stack' folded =>
        obtain ⟨p, found, folded⟩ := foldNumber?_eq_some.mp folded
        obtain rfl := Option.some.inj (first.symm.trans found)
        obtain ⟨parts, below', state', split, body, -, goes, rfl⟩ := fold?_eq_some.mp folded
        obtain ⟨part', rfl, -⟩ := List.map_eq_singleton_iff.mp body
        obtain ⟨rfl, rfl⟩ : part = part' ∧ below = below' := by simpa using split
        obtain rfl := (Table.goto_end goes).2 rfl
        have ended : (Table.row 1).action .endOfText = none := by rw [Table.row_start]; rfl
        rcases below with _ | ⟨next, below⟩
        · exact absurd rfl empty
        · rw [feed]
          simp [complete?, Stack.state, last, ended]
  · rw [if_neg (by simp [last])] at action
    rw [if_neg (by simp [last]), feed, more]
    simp only [Stack.state, state, action]

/-- Statements on an otherwise empty stack become a script at the end of the text. -/
theorem feed_statements {t : Token} (last : t.terminal = .endOfText) {part : Part}
    (symbol : part.symbol = .part .stmts) (state : part.state = 3) :
    feed t [part] = .complete part.script := by
  have action := Table.action_statements
  have more : complete? t [part] = none := complete?_of_symbol (by simp [symbol]) []
  have second : production? 1 = some ⟨.program, [.part .stmts], .node .block⟩ := rfl
  have folded := foldNumber?_eq_some.mpr ⟨_, second, fold?_eq_some.mpr
    ⟨[part], [], 2, rfl, by simp [symbol], by simp, Table.goto_program, rfl⟩⟩
  rw [feed_fold more (by rw [last]; simpa [Stack.state, state] using action) folded,
    feed_program t rfl rfl, if_pos ⟨last, rfl⟩]
  simp [Part.script, Tree.script, Shape.apply, Part.extents, Part.children, Part.forests, Span.join]

/-- A text without statements. -/
theorem feed_nil {t : Token} (last : t.terminal = .endOfText) :
    feed t [] = .complete (.script none []) := by
  have third : production? 2 = some ⟨.program, [], .node .block⟩ := rfl
  have folded : foldNumber? 2 [] = some _ := foldNumber?_eq_some.mpr ⟨_, third,
    fold?_eq_some.mpr ⟨[], [], 2, rfl, rfl, by simp, Table.goto_program, rfl⟩⟩
  rw [feed_fold rfl (by rw [last]; exact Table.action_nothing) folded, feed_program t rfl rfl,
    if_pos ⟨last, rfl⟩]
  rfl

/-- Where a text may end, what the parser holds is nothing or the statements so far, and a word that
starts a statement makes it fold them. -/
theorem settle {t : Token} (last : t.terminal = .endOfText)
    (complete : feed t stack = .complete tree)
    (top : ∀ part below, stack = part :: below → part.symbol ≠ .part .program ∧ part.symbol ≠ .part .start) :
    stack = [] ∨ ∃ base : Part, base.symbol = .part .stmts ∧ base.state = 3 ∧ tree = base.script ∧
      ∀ t' : Token, t'.terminal ∈ Table.starters → feed t' stack = feed t' [base] := by
  fun_induction feed t stack with
  | case1 stack tree' found =>
    rcases stack with _ | ⟨part, below⟩
    · exact .inl rfl
    · rw [complete?_of_symbol (top part below rfl).2] at found
      cases found
  | case2 => cases complete
  | case3 => cases complete
  | case4 => cases complete
  | case5 stack more i action stack' folded ih =>
    have whole := (feed_fold more action folded).trans complete
    obtain ⟨i', same, closes⟩ := Table.closes_of_action (last ▸ action)
    obtain rfl : i = i' := by simpa using same
    obtain ⟨p, found, fold⟩ := foldNumber?_eq_some.mp folded
    obtain ⟨parts, below, state, split, body, empty, goes, rfl⟩ := fold?_eq_some.mp fold
    simp only [Table.closes, Bool.or_eq_true, Bool.and_eq_true, decide_eq_true_eq] at closes
    rcases closes with ((⟨-, rfl⟩ | ⟨-, rfl⟩) | ⟨three, rfl⟩) | ⟨inner, before⟩
    · obtain rfl : _ = p := Option.some.inj found
      exact .inl (empty rfl)
    · obtain rfl : _ = p := Option.some.inj found
      obtain ⟨part, rfl, symbol⟩ := List.map_eq_singleton_iff.mp body
      exact absurd symbol (top part below split).1
    · obtain rfl : _ = p := Option.some.inj found
      obtain ⟨part, rfl, symbol⟩ := List.map_eq_singleton_iff.mp body
      obtain rfl := (Table.goto_end goes).1 rfl
      obtain rfl : below = [] := by
        by_contra more
        rw [feed_program t rfl rfl, if_neg (by simp [more])] at complete
        cases complete
      subst split
      have tree' := whole.symm.trans (feed_statements last symbol three)
      exact .inr ⟨part, symbol, three, by simpa using tree', fun _ _ => rfl⟩
    · have smaller := head_of_inner p (mem_drop_of_production? found inner)
      rcases ih complete (by rintro part below' ⟨⟩; simpa using smaller) with none | some
      · cases none
      · obtain ⟨base, symbol, state, script, folds⟩ := some
        refine .inr ⟨base, symbol, state, script, fun t' starts => ?_⟩
        have before' := List.all_eq_true.mp before t'.terminal starts
        have goesOn := complete?_of_ne (Table.ne_endOfText starts) stack
        rw [feed_fold goesOn (by simpa using before') folded]
        exact folds t' starts

end Parser

/-! ### Reading above other statements -/

/-- Statements with others before them. -/
def Part.behind (base part : Part) : Part :=
  { part with
    forest := part.forest ++ base.forest
    extent := Span.join base.extent part.extent }

/-- A stack and the same stack above statements that were there before. Once the first statement is
whole, it is joined to those. -/
inductive Above (base : Part) : Stack → Stack → Prop
  | inside {parts : Stack} {first : Part} (partial' : ¬ first.symbol.isWhole) :
      Above base (parts ++ [first]) (parts ++ [first, base])
  | whole {part : Part} (symbol : part.symbol = .part .stmt) :
      Above base [{ part with state := 4 }] [{ part with state := 44 }, base]
  | joined {parts : Stack} {part : Part} (symbol : part.symbol = .part .stmts)
      (state : part.state = 3) : Above base (parts ++ [part]) (parts ++ [base.behind part])

theorem Stack.state_concat (parts : Stack) (part : Part) (below : Stack) :
    Stack.state (parts ++ part :: below) = Stack.state (parts ++ [part]) := by
  cases parts <;> rfl

/-- How the top of a stack is taken off: either the part at the bottom stays or it goes too. -/
theorem concat_eq_append {xs parts below : List Part} {x : Part}
    (split : xs ++ [x] = parts.reverse ++ below) :
    (∃ below', below = below' ++ [x] ∧ xs = parts.reverse ++ below') ∨
      below = [] ∧ parts = x :: xs.reverse := by
  rcases List.eq_nil_or_concat below with rfl | ⟨below', x', rfl⟩
  · right
    refine ⟨rfl, ?_⟩
    have := congrArg List.reverse split
    simpa using this.symm
  · left
    rw [List.concat_eq_append, ← List.append_assoc] at split
    obtain ⟨rfl, same⟩ := List.append_inj' split rfl
    obtain rfl : x = x' := by simpa using same
    exact ⟨below', by simp, rfl⟩

namespace Parser

variable {parts stack' : Stack} {part : Part} {t : Token} {p : Production}

variable {base : Part}

/-- A fold inside a first statement. -/
theorem above_fold_inside (state : base.state = 3) (known : p ∈ grammar)
    {first : Part} (partial' : ¬ first.symbol.isWhole)
    (folded : fold? p (parts ++ [first]) = some stack') :
    ∃ stack'', fold? p (parts ++ [first, base]) = some stack'' ∧ Above base stack' stack'' := by
  obtain ⟨body, below, q, split, symbols, empty, goes, rfl⟩ := fold?_eq_some.mp folded
  rcases concat_eq_append split with ⟨below', rfl, rfl⟩ | ⟨rfl, rfl⟩
  · refine ⟨_, fold?_eq_some.mpr ⟨body, below' ++ [first, base], q, by simp, symbols,
      fun nil => absurd (empty nil) (by simp), ?_, rfl⟩, ?_⟩
    · rw [Stack.state_concat]
      exact goes
    · exact @Above.inside base (_ :: below') first partial'
  · -- The whole of the stack is folded, so the state before it decides.
    have nonempty : p.body ≠ [] := by simp [← symbols]
    have head : p.body.head?.all fun s => !s.isWhole := by simpa [← symbols] using partial'
    rcases head_of_body p known head nonempty with stmt | less
    · obtain rfl : q = 4 := by
        rw [stmt] at goes
        exact Option.some.inj (goes.symm.trans Table.goto_stmt)
      refine ⟨_, fold?_eq_some.mpr ⟨first :: parts.reverse, [base], 44, by simp, symbols,
        fun nil => absurd nil nonempty, ?_, rfl⟩, ?_⟩
      · rw [stmt]
        simpa [Stack.state, state] using Table.goto_next_stmt
      · exact @Above.whole base ⟨4, .part p.head, "", _, _⟩ (by rw [stmt])
    · refine ⟨_, fold?_eq_some.mpr ⟨first :: parts.reverse, [base], q, by simp, symbols,
        fun nil => absurd nil nonempty, ?_, rfl⟩, ?_⟩
      · simpa [Stack.state, state, Table.goto_above p known less] using goes
      · exact @Above.inside base [] _ less

/-- A fold of the first statement that is whole. -/
theorem above_fold_whole (symbol : base.symbol = .part .stmts)
    (stmt : part.symbol = .part .stmt) :
    ∃ joined : Part, joined.symbol = .part .stmts ∧ joined.state = 3 ∧
      foldNumber? 76 [{ part with state := 4 }] = some [joined] ∧
      foldNumber? 77 [{ part with state := 44 }, base] = some [base.behind joined] := by
  have goes : (Table.row (Stack.state [])).goto? .stmts = some 3 := Table.goto_stmts
  refine ⟨⟨3, .part .stmts, "", part.forest, part.extent⟩, rfl, rfl, ?_, ?_⟩
  · exact foldNumber?_eq_some.mpr ⟨⟨.stmts, [.part .stmt], .pass⟩, rfl, fold?_eq_some.mpr
      ⟨[{ part with state := 4 }], [], 3, rfl, by simp [stmt], by simp, goes, rfl⟩⟩
  · refine foldNumber?_eq_some.mpr ⟨⟨.stmts, [.part .stmts, .part .stmt], .pass⟩, rfl,
      fold?_eq_some.mpr ⟨[base, { part with state := 44 }], [], 3, rfl, by simp [symbol, stmt],
        by simp, goes, ?_⟩⟩
    simp [Part.behind, Shape.apply, Part.forests, Part.extents, Span.join]

/-- A fold where the first statements are joined to those before. -/
theorem above_fold_joined (known : p ∈ grammar) (inner : p.head ≠ .program)
    (symbol : part.symbol = .part .stmts)
    (state : part.state = 3) (folded : fold? p (parts ++ [part]) = some stack') :
    ∃ stack'', fold? p (parts ++ [base.behind part]) = some stack'' ∧ Above base stack' stack'' := by
  obtain ⟨body, below, q, split, symbols, empty, goes, rfl⟩ := fold?_eq_some.mp folded
  rcases concat_eq_append split with ⟨below', rfl, rfl⟩ | ⟨rfl, rfl⟩
  · refine ⟨_, fold?_eq_some.mpr ⟨body, below' ++ [base.behind part], q, by simp, symbols,
      fun nil => absurd (empty nil) (by simp), ?_, rfl⟩, ?_⟩
    · cases below' <;> exact goes
    · exact @Above.joined base (_ :: below') part symbol state
  · have head : p.body.head? = some (.part .stmts) := by simp [← symbols, symbol]
    rcases production_of_stmts p known head with rfl | rfl
    · exact absurd rfl inner
    · -- One more statement behind those that are joined already.
      obtain ⟨last, rfl, stmt⟩ : ∃ last, parts = [last] ∧ last.symbol = .part .stmt := by
        have rest : parts.reverse.map (·.symbol) = [.part .stmt] := by
          simpa [symbol] using symbols
        obtain ⟨last, single, stmt⟩ := List.map_eq_singleton_iff.mp rest
        exact ⟨last, by simpa using single, stmt⟩
      obtain rfl : q = 3 := Option.some.inj (goes.symm.trans Table.goto_stmts)
      refine ⟨_, fold?_eq_some.mpr ⟨[base.behind part, last], [], 3, rfl,
        by simp [Part.behind, symbol, stmt], by simp, goes, rfl⟩, ?_⟩
      have same : (⟨3, .part .stmts, "", Shape.pass.apply [base.behind part, last],
          Part.extents [base.behind part, last]⟩ : Part) =
          base.behind ⟨3, .part .stmts, "", Shape.pass.apply [part, last],
            Part.extents [part, last]⟩ := by
        simp only [Part.behind, Shape.apply, Part.forests, Part.extents, List.reverse_cons,
          List.reverse_nil, List.nil_append, List.cons_append, List.append_assoc, List.foldl_cons,
          List.foldl_nil, Part.mk.injEq, true_and]
        cases base.extent <;> cases part.extent <;> cases last.extent <;> rfl
      rw [same]
      exact @Above.joined base [] _ rfl rfl

/-- Only the end of the text makes a program of all the statements, and then a script. -/
theorem above_fold_program (known : p ∈ grammar)
    (program : p.head = .program)
    (folded : fold? p (parts ++ [part]) = some stack') :
    feed t stack' = .refused ∨ t.terminal = .endOfText ∧ parts = [] := by
  have short : ∀ p ∈ grammar, p.head = .program → p.body.length ≤ 1 := by decide
  obtain ⟨body, below, q, split, symbols, -, goes, rfl⟩ := fold?_eq_some.mp folded
  obtain rfl := (Table.goto_end goes).1 program
  rw [feed_program t (by rw [program]) rfl]
  by_cases last : t.terminal = .endOfText ∧ below = []
  · right
    have length := congrArg List.length split
    have single : body.length ≤ 1 := by
      have length' := short p known program
      rwa [← symbols, List.length_map] at length'
    simp only [last.2, List.length_append, List.length_reverse, List.length_cons,
      List.length_nil] at length
    exact ⟨last.1, List.length_eq_zero_iff.mp (by omega)⟩
  · exact .inl (if_neg last)

/-- A stack with another part at its bottom is no complete script. -/
theorem complete?_of_bottom (bottom : stack.getLast? = some part)
    (other : part.symbol ≠ .part .start) : complete? t stack = none := by
  rcases stack with _ | ⟨top, _ | ⟨next, below⟩⟩
  · rfl
  · obtain rfl : top = part := by simpa using bottom
    exact complete?_of_symbol other []
  · rfl

/-- Neither of the two stacks is a complete script. -/
theorem complete?_above {stack' : Stack} (symbol : base.symbol = .part .stmts)
    (above : Above base stack stack') : complete? t stack = none ∧ complete? t stack' = none := by
  have below : base.symbol ≠ .part .start := by simp [symbol]
  cases above with
  | @inside parts first less =>
    have first' : first.symbol ≠ .part .start := by
      intro start
      rw [start] at less
      exact less rfl
    exact ⟨complete?_of_bottom (by simp) first', complete?_of_bottom (by simp) below⟩
  | @whole part stmt =>
    have part' : part.symbol ≠ .part .start := by simp [stmt]
    exact ⟨complete?_of_symbol part' [], complete?_of_bottom (by simp) below⟩
  | @joined parts part stmts =>
    have part' : part.symbol ≠ .part .start := by simp [stmts]
    exact ⟨complete?_of_bottom (by simp) part',
      complete?_of_bottom (by simp) (show (base.behind part).symbol ≠ .part .start from part')⟩

/-- What a whole first statement is folded by, with and without statements before it. -/
theorem action_whole {t : Terminal} {a : Action} (action : (Table.row 4).action t = some a) :
    a = .fold 76 ∧ (Table.row 44).action t = some (.fold 77) := by
  have four := Table.action_fold Table.row_stmt t
  have next := Table.action_fold Table.row_next_stmt t
  rw [four] at action
  split at action
  next member => exact ⟨(Option.some.inj action).symm, by rw [next, if_pos member]⟩
  next => cases action

/-- A word is answered above other statements as it is without them. -/
theorem above_feed (symbol : base.symbol = .part .stmts) (state : base.state = 3) {stack' : Stack}
    (above : Above base stack stack') :
    (∀ taken, feed t stack = .taken taken →
      ∃ taken', feed t stack' = .taken taken' ∧ Above base taken taken') ∧
    ∀ tree, feed t stack = .complete tree →
      ∃ part : Part, tree = part.script ∧ feed t stack' = .complete (base.behind part).script := by
  obtain ⟨-, more'⟩ := complete?_above (t := t) symbol above
  fun_induction feed t stack generalizing stack' with
  | case1 stack tree found =>
    rw [(complete?_above symbol above).1] at found
    cases found
  | case2 => simp
  | case3 stack more next shift =>
    refine ⟨fun taken same => ?_, by simp⟩
    obtain rfl : Part.ofToken next t :: stack = taken := by simpa using same
    cases above with
    | @inside parts first less =>
      refine ⟨_, feed_shift more' ?_, @Above.inside base (_ :: parts) first less⟩
      rw [Stack.state_concat]
      exact shift
    | whole => exact absurd (action_whole shift).1 (by simp)
    | @joined parts part stmts three =>
      refine ⟨_, feed_shift more' ?_, @Above.joined base (_ :: parts) part stmts three⟩
      cases parts <;> exact shift
  | case4 => simp
  | case5 stack more i action folded fold ih =>
    obtain ⟨p, found, fold'⟩ := foldNumber?_eq_some.mp fold
    have known := mem_of_production? found
    cases above with
    | @inside parts first less =>
      obtain ⟨folded', same, above⟩ := above_fold_inside state known less fold'
      rw [feed_fold more' (by rw [Stack.state_concat]; exact action)
        (foldNumber?_eq_some.mpr ⟨p, found, same⟩)]
      exact ih above (complete?_above symbol above).2
    | @whole part stmt =>
      obtain ⟨joined, stmts, three, one, two⟩ := above_fold_whole symbol stmt
      obtain ⟨seventySix, action'⟩ := action_whole action
      obtain rfl : i = 76 := by simpa using seventySix
      obtain rfl : [joined] = folded := Option.some.inj (one.symm.trans fold)
      have above := @Above.joined base [] joined stmts three
      rw [feed_fold more' action' two]
      exact ih above (complete?_above symbol above).2
    | @joined parts part stmts three =>
      by_cases program : p.head = .program
      · rcases above_fold_program (t := t) known program fold' with refused | ⟨last, rfl⟩
        · simp [refused]
        · have complete := (feed_fold more action fold).symm.trans (feed_statements last stmts three)
          refine ⟨by simp [complete], fun tree same => ⟨part, ?_, ?_⟩⟩
          · simpa using same.symm.trans complete
          · exact feed_statements last (show (base.behind part).symbol = _ from stmts) three
      · obtain ⟨folded', same, above⟩ := above_fold_joined known program stmts three fold'
        rw [feed_fold more' (by cases parts <;> exact action)
          (foldNumber?_eq_some.mpr ⟨p, found, same⟩)]
        exact ih above (complete?_above symbol above).2

end Parser

/-- The same words are acceptable above other statements. -/
theorem Above.accepts {base : Part} {stack' : Stack} (above : Above base stack stack') :
    (Table.row (Stack.state stack')).accepts = (Table.row (Stack.state stack)).accepts := by
  cases above with
  | inside => rw [Stack.state_concat]
  | whole =>
    funext t
    have four := Table.action_fold Table.row_stmt t
    have next := Table.action_fold Table.row_next_stmt t
    simp only [Row.accepts, Stack.state, four, next]
    split <;> rfl
  | @joined parts => cases parts <;> rfl

theorem Span.join_none (a : Option Span) : join a none = a := by cases a <;> rfl

/-- A text is read above other statements as it is without them. -/
theorem Reads.above {base : Part} (symbol : base.symbol = .part .stmts) (state : base.state = 3)
    {stack stack' : Stack} {cursor : Cursor} {tree : Tree} (reads : Reads stack cursor tree)
    (above : Above base stack stack') :
    ∃ part : Part, tree = part.script ∧ Reads stack' cursor (base.behind part).script := by
  induction reads generalizing stack' with
  | done empty complete =>
    obtain ⟨part, rfl, complete'⟩ := (Parser.above_feed symbol state above).2 _ complete
    exact ⟨part, rfl, .done (above.accepts ▸ empty) complete'⟩
  | word next taken _ ih =>
    obtain ⟨taken', same, above'⟩ := (Parser.above_feed symbol state above).1 _ taken
    obtain ⟨part, rfl, rest⟩ := ih above'
    exact ⟨part, rfl, .word (above.accepts ▸ next) same rest⟩

/-! ### The first word of the second text -/

namespace Scanner

variable {cs : List Char} {t : Terminal}

/-- The name or reserved word that a text begins with, after blank space and comments. -/
def opening (cs : List Char) : List Char := (skip false .start cs).rest.takeWhile isNamePart

theorem opening_down (n : Nat) (cs : List Char) :
    (skip false (Position.start.down n) cs).rest.takeWhile isNamePart = opening cs := by
  rw [skip_down]
  rfl

/-- A word that a text starts with starts as the text does. -/
theorem head_spelled : ∀ w ∈ Terminal.spelled, w.1.toList.isPrefixOf cs →
    w.1.toList.head? = cs.head? := by
  have spelled : ∀ w ∈ Terminal.spelled, w.1.toList ≠ [] := by decide
  intro w member fits
  obtain ⟨rest, rfl⟩ := List.isPrefixOf_iff_prefix.mp fits
  obtain ⟨c, more, word⟩ := List.exists_cons_of_ne_nil (spelled w member)
  rw [word, List.cons_append, List.head?_cons, List.head?_cons]

section

variable {q : Nat} (last : ((Table.row q).action .endOfText).isSome) (inside : q ≠ 2)
include last inside

theorem find_keyword {word : List Char}
    (other : word ≠ "else".toList ∨ (Table.row q).accepts .elseWord = false) :
    (Terminal.keywords.find? fun k => k.1 == String.ofList word && (Table.row q).accepts k.2) =
      Terminal.keywords.find? fun k => k.1 == String.ofList word && (Table.row 0).accepts k.2 := by
  have follower : ∀ k ∈ Terminal.keywords, k.2 ∈ Table.followers → k = ("else", .elseWord) := by
    decide
  refine List.find?_congr fun k member => ?_
  have spelled : k ∈ Terminal.spelled := by simp [Terminal.spelled, member]
  rcases (Table.accepts_of_action last inside).2 k spelled with same | also
  · rw [same]
  · obtain rfl := follower k member also
    rcases other with other | none
    · have differs : ("else" == String.ofList word) = false := by
        rw [beq_eq_false_iff_ne]
        rintro same
        exact other (by rw [same, String.toList_ofList])
      rw [differs, Bool.false_and, Bool.false_and]
    · rw [none, Table.else_refused]

theorem firstFixed_widen {cs : List Char}
    (found : firstFixed (Terminal.fixed.filter fun w => (Table.row 0).accepts w.2) cs = some (t, n)) :
    firstFixed (Terminal.fixed.filter fun w => (Table.row q).accepts w.2) cs = some (t, n) := by
  rw [firstFixed, List.find?_filter] at found ⊢
  obtain ⟨v, first, -⟩ := Option.map_eq_some_iff.mp found
  have first' : (Table.row 0).accepts v.2 ∧ v.1.toList.isPrefixOf cs := by
    have := List.find?_some first
    simpa using this
  have member := Terminal.mem_spelled (List.mem_of_find?_eq_some first)
  rw [← found]
  refine congrArg (Option.map _) (List.find?_congr fun w fixed => ?_)
  have member' := Terminal.mem_spelled fixed
  rcases (Table.accepts_of_action last inside).2 w member' with same | also
  · rw [same]
  · have differs : ¬ w.1.toList.isPrefixOf cs := by
      intro fits
      refine Table.head_follower w member' also v member first'.1 ?_
      rw [head_spelled v member first'.2, head_spelled w member' fits]
    simp [differs]

/-- Where a text may end, the first word of the next one is read as at the start of a text. -/
theorem lexeme_widen {cs : List Char}
    (other : cs.takeWhile isNamePart ≠ "else".toList ∨ (Table.row q).accepts .elseWord = false)
    (found : lexeme (Table.row 0).accepts cs = some (t, n)) :
    lexeme (Table.row q).accepts cs = some (t, n) := by
  have here := Table.accepts_first
  have there := (Table.accepts_of_action last inside).1
  cases cs with
  | nil => cases found
  | cons c cs =>
    simp only [lexeme, here, there, List.mem_cons, true_or, or_true, Bool.true_and,
      find_keyword last inside other] at found ⊢
    split at found
    next string => rw [if_pos string]; exact found
    next string =>
      rw [if_neg string]
      split at found
      next number => rw [if_pos number]; exact found
      next number =>
        rw [if_neg number]
        split at found
        next name => rw [if_pos name]; exact found
        next name => rw [if_neg name]; exact firstFixed_widen last inside found

end

/-- A word is never the end of the text. -/
theorem ne_endOfText {word : List Char} (spells : t.Spells word) : t ≠ .endOfText := by
  cases spells with
  | @fixed text t member => exact (by decide : ∀ w ∈ Terminal.spelled, w.2 ≠ .endOfText) _ member
  | _ => simp

/-- Where a text may end, what the next text starts with is read as at the start of a text. -/
theorem ahead_widen {q : Nat} (last : ((Table.row q).action .endOfText).isSome) (inside : q ≠ 2)
    (other : opening cs ≠ "else".toList ∨ (Table.row q).accepts .elseWord = false) {t : Token}
    {after : Cursor}
    (next : ahead (Table.row 0).accepts ⟨Position.start.down n, cs⟩ = .word t after) :
    ahead (Table.row q).accepts ⟨Position.start.down n, cs⟩ = .word t after ∧
      t.terminal ∈ Table.starters := by
  rw [← opening_down n] at other
  simp only [ahead] at next ⊢
  generalize skip false (Position.start.down n) cs = here at other next ⊢
  obtain ⟨p, _ | ⟨c, left⟩⟩ := here
  · cases next
  · simp only [front] at other next ⊢
    cases found : lexeme (Table.row 0).accepts (c :: left) with
    | none => simp [found] at next
    | some word =>
      rw [lexeme_widen last inside other found]
      rw [found] at next
      obtain ⟨taken, word⟩ := accepted_of_lexeme found
      refine ⟨next, ?_⟩
      obtain ⟨rfl, -⟩ := Step.word.inj next
      exact Table.starter_of_accepts taken (ne_endOfText word.spells)

end Scanner

/-! ### Joined texts -/

namespace Parser

/-- A script that is not complete yet is completed by a fold. -/
theorem fold_of_complete {t : Token} (more : complete? t stack = none)
    (complete : feed t stack = .complete tree) :
    ∃ i stack', (Table.row (Stack.state stack)).action t.terminal = some (.fold i) ∧
      foldNumber? i stack = some stack' := by
  rw [feed, more] at complete
  simp only at complete
  split at complete
  next => cases complete
  next => cases complete
  next i action =>
    split at complete
    next => cases complete
    next stack' folded => exact ⟨i, stack', action, folded⟩

/-- What the parser holds at the end of an accepted text. -/
theorem settled (complete : feed ending stack = .complete tree)
    (top : stack = [] ∨ ∃ state t below, stack = Part.ofToken state t :: below) :
    stack = [] ∧ tree = .script none [] ∨ ∃ base : Part, base.symbol = .part .stmts ∧
      base.state = 3 ∧ tree = base.script ∧ Stack.state stack ≠ 2 ∧
      ((Table.row (Stack.state stack)).action .endOfText).isSome ∧
      ∀ t : Token, t.terminal ∈ Table.starters → feed t stack = feed t [base] := by
  rcases top with rfl | ⟨state, t, below, rfl⟩
  · left
    rw [feed_nil rfl] at complete
    exact ⟨rfl, by simpa using complete.symm⟩
  · right
    have more : complete? ending (Part.ofToken state t :: below) = none :=
      complete?_of_symbol (by simp [Part.ofToken]) below
    obtain ⟨i, stack', action, folded⟩ := fold_of_complete more complete
    obtain nil | ⟨base, symbol, three, script, folds⟩ := settle (t := ending) rfl complete (by
      rintro part below' ⟨⟩
      simp [Part.ofToken])
    · cases nil
    · refine ⟨base, symbol, three, script, fun two => ?_,
        Option.isSome_iff_exists.mpr ⟨_, action⟩, folds⟩
      -- In this state a program is folded, but a word is on top.
      have zero := Table.action_fold Table.row_program .endOfText
      obtain rfl : i = 0 := by
        rw [two] at action
        simpa using action.symm.trans zero
      obtain ⟨p, found, fold⟩ := foldNumber?_eq_some.mp folded
      obtain rfl : _ = p := Option.some.inj found
      obtain ⟨parts, below', q, split, body, -⟩ := fold?_eq_some.mp fold
      obtain ⟨part, rfl, program⟩ := List.map_eq_singleton_iff.mp body
      obtain ⟨rfl, -⟩ : Part.ofToken state t = part ∧ _ := by simpa using split
      cases program

end Parser

/-- An accepted text is a script. -/
theorem Reads.script {cs : List Char} {tree : Tree} (reads : Reads [] ⟨.start, cs⟩ tree) :
    ∃ extent statements, tree = .script extent statements := by
  obtain ⟨stack, complete, top, -⟩ := reads.line
  rcases Parser.settled complete top with ⟨-, rfl⟩ | ⟨base, -, -, rfl, -⟩
  · exact ⟨none, [], rfl⟩
  · exact ⟨base.extent, base.forest.reverse, rfl⟩

/-- The parser stands behind a text and a line feed with this stack. -/
def Behind (above : List Char) (stack : Stack) : Prop :=
  ∀ rest tree, Reads stack ⟨Position.start.down (above.count '\n' + 1), rest⟩ tree ↔
    Reads [] ⟨.start, above ++ '\n' :: rest⟩ tree

/-- A text below an accepted one is read as the rest of one script, further down, unless its first
word is taken for an `else`. -/
theorem Reads.append_line_of {above below : List Char} {extent extent' : Option Span}
    {statements statements' : List Tree}
    (reads : Reads [] ⟨.start, above⟩ (.script extent statements))
    (reads' : Reads [] ⟨.start, below⟩ (.script extent' statements'))
    (other : ∀ stack : Stack, Behind above stack → Scanner.opening below ≠ "else".toList ∨
      (Table.row stack.state).accepts .elseWord = false) :
    Reads [] ⟨.start, above ++ '\n' :: below⟩ (.script
      (Span.join extent (extent'.map (Span.down (above.count '\n' + 1))))
      (statements ++ statements'.map (Tree.down (above.count '\n' + 1)))) := by
  obtain ⟨stack, complete, top, goes⟩ := reads.line
  simp only [Position.after_line] at goes
  refine (goes below _).mp ?_
  have moved : Reads [] ⟨Position.start.down (above.count '\n' + 1), below⟩ _ :=
    reads'.down (above.count '\n' + 1)
  generalize above.count '\n' + 1 = n at moved ⊢
  have script : (Tree.script extent' statements').down n =
      .script (extent'.map (Span.down n)) (statements'.map (Tree.down n)) := by
    simp [Tree.script, Tree.down]
  rw [script] at moved
  rcases Parser.settled complete top with ⟨rfl, nil⟩ | ⟨base, symbol, state, same, inside, last, folds⟩
  · -- Nothing stands above, so the second text is all there is.
    obtain ⟨rfl, rfl⟩ : extent = none ∧ statements = [] := by simpa [Tree.script] using nil
    exact moved
  · obtain ⟨rfl, rfl⟩ : extent = base.extent ∧ statements = base.forest.reverse := by
      simpa [Tree.script, Part.script] using same
    generalize extent'.map (Span.down n) = extent', statements'.map (Tree.down n) = statements'
      at moved ⊢
    cases moved with
    | done empty complete' =>
      rw [Parser.feed_nil rfl] at complete'
      obtain ⟨rfl, rfl⟩ : none = extent' ∧ [] = statements' := by
        simpa [Tree.script] using complete'
      refine .done (Scanner.ahead_eq_done.mpr (Scanner.ahead_eq_done.mp empty)) ?_
      rw [Span.join_none, List.append_nil]
      exact complete
    | word next taken rest =>
      obtain ⟨next', starts⟩ := Scanner.ahead_widen last inside (other stack goes) next
      obtain ⟨q, shift, shift'⟩ := Table.action_starter starts
      have more := Parser.complete?_of_ne (Table.ne_endOfText starts)
      rw [Parser.feed_shift (more []) shift] at taken
      cases taken
      have taken' := (folds _ starts).trans
        (Parser.feed_shift (more [base]) (by simpa [Stack.state, state] using shift'))
      obtain ⟨part, same', rest'⟩ := rest.above symbol state (@Above.inside base [] _ (by
        simp [Part.ofToken, Symbol.isWhole]))
      obtain ⟨rfl, rfl⟩ : extent' = part.extent ∧ statements' = part.forest.reverse := by
        simpa [Tree.script, Part.script] using same'
      refine .word next' taken' ?_
      simpa [Part.script, Part.behind] using rest'

/-- Two accepted texts one below the other are accepted as one: the statements of the first stay
where they are, and those of the second move down by the lines of the first. -/
theorem parse_below {above below : String} {first second : Tree} (parsed : parse above = .ok first)
    (parsed' : parse below = .ok second) (other : Scanner.opening below.toList ≠ "else".toList) :
    ∃ extent statements extent' statements', first = .script extent statements ∧
      second = .script extent' statements' ∧
      parse (above ++ "\n" ++ below) = .ok (.script
        (Span.join extent (extent'.map (Span.down (above.toList.count '\n' + 1))))
        (statements ++ statements'.map (Tree.down (above.toList.count '\n' + 1)))) := by
  have reads := parse_iff.mp parsed
  have reads' := parse_iff.mp parsed'
  obtain ⟨extent, statements, rfl⟩ := reads.script
  obtain ⟨extent', statements', rfl⟩ := reads'.script
  refine ⟨extent, statements, extent', statements', rfl, rfl, parse_iff.mpr ?_⟩
  simpa using reads.append_line_of reads' fun _ _ => .inl other

theorem accepted_above : ∃ t, parse "if x \x7b y; \x7d # else" = .ok t := by decide +kernel

theorem accepted_below : ∃ t, parse "elsewhere = 2;" = .ok t := by decide +kernel

/-- A text that ends in a comment behind a choice, above one that starts with a longer name than
`else`. -/
theorem parse_below_choice : ∃ first second,
    parse "if x \x7b y; \x7d # else" = .ok first ∧ parse "elsewhere = 2;" = .ok second ∧
      Scanner.opening "elsewhere = 2;".toList ≠ "else".toList ∧
      ∃ extent statements extent' statements', first = .script extent statements ∧
        second = .script extent' statements' ∧
        parse ("if x \x7b y; \x7d # else" ++ "\n" ++ "elsewhere = 2;") = .ok (.script
          (Span.join extent (extent'.map (Span.down 1)))
          (statements ++ statements'.map (Tree.down 1))) := by
  obtain ⟨first, parsed⟩ := accepted_above
  obtain ⟨second, parsed'⟩ := accepted_below
  have other : Scanner.opening "elsewhere = 2;".toList ≠ "else".toList := by decide
  exact ⟨first, second, parsed, parsed', other, parse_below parsed parsed' other⟩

/-- Below a choice, the word `else` is no name. -/
example : (parse "if x \x7b y; \x7d").isOk ∧ (parse "else = 2;").isOk ∧
    ¬ (parse "if x \x7b y; \x7d\nelse = 2;").isOk := by decide +kernel

end DeskScript.Syntax
