import DeskScript.Proofs.Derivations
import DeskScript.Proofs.Places

/-!
# Layout does not matter

Blank space and comments may be added to a text in front of every word and at its end. The words that
the parser finds stay the same: a word is found in as much of the text as it takes up, and a break
behind it or behind any of the words that follow does not change it. What the parser does with words
does not depend on their places, so the tree stays the same up to the places in it.
-/

namespace DeskScript.Syntax

open Scanner

/-- The same words in another layout: in front of every word and at the end there may be other blank
space and other comments, but words that were apart stay apart. -/
inductive Spaced : List Token → List Char → List Char → Prop
  | done {p : Position} {cs cs' : List Char} (after : Written p cs' []) (apart : cs' = [] → cs = []) :
      Spaced [] cs cs'
  | word {t : Token} {words : List Token} {gap gap' rest rest' : List Char} (before : Gap gap)
      (after : Gap gap') (apart : gap' = [] → gap = []) (later : Spaced words rest rest') :
      Spaced (t :: words) (gap ++ (t.text.toList ++ rest)) (gap' ++ (t.text.toList ++ rest'))

namespace Scanner

/-! ### Words and what they take up -/

theorem numberLength_le_append (cs more : List Char) : numberLength cs ≤ numberLength (cs ++ more) := by
  by_cases none : numberLength cs = 0
  · rw [none]
    exact Nat.zero_le _
  · have long := le_numberLength (numberText_take none) (cs.drop (numberLength cs) ++ more)
    rwa [← List.append_assoc, List.take_append_drop, List.length_take,
      Nat.min_eq_left (numberLength_le cs)] at long

theorem numberLength_of_append {cs more : List Char} (within : numberLength (cs ++ more) ≤ cs.length) :
    numberLength cs = numberLength (cs ++ more) := by
  refine Nat.le_antisymm (numberLength_le_append cs more) ?_
  by_cases none : numberLength (cs ++ more) = 0
  · rw [none]
    exact Nat.zero_le _
  · have number := numberText_take none
    rw [List.take_append_of_le_length within] at number
    have long := le_numberLength number (cs.drop (numberLength (cs ++ more)))
    rwa [List.take_append_drop, List.length_take, Nat.min_eq_left within] at long

theorem takeWhile_of_append {p : Char → Bool} {cs more : List Char}
    (within : ((cs ++ more).takeWhile p).length ≤ cs.length) :
    cs.takeWhile p = (cs ++ more).takeWhile p := by
  rw [List.takeWhile_append] at within ⊢
  split
  next whole =>
    rw [if_pos whole, List.length_append] at within
    have none : more.takeWhile p = [] := List.eq_nil_of_length_eq_zero (by omega)
    rw [none, List.append_nil]
    exact (List.takeWhile_prefix p).eq_of_length whole
  next => rfl

theorem firstFixed_of_append {words : List (String × Terminal)} {cs more : List Char} {t : Terminal}
    {n : Nat} (found : firstFixed words (cs ++ more) = some (t, n)) (within : n ≤ cs.length) :
    firstFixed words cs = some (t, n) := by
  induction words with
  | nil => cases found
  | cons w words ih =>
    by_cases here : w.1.toList.isPrefixOf (cs ++ more)
    · obtain ⟨rfl, rfl⟩ : w.2 = t ∧ w.1.length = n := by simpa [firstFixed, here] using found
      have fits : w.1.toList.isPrefixOf cs := by
        refine List.isPrefixOf_iff_prefix.mpr ?_
        refine List.prefix_of_prefix_length_le (List.isPrefixOf_iff_prefix.mp here)
          (List.prefix_append cs more) ?_
        rwa [String.length_toList]
      simp [firstFixed, fits]
    · have none : ¬ w.1.toList.isPrefixOf cs := by
        intro fits
        refine here (List.isPrefixOf_iff_prefix.mpr ?_)
        exact (List.isPrefixOf_iff_prefix.mp fits).trans (List.prefix_append cs more)
      have later : firstFixed words (cs ++ more) = some (t, n) := by
        rw [← found]
        simp [firstFixed, here]
      rw [← ih later]
      simp [firstFixed, none]

/-- A word is found in as much of the text as it takes up. -/
theorem lexeme_of_append {accepts : Terminal → Bool} {cs more : List Char} {t : Terminal} {n : Nat}
    (found : lexeme accepts (cs ++ more) = some (t, n)) (within : n ≤ cs.length) :
    lexeme accepts cs = some (t, n) := by
  cases cs with
  | nil => exact absurd (Nat.le_zero.mp within) (takes_of_lexeme found).nonempty
  | cons c cs =>
    simp only [lexeme, List.cons_append] at found ⊢
    by_cases string : accepts .string && c = '"'
    · simp only [string, if_true] at found ⊢
      obtain ⟨m, closed, same⟩ := Option.map_eq_some_iff.mp found
      obtain ⟨rfl, rfl⟩ : Terminal.string = t ∧ m + 1 = n := by simpa using same
      have inside : m ≤ cs.length := Nat.le_of_succ_le_succ within
      have tail := stringTail_take closed
      rw [List.take_append_of_le_length inside] at tail
      have closed' := stringTail_eq tail (cs.drop m)
      rw [List.take_append_drop, List.length_take, Nat.min_eq_left inside] at closed'
      simp [closed']
    · simp only [string, Bool.false_eq_true, if_false] at found ⊢
      split at found
      next number =>
        obtain ⟨rfl, rfl⟩ : Terminal.number = t ∧ numberLength (c :: (cs ++ more)) = n := by
          simpa using found
        have same : numberLength (c :: cs) = numberLength (c :: (cs ++ more)) :=
          numberLength_of_append within
        rw [same, if_pos number]
      next number =>
        have none : ¬ (accepts .number && numberLength (c :: cs) ≠ 0) := by
          have fewer : numberLength (c :: cs) ≤ numberLength (c :: (cs ++ more)) :=
            numberLength_le_append (c :: cs) more
          simp only [Bool.and_eq_true, decide_eq_true_eq, not_and, not_not] at number ⊢
          intro acceptable
          have := number acceptable
          omega
        rw [if_neg none]
        split at found
        next name =>
          obtain ⟨rfl, rfl⟩ := Prod.mk.inj (Option.some.inj found)
          have same : (c :: cs).takeWhile isNamePart = (c :: (cs ++ more)).takeWhile isNamePart :=
            takeWhile_of_append within
          rw [if_pos name, same]
        next name =>
          rw [if_neg name]
          exact @firstFixed_of_append _ (c :: cs) more t n found within

end Scanner

/-! ### The same words -/

theorem Gap.head {c : Char} {cs : List Char} (gap : Gap (c :: cs)) : isBreak c := by
  cases gap with
  | blank blank => exact isBreak_of_isBlank blank
  | comment => rfl

theorem Spaced.cut {t : Token} {words : List Token} {cs cs' : List Char}
    (spaced : Spaced (t :: words) cs cs') :
    ∃ gap gap' rest rest', cs = gap ++ (t.text.toList ++ rest) ∧
      cs' = gap' ++ (t.text.toList ++ rest') ∧ Gap gap ∧ Gap gap' ∧ Spaced words rest rest' := by
  cases spaced with
  | word before after _ later => exact ⟨_, _, _, _, rfl, rfl, before, after, later⟩

/-- Two layouts of the same words are the same text, or a break in the second comes first. -/
theorem Spaced.cases {words : List Token} {cs cs' : List Char} (spaced : Spaced words cs cs') :
    cs' = cs ∨ ∃ same more b more', cs = same ++ more ∧ cs' = same ++ b :: more' ∧ isBreak b := by
  induction spaced with
  | @done p cs cs' after apart =>
    cases cs' with
    | nil => exact .inl (apart rfl).symm
    | cons b more' =>
      refine .inr ⟨[], cs, b, more', rfl, rfl, ?_⟩
      generalize same : b :: more' = text at after
      cases after with
      | done between =>
        subst same
        exact between.head
      | @comment _ gap text between line =>
        cases gap with
        | nil =>
          cases same
          rfl
        | cons c gap =>
          cases same
          exact between.head
  | @word t words gap gap' rest rest' before after apart later ih =>
    cases gap' with
    | nil =>
      obtain rfl := apart rfl
      rcases ih with rfl | ⟨same, more, b, more', rfl, rfl, stop⟩
      · exact .inl rfl
      · exact .inr ⟨t.text.toList ++ same, more, b, more', by simp, by simp, stop⟩
    | cons b gap' => exact .inr ⟨[], _, b, _, rfl, rfl, after.head⟩

/-- A word in front of words in another layout is found as before. -/
theorem Spaced.lexeme {words : List Token} {cs cs' word : List Char} (spaced : Spaced words cs cs')
    {accepts : Terminal → Bool} {t : Terminal}
    (found : lexeme accepts (word ++ cs) = some (t, word.length)) :
    lexeme accepts (word ++ cs') = some (t, word.length) := by
  rcases spaced.cases with rfl | ⟨same, more, b, more', rfl, rfl, stop⟩
  · exact found
  · rw [← List.append_assoc] at found ⊢
    have alone := lexeme_of_append found (by simp)
    exact (lexeme_break alone stop more').1

theorem Spaced.ahead_done {cs cs' : List Char} (spaced : Spaced [] cs cs')
    (accepts : Terminal → Bool) (p : Position) : ahead accepts ⟨p, cs'⟩ = .done := by
  refine ahead_eq_done.mpr ?_
  cases spaced with
  | @done q _ _ after _ =>
    cases after with
    | done between =>
      have skipped := skip_append_gap between p []
      rw [List.append_nil] at skipped
      rw [skipped]
      rfl
    | @comment _ gap text between line =>
      simp only [skip_append_gap between]
      have hash : skip false (p.after gap) ('#' :: text) = skip true ((p.after gap).next '#') text := by
        simp [skip, isBlank]
      rw [hash]
      rcases skip_comment ((p.after gap).next '#') text with ⟨-, empty⟩ | ⟨_, _, -, rfl, -⟩
      · exact empty
      · exact absurd (by simp) line

namespace Parser

theorem words_done {stack : Stack} {cursor : Cursor}
    (done : ahead (Table.row stack.state).accepts cursor = .done) : words stack cursor = [] := by
  rw [← next_step] at done
  rw [words]
  cases next : cursor.next (Table.row stack.state).accepts <;> simp_all [Next.step]

theorem words_word {stack stack' : Stack} {cursor after : Cursor} {t : Token}
    (ahead : ahead (Table.row stack.state).accepts cursor = .word t after)
    (taken : feed t stack = .taken stack') : words stack cursor = t :: words stack' after := by
  rw [← next_step] at ahead
  rw [words]
  cases next : cursor.next (Table.row stack.state).accepts with
  | done => simp [next, Next.step] at ahead
  | word t' after' shorter =>
    obtain ⟨rfl, rfl⟩ : t' = t ∧ after' = after := by simpa [next, Next.step] using ahead
    simp only [taken]
  | stray place => simp [next, Next.step] at ahead

end Parser

/-! ### The same tree -/

/-- All places are one. -/
def Position.forget : Position → Position := fun _ => .start

/-- Two stacks that differ in places alone. -/
def Alike (stack stack' : Stack) : Prop :=
  stack'.map (Part.move Position.forget) = stack.map (Part.move Position.forget)

theorem Alike.state {stack stack' : Stack} (alike : Alike stack stack') :
    stack'.state = stack.state := by
  rw [← Parser.state_move Position.forget stack', alike, Parser.state_move]

/-- What the parser does with a word does not depend on places. -/
theorem Alike.feed {stack stack' : Stack} (alike : Alike stack stack') {t t' : Token}
    (terminal : t'.terminal = t.terminal) (text : t'.text = t.text) :
    (Parser.feed t' stack').move .forget = (Parser.feed t stack).move .forget := by
  have token : t'.move Position.forget = t.move Position.forget := by
    rw [Token.move, Token.move, terminal, text]
    rfl
  rw [← Parser.feed_move, ← Parser.feed_move, token, alike]

theorem Alike.taken {stack stack' : Stack} (alike : Alike stack stack') {t t' : Token}
    (terminal : t'.terminal = t.terminal) (text : t'.text = t.text) {after : Stack}
    (taken : Parser.feed t stack = .taken after) :
    ∃ after', Parser.feed t' stack' = .taken after' ∧ Alike after after' := by
  have answer := alike.feed terminal text
  rw [taken] at answer
  exact Parser.Answer.move_eq_taken _ answer

theorem Alike.complete {stack stack' : Stack} (alike : Alike stack stack') {tree : Tree}
    (complete : Parser.feed Parser.ending stack = .complete tree) :
    ∃ tree', Parser.feed Parser.ending stack' = .complete tree' ∧ tree'.bare = tree.bare := by
  have answer := @Alike.feed _ _ alike Parser.ending Parser.ending rfl rfl
  rw [complete] at answer
  obtain ⟨tree', fed, same⟩ := Parser.Answer.move_eq_complete _ answer
  refine ⟨tree', fed, ?_⟩
  rw [← Tree.bare_respan _ tree', ← Tree.bare_respan _ tree]
  exact congrArg Tree.bare same

theorem Reads.spaced {stack stack' : Stack} {cursor : Cursor} {tree : Tree}
    (reads : Reads stack cursor tree) (alike : Alike stack stack') {cs : List Char}
    (spaced : Spaced (Parser.words stack cursor) cursor.rest cs) (p : Position) :
    ∃ tree', Reads stack' ⟨p, cs⟩ tree' ∧ tree'.bare = tree.bare := by
  induction reads generalizing stack' cs p with
  | @done stack cursor tree empty complete =>
    rw [Parser.words_done empty] at spaced
    obtain ⟨tree', complete', same⟩ := alike.complete complete
    exact ⟨tree', .done (spaced.ahead_done _ p) complete', same⟩
  | @word stack stack₁ cursor after t tree next taken _ ih =>
    obtain ⟨q, text⟩ := cursor
    obtain ⟨gap, word, between, cut, found, same, -⟩ := found_of_word next
    have letters : t.text.toList = word := by rw [same, String.toList_ofList]
    rw [Parser.words_word next taken] at spaced
    obtain ⟨gap₀, gap', rest, rest', cut', rfl, before, behind, later⟩ := spaced.cut
    rw [letters] at cut' ⊢
    -- The text is cut up into a gap, the word and the rest in one way only.
    have spells := (takes_of_lexeme found).spells
    rw [List.take_left] at spells
    obtain rfl : rest = after.rest := by
      have skipped := skip_word spells before q rest
      rw [← cut', cut, skip_word spells between] at skipped
      simpa using congrArg Cursor.rest skipped.symm
    have next' := ahead_found (later.lexeme found) behind p
    rw [← alike.state] at next'
    obtain ⟨stack₂, taken', alike'⟩ := @Alike.taken _ _ alike t
      ⟨t.terminal, String.ofList word, ⟨p.after gap', (p.after gap').after word⟩⟩ rfl
      (by rw [← letters, String.ofList_toList]) _ taken
    obtain ⟨tree', reads', bare⟩ := ih alike' later ((p.after gap').after word)
    exact ⟨tree', .word next' taken' reads', bare⟩

/-- Blank space and comments between words change nothing in the tree of a text but the places. -/
theorem parse_spaced {source text : String} {tree : Tree} (parsed : parse source = .ok tree)
    (spaced : Spaced (wordsOf source) source.toList text.toList) :
    ∃ tree', parse text = .ok tree' ∧ tree'.bare = tree.bare := by
  have empty : Alike [] [] := rfl
  obtain ⟨tree', reads, same⟩ := (parse_iff.mp parsed).spaced empty spaced .start
  exact ⟨tree', parse_iff.mpr reads, same⟩

/-- A comment behind a number that stood next to the following word, and one that ends the text. -/
theorem parse_spaced_sum : ∃ tree tree', parse "1+y;" = .ok tree ∧
    Spaced (wordsOf "1+y;") "1+y;".toList "\t1#e5\n+ y;#z".toList ∧
    parse "\t1#e5\n+ y;#z" = .ok tree' ∧ tree'.bare = tree.bare := by
  obtain ⟨tree, parsed⟩ : ∃ tree, parse "1+y;" = .ok tree := by decide +kernel
  have words : wordsOf "1+y;" = [⟨.number, "1", ⟨⟨1, 1⟩, ⟨1, 2⟩⟩⟩, ⟨.plus, "+", ⟨⟨1, 2⟩, ⟨1, 3⟩⟩⟩,
      ⟨.name, "y", ⟨⟨1, 3⟩, ⟨1, 4⟩⟩⟩, ⟨.semicolon, ";", ⟨⟨1, 4⟩, ⟨1, 5⟩⟩⟩] := by decide +kernel
  have comment : Gap ('#' :: (['e', '5'] ++ '\n' :: [])) := .comment (by decide) .nil
  have last : Written .start ([] ++ '#' :: ['z']) [] := .comment .nil (by decide)
  have blank : ∀ {c}, isBlank c → Gap [c] := fun blank => .blank blank .nil
  have spaced : Spaced (wordsOf "1+y;") "1+y;".toList "\t1#e5\n+ y;#z".toList := by
    rw [words]
    exact .word .nil (blank rfl) (by simp) (.word .nil comment (by simp)
      (.word .nil (blank rfl) (by simp) (.word .nil .nil (by simp) (.done last (by simp)))))
  obtain ⟨tree', parsed', same⟩ := parse_spaced parsed spaced
  exact ⟨tree, tree', parsed, spaced, parsed', same⟩

end DeskScript.Syntax
