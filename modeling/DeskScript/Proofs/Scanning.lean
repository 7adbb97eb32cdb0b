import DeskScript.Proofs.Checkable

/-!
# Texts that are read to their end

How the parser gets through a text that it accepts, word by word. Which word stands next depends on
the state of the parser, but not on anything after the line on which the word stands: a line feed
behind a text leaves all of its words as they are.
-/

namespace DeskScript.Syntax

/-- What stands next in a text of any length. -/
inductive Step where
  | word (t : Token) (after : Cursor)
  | done
  | stray (place : Cursor)

/-- What stands next, without the promise that the text gets shorter. -/
def Next.step {limit : Nat} : Next limit → Step
  | .word t after _ => .word t after
  | .done => .done
  | .stray place => .stray place

namespace Scanner

/-- What stands in front at a place that is past blank space and comments. -/
def front (accepts : Terminal → Bool) (p : Position) : List Char → Step
  | [] => .done
  | c :: cs =>
    match lexeme accepts (c :: cs) with
    | none => .stray ⟨p, c :: cs⟩
    | some (t, n) =>
      let word := c :: cs.take (n - 1)
      .word ⟨t, String.ofList word, ⟨p, p.after word⟩⟩ ⟨p.after word, cs.drop (n - 1)⟩

/-- What stands next from a cursor on. -/
def ahead (accepts : Terminal → Bool) (cursor : Cursor) : Step :=
  let here := skip false cursor.position cursor.rest
  front accepts here.position here.rest

theorem next_step (accepts : Terminal → Bool) (cursor : Cursor) :
    (cursor.next accepts).step = ahead accepts cursor := by
  unfold Cursor.next
  split
  next p empty => simp [ahead, empty, front, Next.step]
  next p c cs here =>
    cases word : lexeme accepts (c :: cs) with
    | none => simp [ahead, here, front, word, Next.step]
    | some found =>
      obtain ⟨t, n⟩ := found
      simp [ahead, here, front, word, Next.step]

end Scanner

/-! ### Accepted texts -/

variable {stack : Stack} {tree : Tree} {cursor : Cursor} {t : Token} {p : Position}

namespace Parser

/-- The end of a text that has no words. -/
abbrev ending : Token := endToken none

theorem feed_shift {state : Nat} (more : complete? t stack = none)
    (action : (Table.row stack.state).action t.terminal = some (.shift state)) :
    feed t stack = .taken (Part.ofToken state t :: stack) := by
  rw [feed, more, action]

theorem feed_fold {stack' : Stack} {i : Nat} (more : complete? t stack = none)
    (action : (Table.row stack.state).action t.terminal = some (.fold i))
    (folded : foldNumber? i stack = some stack') : feed t stack = feed t stack' := by
  rw [feed, more, action]
  simp only
  split
  next none => rw [folded] at none; cases none
  next again => rw [folded] at again; cases again; rfl

/-- How a word completes a script depends on its terminal alone. -/
theorem feed_complete {t' : Token} (same : t'.terminal = t.terminal)
    (complete : feed t stack = .complete tree) : feed t' stack = .complete tree := by
  have alike : ∀ stack, complete? t' stack = complete? t stack := by
    intro stack
    unfold complete?
    rw [same]
  fun_induction feed t stack with
  | case1 stack tree' found =>
    rw [feed, alike, found]
    exact complete
  | case2 => cases complete
  | case3 => cases complete
  | case4 => cases complete
  | case5 stack more i action stack' folded ih =>
    rw [feed_fold ((alike stack).trans more) (by rw [same, action]) folded]
    exact ih complete

/-- A word that is taken lies on top of the stack. -/
theorem feed_taken {stack' : Stack} (taken : feed t stack = .taken stack') :
    ∃ q state below, (Table.row q).action t.terminal = some (.shift state) ∧
      stack' = Part.ofToken state t :: below := by
  obtain ⟨state, below, -, same, shift⟩ := (@feed_keeps (fun _ => True) (fun _ _ => trivial) t _ trivial).1 _ taken
  exact ⟨_, state, below, shift, same⟩

end Parser

/-- From a stack and a cursor on, the parser reads the text to its end and gets a tree. -/
inductive Reads : Stack → Cursor → Tree → Prop
  | done {stack : Stack} {cursor : Cursor} {tree : Tree}
      (empty : Scanner.ahead (Table.row stack.state).accepts cursor = .done)
      (complete : Parser.feed Parser.ending stack = .complete tree) : Reads stack cursor tree
  | word {stack stack' : Stack} {cursor after : Cursor} {t : Token} {tree : Tree}
      (next : Scanner.ahead (Table.row stack.state).accepts cursor = .word t after)
      (taken : Parser.feed t stack = .taken stack') (rest : Reads stack' after tree) :
      Reads stack cursor tree

namespace Parser

theorem reads_of_run {last : Option Token} (parsed : run stack last cursor = .ok tree) :
    Reads stack cursor tree := by
  fun_induction run stack last cursor with
  | case1 stack last cursor empty t tree' complete =>
    obtain rfl : tree' = tree := by simpa using parsed
    refine .done ?_ (feed_complete (show ending.terminal = t.terminal from rfl) complete)
    rw [← Scanner.next_step, empty]
    rfl
  | case2 => cases parsed
  | case3 => cases parsed
  | case4 stack last cursor t after shorter next stack' taken ih =>
    refine .word ?_ taken (ih parsed)
    rw [← Scanner.next_step, next]
    rfl
  | case5 => cases parsed

theorem run_of_reads (reads : Reads stack cursor tree) (last : Option Token) :
    run stack last cursor = .ok tree := by
  induction reads generalizing last with
  | @done stack cursor tree empty complete =>
    rw [← Scanner.next_step] at empty
    rw [run]
    cases next : cursor.next (Table.row stack.state).accepts with
    | done =>
      have terminal : (endToken last).terminal = ending.terminal := rfl
      have complete' := feed_complete terminal complete
      simp [complete']
    | word t after shorter => simp [next, Next.step] at empty
    | stray place => simp [next, Next.step] at empty
  | @word stack stack' cursor after t tree ahead taken _ ih =>
    rw [← Scanner.next_step] at ahead
    rw [run]
    cases next : cursor.next (Table.row stack.state).accepts with
    | done => simp [next, Next.step] at ahead
    | word t' after' shorter =>
      obtain ⟨rfl, rfl⟩ : t' = t ∧ after' = after := by simpa [next, Next.step] using ahead
      simp [taken, ih]
    | stray place => simp [next, Next.step] at ahead

end Parser

/-- A text has a tree exactly if it is read to its end. -/
theorem parse_iff {source : String} :
    parse source = .ok tree ↔ Reads [] ⟨.start, source.toList⟩ tree :=
  ⟨Parser.reads_of_run, fun reads => Parser.run_of_reads reads none⟩

/-! ### A break behind a text -/

namespace Terminal

/-- The terminals with a fixed spelling, in any order. -/
def spelled : List (String × Terminal) := calls ++ keywords ++ marks

theorem mem_spelled {w : String × Terminal} (member : w ∈ fixed) : w ∈ spelled := by
  simp only [fixed, List.mem_flatMap] at member
  obtain ⟨n, -, here⟩ := member
  exact (List.mem_filter.mp here).1

end Terminal

namespace Scanner

variable {c : Char} {cs : List Char} {accepts : Terminal → Bool} {n : Nat}

theorem isBlank_iff :
    isBlank c ↔ c = ' ' ∨ c = '\t' ∨ c = '\x0c' ∨ c = '\r' ∨ c = '\n' := by
  simp [isBlank, or_assoc]

/-- What stands between words starts with a blank or as a comment does. -/
def isBreak (c : Char) : Bool := isBlank c || c = '#'

theorem isBreak_of_isBlank (blank : isBlank c) : isBreak c := by simp [isBreak, blank]

/-- No name and no number goes on with a break. -/
theorem ends_of_isBreak (stop : isBreak c) :
    isNamePart c = false ∧ isDigit c = false ∧ c ≠ '.' ∧ c ≠ '+' ∧ c ≠ '-' ∧ c ≠ 'e' ∧ c ≠ 'E' := by
  simp only [isBreak, Bool.or_eq_true, isBlank_iff, decide_eq_true_eq] at stop
  rcases stop with (rfl | rfl | rfl | rfl | rfl) | rfl <;> decide

theorem takeWhile_stop {p : Char → Bool} (stop : p c = false) (cs rest : List Char) :
    (cs ++ c :: rest).takeWhile p = cs.takeWhile p := by
  induction cs with
  | nil => simp [stop]
  | cons d cs ih => by_cases h : p d <;> simp [h, ih]

theorem digits_break (stop : isBreak c) (cs rest : List Char) :
    digits (cs ++ c :: rest) = digits cs := by
  rw [digits, digits, takeWhile_stop (ends_of_isBreak stop).2.1]

theorem digits_le (cs : List Char) : digits cs ≤ cs.length :=
  (List.takeWhile_prefix isDigit).length_le

theorem take_digits (cs : List Char) : cs.take (digits cs) = cs.takeWhile isDigit :=
  (List.prefix_iff_eq_take.mp (List.takeWhile_prefix isDigit)).symm

theorem isDigit_of_mem_take : ∀ c ∈ cs.take (digits cs), isDigit c := by
  intro c member
  rw [take_digits] at member
  exact List.all_eq_true.mp List.all_takeWhile c member

theorem exponentLength_break (stop : isBreak c) (cs rest : List Char) :
    exponentLength (cs ++ c :: rest) = exponentLength cs := by
  obtain ⟨-, digit, -, plus, minus, lower, upper⟩ := ends_of_isBreak stop
  cases cs with
  | nil => simp [exponentLength, lower, upper]
  | cons e cs =>
    by_cases mark : e = 'e' ∨ e = 'E'
    · -- What follows the letter is a sign or not, and then digits or not.
      rcases cs with _ | ⟨d, cs⟩
      · simp [exponentLength, mark, digits, digit, plus, minus]
      · by_cases plus : d = '+'
        · subst plus
          simp [exponentLength, digits_break stop]
        · by_cases minus : d = '-'
          · subst minus
            simp [exponentLength, digits_break stop]
          · have more := digits_break stop (d :: cs) rest
            simp only [List.cons_append] at more
            simp [exponentLength, more, plus, minus]
    · simp [exponentLength, mark]

theorem exponentLength_le (cs : List Char) : exponentLength cs ≤ cs.length := by
  cases cs with
  | nil => simp [exponentLength]
  | cons e cs =>
    have bound : ∀ sign, (if digits (cs.drop sign) = 0 then 0 else 1 + sign + digits (cs.drop sign)) ≤
        cs.length + 1 := by
      intro sign
      have within := digits_le (cs.drop sign)
      rw [List.length_drop] at within
      split <;> omega
    simp only [exponentLength, List.length_cons]
    split
    · split <;> exact bound _
    · omega

theorem numberLength_break (stop : isBreak c) (cs rest : List Char) :
    numberLength (cs ++ c :: rest) = numberLength cs := by
  obtain ⟨-, -, point, -, -, lower, upper⟩ := ends_of_isBreak stop
  have behind : (cs ++ c :: rest).drop (digits cs) = cs.drop (digits cs) ++ c :: rest :=
    List.drop_append_of_le_length (digits_le cs)
  simp only [numberLength, digits_break stop, behind]
  rcases cs.drop (digits cs) with _ | ⟨d, more⟩
  · simp [exponentLength, point, lower, upper]
  · by_cases point : d = '.'
    · subst point
      have fraction : (more ++ c :: rest).drop (digits more) =
          more.drop (digits more) ++ c :: rest := List.drop_append_of_le_length (digits_le more)
      simp only [List.cons_append, digits_break stop, fraction, exponentLength_break stop]
    · have exponent := exponentLength_break stop (d :: more) rest
      simp only [List.cons_append] at exponent
      simp [point, exponent]

theorem numberLength_le (cs : List Char) : numberLength cs ≤ cs.length := by
  have whole := digits_le cs
  have behind : (cs.drop (digits cs)).length = cs.length - digits cs := List.length_drop
  simp only [numberLength]
  split
  next more here =>
    rw [here, List.length_cons] at behind
    have fraction := digits_le more
    have exponent := exponentLength_le (more.drop (digits more))
    rw [List.length_drop] at exponent
    split <;> omega
  next more =>
    have exponent := exponentLength_le (cs.drop (digits cs))
    split <;> omega

theorem stringTail_append (closed : stringTail cs = some n)
    (rest : List Char) : stringTail (cs ++ rest) = some n ∧ n ≤ cs.length := by
  fun_induction stringTail cs generalizing n with
  | case1 => cases closed
  | case2 cs =>
    obtain rfl : 1 = n := by simpa using closed
    simp [stringTail]
  | case3 => cases closed
  | case4 => cases closed
  | case5 c cs other ih =>
    obtain ⟨m, inner, rfl⟩ := Option.map_eq_some_iff.mp closed
    obtain ⟨same, bound⟩ := ih inner
    simp [stringTail, other, same, bound]
  | case6 c cs quote feed escape ih =>
    obtain ⟨m, inner, rfl⟩ := Option.map_eq_some_iff.mp closed
    obtain ⟨same, bound⟩ := ih inner
    -- A backslash here would be the last character, and the string would not be closed.
    have plain : c ≠ '\\' := by
      rintro rfl
      cases cs with
      | nil => cases inner
      | cons c' cs' => exact escape c' cs' rfl rfl
    have same' : stringTail (c :: (cs ++ rest)) = (stringTail (cs ++ rest)).map (· + 1) :=
      stringTail.eq_5 c _ quote feed fun _ _ here => absurd here plain
    exact ⟨by rw [List.cons_append, same', same]; rfl, by simp [bound]⟩

theorem spelled_unbroken {w : String × Terminal} (member : w ∈ Terminal.spelled)
    (inside : c ∈ w.1.toList) : isBreak c = false := by
  have checked : Terminal.spelled.all fun w => w.1.toList.all fun c => !isBreak c := by
    decide
  simp only [List.all_eq_true, Bool.not_eq_true'] at checked
  exact checked w member c inside

theorem isPrefixOf_stop {word : List Char} (apart : c ∉ word) (cs rest : List Char) :
    word.isPrefixOf (cs ++ c :: rest) = word.isPrefixOf cs := by
  induction word generalizing cs with
  | nil => simp
  | cons d word ih =>
    simp only [List.mem_cons, not_or] at apart
    cases cs with
    | nil => simp [List.isPrefixOf, Ne.symm apart.1]
    | cons e cs => simp [List.isPrefixOf, ih apart.2]

/-- Whichever of some words comes first in a list is found, whatever is behind a character that is in
none of them. -/
theorem find?_isPrefixOf_stop {α : Type} {words : List (String × α)}
    (apart : ∀ w ∈ words, c ∉ w.1.toList) (cs rest : List Char) :
    words.find? (fun w => w.1.toList.isPrefixOf (cs ++ c :: rest)) =
      words.find? fun w => w.1.toList.isPrefixOf cs := by
  induction words with
  | nil => rfl
  | cons w words ih =>
    have here := isPrefixOf_stop (apart w List.mem_cons_self) cs rest
    have later := ih fun w member => apart w (List.mem_cons_of_mem _ member)
    simp only [List.find?_cons, here, later]

theorem firstFixed_stop {words : List (String × Terminal)}
    (apart : ∀ w ∈ words, c ∉ w.1.toList) (cs rest : List Char) :
    firstFixed words (cs ++ c :: rest) = firstFixed words cs := by
  rw [firstFixed, firstFixed, find?_isPrefixOf_stop apart]

theorem firstFixed_le {words : List (String × Terminal)} {t : Terminal}
    (found : firstFixed words cs = some (t, n)) : n ≤ cs.length := by
  obtain ⟨w, first, same⟩ := Option.map_eq_some_iff.mp found
  obtain ⟨rfl, rfl⟩ : w.2 = t ∧ w.1.length = n := by simpa using same
  have fits : w.1.toList <+: cs := by
    have here := List.find?_some first
    exact List.isPrefixOf_iff_prefix.mp (by simpa using here)
  calc w.1.length = w.1.toList.length := String.length_toList.symm
    _ ≤ cs.length := fits.length_le

/-- The first characters of a text as a word. -/
theorem cons_take (some : n ≠ 0) :
    c :: cs.take (n - 1) = (c :: cs).take n ∧ cs.drop (n - 1) = (c :: cs).drop n := by
  obtain ⟨m, rfl⟩ := Nat.exists_eq_succ_of_ne_zero some
  exact ⟨rfl, rfl⟩

/-- A break behind a text does not change the word in front, which lies before it. -/
theorem lexeme_break {t : Terminal}
    (found : lexeme accepts cs = some (t, n)) {b : Char} (stop : isBreak b) (rest : List Char) :
    lexeme accepts (cs ++ b :: rest) = some (t, n) ∧ n ≤ cs.length := by
  cases cs with
  | nil => cases found
  | cons c cs =>
    have number := numberLength_break stop (c :: cs) rest
    have numberBound := numberLength_le (c :: cs)
    have word := takeWhile_stop (ends_of_isBreak stop).1 (c :: cs) rest
    have apart : ∀ w ∈ Terminal.fixed.filter fun w => accepts w.2, b ∉ w.1.toList := by
      intro w member inside
      rw [spelled_unbroken (Terminal.mem_spelled (List.mem_filter.mp member).1) inside] at stop
      cases stop
    have fixed := firstFixed_stop apart (c :: cs) rest
    simp only [List.cons_append] at number word fixed
    simp only [lexeme, List.cons_append, number, word, fixed] at found ⊢
    by_cases string : accepts .string && c = '"'
    · simp only [string, if_true] at found ⊢
      obtain ⟨m, closed, same⟩ := Option.map_eq_some_iff.mp found
      obtain ⟨closed', bound⟩ := stringTail_append closed (b :: rest)
      obtain ⟨rfl, rfl⟩ : Terminal.string = t ∧ m + 1 = n := by simpa using same
      simp [closed', bound]
    · simp only [string, Bool.false_eq_true, if_false] at found ⊢
      refine ⟨found, ?_⟩
      split at found
      · obtain ⟨-, rfl⟩ : _ ∧ numberLength (c :: cs) = n := by simpa using found
        exact numberBound
      · split at found
        · obtain ⟨-, rfl⟩ : _ ∧ ((c :: cs).takeWhile isNamePart).length = n := by simpa using found
          exact (List.takeWhile_prefix isNamePart).length_le
        · exact firstFixed_le found

/-! ### A line feed behind a text -/

/-- What is left after blank space and comments ends where the text ends. -/
theorem skip_after (inComment : Bool) (p : Position) (cs : List Char) :
    (skip inComment p cs).position.after (skip inComment p cs).rest = p.after cs := by
  induction cs generalizing inComment p with
  | nil => rfl
  | cons c cs ih =>
    simp only [skip]
    split
    · exact ih _ _
    · split
      · exact ih _ _
      · split
        · exact ih _ _
        · rfl

/-- Blank space goes on behind a line feed, which also ends a comment. -/
theorem skip_line_nil {inComment : Bool} (empty : (skip inComment p cs).rest = [])
    (rest : List Char) :
    skip inComment p (cs ++ '\n' :: rest) = skip false ((p.after cs).next '\n') rest := by
  induction cs generalizing inComment p with
  | nil => cases inComment <;> simp [skip, isBlank, Position.after_nil]
  | cons c cs ih =>
    simp only [skip] at empty
    simp only [List.cons_append, skip]
    split at empty
    next comment => rw [if_pos comment]; exact ih empty
    next comment =>
      rw [if_neg comment]
      split at empty
      next blank => rw [if_pos blank]; exact ih empty
      next blank =>
        rw [if_neg blank]
        split at empty
        next hash => rw [if_pos hash]; exact ih empty
        next hash => cases empty

theorem skip_line_cons {inComment : Bool} {q : Position} {cs more : List Char}
    (here : skip inComment p cs = ⟨q, c :: more⟩) (rest : List Char) :
    skip inComment p (cs ++ '\n' :: rest) = ⟨q, c :: more ++ '\n' :: rest⟩ := by
  induction cs generalizing inComment p with
  | nil => cases here
  | cons d cs ih =>
    simp only [skip] at here
    simp only [List.cons_append, skip]
    split at here
    next comment => rw [if_pos comment]; exact ih here
    next comment =>
      rw [if_neg comment]
      split at here
      next blank => rw [if_pos blank]; exact ih here
      next blank =>
        rw [if_neg blank]
        split at here
        next hash => rw [if_pos hash]; exact ih here
        next hash => rw [if_neg hash]; cases here; rfl

theorem ahead_eq_done :
    ahead accepts cursor = .done ↔ (skip false cursor.position cursor.rest).rest = [] := by
  cases here : (skip false cursor.position cursor.rest).rest with
  | nil => simp [ahead, here, front]
  | cons c cs =>
    cases word : lexeme accepts (c :: cs) <;> simp [ahead, here, front, word]

/-- What stands next lies behind the line feed if nothing stands before it. -/
theorem ahead_line_done (empty : ahead accepts ⟨p, cs⟩ = .done) (accepts' : Terminal → Bool)
    (rest : List Char) :
    ahead accepts' ⟨p, cs ++ '\n' :: rest⟩ = ahead accepts' ⟨(p.after cs).next '\n', rest⟩ := by
  simp only [ahead, skip_line_nil (ahead_eq_done.mp empty) rest]

/-- A word stands next whatever comes behind the line feed. -/
theorem ahead_line_word {q : Position} {cs more : List Char}
    (next : ahead accepts ⟨p, cs⟩ = .word t ⟨q, more⟩) (rest : List Char) :
    ahead accepts ⟨p, cs ++ '\n' :: rest⟩ = .word t ⟨q, more ++ '\n' :: rest⟩ ∧
      q.after more = p.after cs := by
  have whole := skip_after false p cs
  cases here : skip false p cs with
  | mk first left =>
    rw [here] at whole
    simp only at whole
    cases left with
    | nil => simp [ahead, here, front] at next
    | cons c left =>
      simp only [ahead, here, front] at next
      split at next
      case h_1 => cases next
      case h_2 terminal n found =>
        obtain ⟨found', bound⟩ := lexeme_break (b := '\n') found (by decide) rest
        have inside : n - 1 ≤ left.length := by
          rw [List.length_cons] at bound
          omega
        simp only [Step.word.injEq, Cursor.mk.injEq] at next
        obtain ⟨rfl, rfl, rfl⟩ := next
        constructor
        · simp only [ahead, skip_line_cons here rest, front, List.cons_append] at found' ⊢
          simp only [found', List.take_append_of_le_length inside,
            List.drop_append_of_le_length inside]
        · rw [← Position.after_append, List.cons_append, List.take_append_drop, whole]

end Scanner

/-- A line feed behind an accepted text changes nothing in how the text is read: the parser gets to
a stack that the end of the text would complete, and goes on from it with the next line. -/
theorem Reads.line (reads : Reads stack cursor tree) :
    ∃ stack', Parser.feed Parser.ending stack' = .complete tree ∧
      (stack' = stack ∨ ∃ state t below, stack' = Part.ofToken state t :: below) ∧
      ∀ rest tree', Reads stack' ⟨(cursor.position.after cursor.rest).next '\n', rest⟩ tree' ↔
        Reads stack ⟨cursor.position, cursor.rest ++ '\n' :: rest⟩ tree' := by
  induction reads with
  | @done stack cursor tree empty complete =>
    refine ⟨stack, complete, .inl rfl, fun rest tree' => ?_⟩
    have same := fun accepts => Scanner.ahead_line_done empty accepts rest
    constructor <;> rintro (⟨empty', complete'⟩ | ⟨next, taken, later⟩)
    · exact .done (by rw [same]; exact empty') complete'
    · exact .word (by rw [same]; exact next) taken later
    · exact .done (by rw [← same]; exact empty') complete'
    · exact .word (by rw [← same]; exact next) taken later
  | @word stack stack' cursor after t tree next taken _ ih =>
    obtain ⟨last, complete, top, goes⟩ := ih
    obtain ⟨p, cs⟩ := cursor
    obtain ⟨q, more⟩ := after
    refine ⟨last, complete, .inr ?_, fun rest tree' => ?_⟩
    · rcases top with rfl | words
      · obtain ⟨-, state, below, -, same⟩ := Parser.feed_taken taken
        exact ⟨state, t, below, same⟩
      · exact words
    · obtain ⟨next', whole⟩ := Scanner.ahead_line_word next rest
      have goes' := goes rest tree'
      simp only [whole] at goes'
      rw [goes']
      constructor
      · exact .word next' taken
      · rintro (⟨empty', -⟩ | ⟨next'', taken', later⟩)
        · cases next'.symm.trans empty'
        · cases next'.symm.trans next''
          cases taken.symm.trans taken'
          exact later

end DeskScript.Syntax
