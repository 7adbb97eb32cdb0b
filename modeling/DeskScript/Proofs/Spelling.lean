import DeskScript.Proofs.Scanning
import Mathlib.Data.List.Nodup

/-!
# The spelling of words

What names, numbers, strings and the words with a fixed spelling look like, and how a text is laid
out in words with blank space and comments between them, both said without the scanner. The scanner
finds words that are spelled so, as long ones as the text allows; and it finds every such word that
stands alone, if the word is acceptable and is no reserved word taken for a name.
-/

namespace DeskScript.Syntax

open Scanner

/-- An exponent: the letter, a sign or none, and digits; or nothing. -/
inductive Exponent : List Char → Prop
  | none : Exponent []
  | some {e : Char} {sign ds : List Char} (letter : e = 'e' ∨ e = 'E')
      (signed : sign = [] ∨ sign = ['+'] ∨ sign = ['-']) (nonempty : ds ≠ [])
      (digits : ∀ d ∈ ds, isDigit d) : Exponent (e :: (sign ++ ds))

/-- A number: digits, or digits around a point, and then an exponent or none. -/
inductive NumberText : List Char → Prop
  | whole {ds ex : List Char} (nonempty : ds ≠ []) (digits : ∀ d ∈ ds, isDigit d)
      (exponent : Exponent ex) : NumberText (ds ++ ex)
  | point {ds fs ex : List Char} (nonempty : ds ≠ [] ∨ fs ≠ []) (digits : ∀ d ∈ ds, isDigit d)
      (fraction : ∀ d ∈ fs, isDigit d) (exponent : Exponent ex) :
      NumberText (ds ++ '.' :: (fs ++ ex))

/-- A string behind its opening quote: characters of one line, a quote or a backslash only behind a
backslash, and the closing quote. -/
inductive StringTail : List Char → Prop
  | close : StringTail ['"']
  | plain {c : Char} {cs : List Char} (ordinary : c ≠ '"' ∧ c ≠ '\n' ∧ c ≠ '\\')
      (rest : StringTail cs) : StringTail (c :: cs)
  | escape {c : Char} {cs : List Char} (line : c ≠ '\n') (rest : StringTail cs) :
      StringTail ('\\' :: c :: cs)

/-- The spelling of the words of a terminal. -/
inductive Terminal.Spells : Terminal → List Char → Prop
  | name {c : Char} {cs : List Char} (start : isNameStart c) (parts : ∀ d ∈ cs, isNamePart d) :
      Spells .name (c :: cs)
  | number {cs : List Char} (number : NumberText cs) : Spells .number cs
  | string {cs : List Char} (tail : StringTail cs) : Spells .string ('"' :: cs)
  | fixed {text : String} {t : Terminal} (member : (text, t) ∈ Terminal.spelled) :
      Spells t text.toList

/-- What separates words: blank space, and comments with the ends of their lines. -/
inductive Gap : List Char → Prop
  | nil : Gap []
  | blank {c : Char} {cs : List Char} (blank : isBlank c) (rest : Gap cs) : Gap (c :: cs)
  | comment {text cs : List Char} (line : '\n' ∉ text) (rest : Gap cs) :
      Gap ('#' :: (text ++ '\n' :: cs))

/-- A text from a place on, laid out in words. Every word stands with its text and its place, and is
as long as the text allows for its terminal; a comment may end the text. -/
inductive Written : Position → List Char → List Token → Prop
  | done {p : Position} {gap : List Char} (between : Gap gap) : Written p gap []
  | comment {p : Position} {gap text : List Char} (between : Gap gap) (line : '\n' ∉ text) :
      Written p (gap ++ '#' :: text) []
  | word {p : Position} {gap word rest : List Char} {t : Terminal} {words : List Token}
      (between : Gap gap) (spells : t.Spells word)
      (longest : ∀ longer, t.Spells longer → longer <+: word ++ rest → longer.length ≤ word.length)
      (later : Written ((p.after gap).after word) rest words) :
      Written p (gap ++ (word ++ rest))
        (⟨t, String.ofList word, ⟨p.after gap, (p.after gap).after word⟩⟩ :: words)

namespace Scanner

variable {cs : List Char} {accepts : Terminal → Bool} {t : Terminal} {w : String × Terminal} {c : Char}
  {k : String × Terminal} {p : Position} {gap : List Char} {ex : List Char} {after : Cursor} {n : Nat}
  {rest : List Char}

/-! ### Numbers -/

theorem digits_append {ds : List Char} (digits : ∀ d ∈ ds, isDigit d) (rest : List Char) :
    Scanner.digits (ds ++ rest) = ds.length + Scanner.digits rest := by
  rw [Scanner.digits, List.takeWhile_append_of_pos digits, List.length_append, Scanner.digits]

theorem take_digits_ne_nil (some : digits cs ≠ 0) : cs.take (digits cs) ≠ [] := by
  intro empty
  have length := congrArg List.length empty
  rw [List.length_take, Nat.min_eq_left (digits_le cs)] at length
  exact some length

theorem exponent_take (cs : List Char) : Exponent (cs.take (exponentLength cs)) := by
  cases cs with
  | nil => exact .none
  | cons e cs =>
    simp only [exponentLength]
    split
    next letter =>
      have letter : e = 'e' ∨ e = 'E' := by simpa using letter
      -- Whatever the sign, what is taken is the letter, the sign and the digits behind it.
      have taken : ∀ sign, (cs.take sign = [] ∨ cs.take sign = ['+'] ∨ cs.take sign = ['-']) →
          Exponent ((e :: cs).take (if digits (cs.drop sign) = 0 then 0
            else 1 + sign + digits (cs.drop sign))) := by
        intro sign signed
        split
        next => exact .none
        next some =>
          rw [Nat.add_assoc, Nat.add_comm 1, List.take_succ_cons, List.take_add]
          exact .some letter signed (take_digits_ne_nil some) isDigit_of_mem_take
      split
      next => exact taken 1 (by simp)
      next => exact taken 1 (by simp)
      next => exact taken 0 (by simp)
    next => exact .none

theorem numberText_take (some : numberLength cs ≠ 0) :
    NumberText (cs.take (numberLength cs)) := by
  simp only [numberLength] at some ⊢
  split
  next more here =>
    rw [here] at some
    simp only at some
    split
    next empty => simp [empty] at some
    next nonempty =>
      have nonempty : digits cs ≠ 0 ∨ digits more ≠ 0 := by
        by_contra none
        exact nonempty (by simp_all)
      rw [Nat.add_assoc, Nat.add_assoc, List.take_add, here, Nat.add_comm 1, List.take_succ_cons,
        List.take_add]
      refine .point ?_ isDigit_of_mem_take isDigit_of_mem_take (exponent_take _)
      exact nonempty.imp take_digits_ne_nil take_digits_ne_nil
  next more other =>
    split
    next empty => simp_all
    next nonempty =>
      rw [List.take_add]
      exact .whole (take_digits_ne_nil nonempty) isDigit_of_mem_take (exponent_take _)

theorem exponentLength_some {e : Char} {sign ds : List Char} (letter : e = 'e' ∨ e = 'E')
    (signed : sign = [] ∨ sign = ['+'] ∨ sign = ['-']) (nonempty : ds ≠ []) (all : ∀ d ∈ ds, isDigit d)
    (rest : List Char) :
    exponentLength (e :: (sign ++ ds) ++ rest) = (e :: (sign ++ ds)).length + digits rest := by
  have long := digits_append all rest
  obtain ⟨d, ds, rfl⟩ := List.exists_cons_of_ne_nil nonempty
  have digit : isDigit d := all d List.mem_cons_self
  have plus : d ≠ '+' := by rintro rfl; revert digit; decide
  have minus : d ≠ '-' := by rintro rfl; revert digit; decide
  simp only [List.cons_append, List.length_cons] at long
  rcases signed with rfl | rfl | rfl <;>
    simp [exponentLength, letter, long, plus, minus] <;> omega

theorem le_exponentLength (exponent : Exponent ex) (rest : List Char) :
    ex.length ≤ exponentLength (ex ++ rest) := by
  cases exponent with
  | none => simp
  | some letter signed nonempty digits =>
    rw [exponentLength_some letter signed nonempty digits]
    exact Nat.le_add_right _ _

theorem digits_le_numberLength (cs : List Char) : digits cs ≤ numberLength cs := by
  simp only [numberLength]
  split
  · split
    next empty =>
      have none : digits cs = 0 := by simp_all
      omega
    next => omega
  · split <;> omega

theorem numberLength_whole {ds more : List Char} (nonempty : ds ≠ []) (all : ∀ d ∈ ds, isDigit d)
    (stop : digits more = 0) (pointless : ∀ more', more ≠ '.' :: more') :
    numberLength (ds ++ more) = ds.length + exponentLength more := by
  have front : digits (ds ++ more) = ds.length := by rw [digits_append all, stop, Nat.add_zero]
  have some : ds.length ≠ 0 := by simpa using nonempty
  simp only [numberLength, front, List.drop_left]
  rw [if_neg some]

theorem numberLength_point {ds more : List Char} (all : ∀ d ∈ ds, isDigit d)
    (nonempty : ds ≠ [] ∨ digits more ≠ 0) :
    numberLength (ds ++ '.' :: more) =
      ds.length + 1 + digits more + exponentLength (more.drop (digits more)) := by
  have front : digits (ds ++ '.' :: more) = ds.length := by
    rw [digits_append all]
    simp [digits, isDigit]
  have some : (decide (ds.length = 0) && decide (digits more = 0)) = false := by
    rcases nonempty with nonempty | nonempty <;> simp [nonempty]
  simp only [numberLength, front, List.drop_left, some, Bool.false_eq_true, if_false]

/-- An exponent that is not empty starts with neither a digit nor a point. -/
theorem exponent_head (exponent : Exponent ex) (nonempty : ex ≠ [])
    (rest : List Char) : digits (ex ++ rest) = 0 ∧ ∀ more, ex ++ rest ≠ '.' :: more := by
  cases exponent with
  | none => exact absurd rfl nonempty
  | @some e _ _ letter =>
    rcases letter with rfl | rfl <;> simp [digits, isDigit]

/-- No number in front of a text is longer than what is taken. -/
theorem le_numberLength (number : NumberText cs) (rest : List Char) :
    cs.length ≤ numberLength (cs ++ rest) := by
  cases number with
  | @whole ds ex nonempty all exponent =>
    rw [List.append_assoc, List.length_append]
    by_cases none : ex = []
    · subst none
      have taken := digits_le_numberLength (ds ++ rest)
      rw [digits_append all] at taken
      simp only [List.length_nil, List.nil_append]
      omega
    · obtain ⟨stop, pointless⟩ := exponent_head exponent none rest
      rw [numberLength_whole nonempty all stop pointless]
      exact Nat.add_le_add_left (le_exponentLength exponent rest) _
  | @point ds fs ex nonempty all fraction exponent =>
    have behind : digits (fs ++ (ex ++ rest)) = fs.length + digits (ex ++ rest) :=
      digits_append fraction _
    have some : ds ≠ [] ∨ digits (fs ++ (ex ++ rest)) ≠ 0 := by
      refine nonempty.imp_right fun nonempty => ?_
      have : fs.length ≠ 0 := by simpa using nonempty
      omega
    have whole : ds ++ '.' :: (fs ++ ex) ++ rest = ds ++ '.' :: (fs ++ (ex ++ rest)) := by simp
    rw [whole, numberLength_point all some, behind]
    simp only [List.length_append, List.length_cons]
    by_cases none : ex = []
    · subst none
      simp only [List.length_nil]
      omega
    · simp only [(exponent_head exponent none rest).1, Nat.add_zero, List.drop_left]
      have long := le_exponentLength exponent rest
      omega

theorem numberLength_eq (number : NumberText cs) : numberLength cs = cs.length := by
  have long := le_numberLength number []
  rw [List.append_nil] at long
  exact Nat.le_antisymm (numberLength_le cs) long

/-- Whether a character may go on a number. -/
def isNumberPart (c : Char) : Bool := isDigit c || c = '.' || c = 'e' || c = 'E'

theorem exponent_ends (exponent : Exponent ex)
    (ends : isNumberPart c = false) (rest : List Char) :
    exponentLength (ex ++ c :: rest) = ex.length ∧ digits (ex ++ c :: rest) = 0 ∧
      ∀ more, ex ++ c :: rest ≠ '.' :: more := by
  simp only [isNumberPart, Bool.or_eq_false_iff, decide_eq_false_iff_not] at ends
  obtain ⟨⟨⟨digit, point⟩, lower⟩, upper⟩ := ends
  cases exponent with
  | none => simp [exponentLength, lower, upper, digits, digit, point]
  | @some e sign ds letter signed nonempty all =>
    have start := exponent_head (.some letter signed nonempty all) (List.cons_ne_nil _ _) (c :: rest)
    refine ⟨?_, start⟩
    have stop : digits (c :: rest) = 0 := by simp [digits, digit]
    rw [exponentLength_some letter signed nonempty all, stop, Nat.add_zero]

/-- A number ends in front of a character that may not go on it. -/
theorem numberLength_ends (number : NumberText cs)
    (ends : isNumberPart c = false) (rest : List Char) :
    numberLength (cs ++ c :: rest) = cs.length := by
  cases number with
  | @whole ds ex nonempty all exponent =>
    obtain ⟨long, stop, pointless⟩ := exponent_ends exponent ends rest
    rw [List.append_assoc, numberLength_whole nonempty all stop pointless, long, List.length_append]
  | @point ds fs ex nonempty all fraction exponent =>
    obtain ⟨long, stop, -⟩ := exponent_ends exponent ends rest
    have behind : digits (fs ++ (ex ++ c :: rest)) = fs.length := by
      rw [digits_append fraction, stop, Nat.add_zero]
    have some : ds ≠ [] ∨ digits (fs ++ (ex ++ c :: rest)) ≠ 0 := by
      rw [behind]
      exact nonempty.imp_right fun nonempty => by simpa using nonempty
    have whole : ds ++ '.' :: (fs ++ ex) ++ c :: rest = ds ++ '.' :: (fs ++ (ex ++ c :: rest)) := by
      simp
    rw [whole, numberLength_point all some, behind, List.drop_left, long]
    simp only [List.length_append, List.length_cons]
    omega

theorem NumberText.head (number : NumberText cs) :
    ∃ c rest, cs = c :: rest ∧ (isDigit c ∨ c = '.') := by
  cases number with
  | @whole ds ex nonempty all exponent =>
    obtain ⟨d, ds, rfl⟩ := List.exists_cons_of_ne_nil nonempty
    exact ⟨d, ds ++ ex, rfl, .inl (all d List.mem_cons_self)⟩
  | @point ds fs ex nonempty all fraction exponent =>
    cases ds with
    | nil => exact ⟨'.', fs ++ ex, rfl, .inr rfl⟩
    | cons d ds => exact ⟨d, _, rfl, .inl (all d List.mem_cons_self)⟩

/-! ### Strings -/

theorem stringTail_take (closed : stringTail cs = some n) :
    StringTail (cs.take n) := by
  fun_induction stringTail cs generalizing n with
  | case1 => cases closed
  | case2 cs =>
    obtain rfl : 1 = n := by simpa using closed
    exact .close
  | case3 => cases closed
  | case4 => cases closed
  | case5 c cs other ih =>
    obtain ⟨m, inner, rfl⟩ := Option.map_eq_some_iff.mp closed
    exact .escape other (ih inner)
  | case6 c cs quote feed escape ih =>
    obtain ⟨m, inner, rfl⟩ := Option.map_eq_some_iff.mp closed
    refine .plain ⟨quote, feed, ?_⟩ (ih inner)
    -- A backslash here would be the last character, and the string would not be closed.
    rintro rfl
    cases cs with
    | nil => cases inner
    | cons c' cs' => exact escape c' cs' rfl rfl

/-- A string ends at its own closing quote, whatever comes behind. -/
theorem stringTail_eq (tail : StringTail cs) (rest : List Char) :
    stringTail (cs ++ rest) = some cs.length := by
  induction tail with
  | close => simp [stringTail]
  | @plain c cs ordinary _ ih =>
    obtain ⟨quote, feed, backslash⟩ := ordinary
    have step : stringTail (c :: (cs ++ rest)) = (stringTail (cs ++ rest)).map (· + 1) :=
      stringTail.eq_5 c _ quote feed fun _ _ here => absurd here backslash
    rw [List.cons_append, step, ih]
    rfl
  | @escape c cs line _ ih => simp [stringTail, line, ih]

/-! ### Words with a fixed spelling -/

theorem length_le_foldl {words : List (String × Terminal)}
    (member : w ∈ words) (n : Nat) :
    w.1.length ≤ words.foldl (fun n w => max n w.1.length) n := by
  -- The largest length so far never falls.
  have grows : ∀ (words : List (String × Terminal)) (n : Nat),
      n ≤ words.foldl (fun n w => max n w.1.length) n := by
    intro words
    induction words with
    | nil => exact fun n => Nat.le_refl n
    | cons v words ih => exact fun n => Nat.le_trans (Nat.le_max_left n _) (ih _)
  induction words generalizing n with
  | nil => cases member
  | cons v words ih =>
    rcases List.mem_cons.mp member with rfl | member
    · exact Nat.le_trans (Nat.le_max_right n _) (grows words _)
    · exact ih member _

theorem mem_fixed (member : w ∈ Terminal.spelled) : w ∈ Terminal.fixed := by
  unfold Terminal.spelled at member
  unfold Terminal.fixed
  generalize Terminal.calls ++ Terminal.keywords ++ Terminal.marks = words at member ⊢
  refine List.mem_flatMap.mpr ⟨w.1.length, ?_, List.mem_filter.mpr ⟨member, by simp⟩⟩
  rw [List.mem_reverse, List.mem_range]
  exact Nat.lt_succ_of_le (length_le_foldl member 0)

theorem fixed_sorted : Terminal.fixed.Pairwise fun a b => b.1.length ≤ a.1.length := by
  simp only [Terminal.fixed]
  rw [List.pairwise_flatMap]
  refine ⟨fun n _ => ?_, ?_⟩
  · refine List.pairwise_of_forall_mem_list fun a here b there => ?_
    simp only [List.mem_filter, decide_eq_true_eq] at here there
    omega
  · refine List.pairwise_reverse.mpr (List.pairwise_lt_range.imp ?_)
    intro m n less a here b there
    simp only [List.mem_filter, decide_eq_true_eq] at here there
    omega

theorem spelled_injective {w w' : String × Terminal} (member : w ∈ Terminal.spelled)
    (member' : w' ∈ Terminal.spelled) (same : w.1 = w'.1) : w = w' := by
  have apart : (Terminal.spelled.map (·.1)).Nodup := by decide
  exact List.inj_on_of_nodup_map apart member member' same

theorem spelled_ordinary (member : w ∈ Terminal.spelled) :
    w.2 ≠ .name ∧ w.2 ≠ .number ∧ w.2 ≠ .string := by
  revert w
  decide

/-- A reserved word is the only spelling of its terminal. -/
theorem keyword_only (member : k ∈ Terminal.keywords) :
    k ∈ Terminal.spelled ∧ ∀ w ∈ Terminal.spelled, w.2 = k.2 → w.1 = k.1 := by
  revert k
  decide

/-- Words with a fixed spelling start no number and no string; those that start as a name does are
the reserved words, which have the letters of a name throughout. -/
theorem spelled_start (member : w ∈ Terminal.spelled) :
    ∃ c cs, w.1.toList = c :: cs ∧ c ≠ '"' ∧ isDigit c = false ∧ c ≠ '.' ∧
      (isNameStart c → w ∈ Terminal.keywords ∧ ∀ d ∈ c :: cs, isNamePart d) := by
  have checked : Terminal.spelled.all fun w => w.1.toList.head?.any fun c =>
      c ≠ '"' && !isDigit c && c ≠ '.' &&
        (!isNameStart c || (Terminal.keywords.contains w && w.1.toList.all isNamePart)) := by
    decide
  have here := List.all_eq_true.mp checked w member
  cases text : w.1.toList with
  | nil => simp [text] at here
  | cons c cs =>
    simp only [text, List.head?_cons, Option.any_some, Bool.and_eq_true, Bool.or_eq_true, Bool.not_eq_true', decide_eq_true_eq,
      List.contains_iff_mem, List.all_eq_true] at here
    obtain ⟨⟨⟨quote, digit⟩, point⟩, word⟩ := here
    refine ⟨c, cs, rfl, quote, digit, point, fun start => ?_⟩
    exact word.resolve_left (by simp [start])

/-- Among words that get no longer, the first that fits is the longest that fits. -/
theorem firstFixed_longest {words : List (String × Terminal)}
    (sorted : words.Pairwise fun a b => b.1.length ≤ a.1.length)
    (member : w ∈ words) (fits : w.1.toList <+: cs) :
    ∃ first ∈ words, firstFixed words cs = some (first.2, first.1.length) ∧
      first.1.toList <+: cs ∧ w.1.length ≤ first.1.length := by
  induction words with
  | nil => cases member
  | cons v words ih =>
    obtain ⟨shorter, sorted⟩ := List.pairwise_cons.mp sorted
    by_cases here : v.1.toList.isPrefixOf cs
    · refine ⟨v, List.mem_cons_self, by simp [firstFixed, here],
        List.isPrefixOf_iff_prefix.mp here, ?_⟩
      rcases List.mem_cons.mp member with rfl | member
      · exact Nat.le_refl _
      · exact shorter w member
    · have member : w ∈ words := by
        rcases List.mem_cons.mp member with rfl | member
        · exact absurd (List.isPrefixOf_iff_prefix.mpr fits) here
        · exact member
      obtain ⟨first, among, found, start, long⟩ := ih sorted member
      refine ⟨first, List.mem_cons_of_mem _ among, ?_, start, long⟩
      rw [← found]
      simp [firstFixed, here]

theorem acceptable_sorted (accepts : Terminal → Bool) :
    (Terminal.fixed.filter fun w => accepts w.2).Pairwise fun a b => b.1.length ≤ a.1.length :=
  fixed_sorted.sublist List.filter_sublist

/-! ### The words that are found -/

theorem numberLength_eq_zero (digit : isDigit c = false) (point : c ≠ '.')
    (cs : List Char) : numberLength (c :: cs) = 0 := by
  simp [numberLength, digits, digit, point]

theorem apart_of_isNameStart (start : isNameStart c) :
    c ≠ '"' ∧ isDigit c = false ∧ c ≠ '.' := by
  have letters : ∀ d, isNameStart d = false → c ≠ d := by
    rintro d other rfl
    rw [start] at other
    cases other
  refine ⟨letters '"' (by decide), ?_, letters '.' (by decide)⟩
  simp only [isNameStart, Bool.or_eq_true, Bool.and_eq_true, decide_eq_true_eq, Char.le_def,
    UInt32.le_iff_toNat_le] at start
  simp only [isDigit, Bool.and_eq_false_iff, decide_eq_false_iff_not, Char.le_def,
    UInt32.le_iff_toNat_le, Nat.not_le]
  rcases start with (small | capital) | rfl
  · exact .inr (Nat.lt_of_lt_of_le (by decide) small.1)
  · exact .inr (Nat.lt_of_lt_of_le (by decide) capital.1)
  · decide

theorem takeWhile_name (start : isNameStart c)
    (parts : ∀ d ∈ cs, isNamePart d) (rest : List Char) :
    (c :: cs ++ rest).takeWhile isNamePart = c :: cs ++ rest.takeWhile isNamePart := by
  have first : isNamePart c := by simp [isNamePart, start]
  exact List.takeWhile_append_of_pos (List.forall_mem_cons.mpr ⟨first, parts⟩)

/-- The words of a terminal with a fixed spelling are all fixed. -/
theorem spells_fixed {text : String} {t : Terminal} (member : (text, t) ∈ Terminal.spelled)
    {cs : List Char} (spells : t.Spells cs) :
    ∃ text', (text', t) ∈ Terminal.spelled ∧ cs = text'.toList := by
  obtain ⟨name, number, string⟩ := spelled_ordinary member
  cases spells with
  | name => exact absurd rfl name
  | number => exact absurd rfl number
  | string => exact absurd rfl string
  | fixed member' => exact ⟨_, member', rfl⟩

/-- The first characters of a text are a word of a terminal, and no more of them are. -/
structure Takes (t : Terminal) (cs : List Char) (n : Nat) : Prop where
  nonempty : n ≠ 0
  within : n ≤ cs.length
  spells : t.Spells (cs.take n)
  longest : ∀ longer, t.Spells longer → longer <+: cs → longer.length ≤ n

theorem takes_string (closed : stringTail cs = some n) :
    Takes .string ('"' :: cs) (n + 1) where
  nonempty := Nat.succ_ne_zero n
  within := Nat.succ_le_succ (stringTail_append closed []).2
  spells := .string (stringTail_take closed)
  longest := by
    rintro longer spells ⟨rest, split⟩
    cases spells with
    | string tail =>
      obtain rfl : _ ++ rest = cs := by simpa using split
      obtain rfl : List.length _ = n := by simpa [stringTail_eq tail] using closed
      exact Nat.le_refl _
    | fixed member => exact absurd rfl (spelled_ordinary member).2.2

theorem takes_number (some : numberLength cs ≠ 0) :
    Takes .number cs (numberLength cs) where
  nonempty := some
  within := numberLength_le cs
  spells := .number (numberText_take some)
  longest := by
    rintro longer spells ⟨rest, rfl⟩
    cases spells with
    | number text => exact le_numberLength text rest
    | fixed member => exact absurd rfl (spelled_ordinary member).2.1

theorem takes_name {c : Char} {cs : List Char} (start : isNameStart c) :
    Takes .name (c :: cs) ((c :: cs).takeWhile isNamePart).length where
  nonempty := by simp [isNamePart, start]
  within := (List.takeWhile_prefix isNamePart).length_le
  spells := by
    rw [← List.prefix_iff_eq_take.mp (List.takeWhile_prefix isNamePart)]
    have first : isNamePart c := by simp [isNamePart, start]
    rw [List.takeWhile_cons_of_pos first]
    exact .name start (List.all_eq_true.mp List.all_takeWhile)
  longest := by
    rintro longer spells ⟨rest, split⟩
    rw [← split]
    cases spells with
    | name start' parts =>
      rw [takeWhile_name start' parts, List.length_append]
      exact Nat.le_add_right _ _
    | fixed member => exact absurd rfl (spelled_ordinary member).1

/-- A reserved word found where a name could stand. -/
theorem takes_keyword (start : isNameStart c)
    (member : k ∈ Terminal.keywords) (same : k.1.toList = (c :: cs).takeWhile isNamePart) :
    Takes k.2 (c :: cs) ((c :: cs).takeWhile isNamePart).length := by
  obtain ⟨nonempty, within, -, -⟩ := @takes_name c cs start
  obtain ⟨spelled, only⟩ := keyword_only member
  refine ⟨nonempty, within, ?_, ?_⟩
  · rw [← List.prefix_iff_eq_take.mp (List.takeWhile_prefix isNamePart), ← same]
    exact .fixed spelled
  · intro longer spells fits
    obtain ⟨text, member', rfl⟩ := spells_fixed spelled spells
    have one : text = k.1 := only _ member' rfl
    exact Nat.le_of_eq (by rw [one, same])

theorem takes_fixed
    (found : firstFixed (Terminal.fixed.filter fun w => accepts w.2) cs = some (t, n)) :
    accepts t ∧ Takes t cs n := by
  obtain ⟨⟨text, t'⟩, first, same⟩ := Option.map_eq_some_iff.mp found
  obtain ⟨rfl, rfl⟩ : t' = t ∧ text.length = n := by simpa using same
  obtain ⟨among, acceptable⟩ := List.mem_filter.mp (List.mem_of_find?_eq_some first)
  have member : (text, t') ∈ Terminal.spelled := Terminal.mem_spelled among
  have fits : text.toList <+: cs :=
    List.isPrefixOf_iff_prefix.mp (by simpa using List.find?_some first)
  refine ⟨acceptable, ?_, firstFixed_le found, ?_, ?_⟩
  · obtain ⟨c, rest, spelling, -⟩ := spelled_start member
    rw [← String.length_toList, spelling]
    simp
  · rw [← String.length_toList, ← List.prefix_iff_eq_take.mp fits]
    exact .fixed member
  · intro longer spells start
    obtain ⟨text', member', rfl⟩ := spells_fixed member spells
    have among' : (text', t') ∈ Terminal.fixed.filter fun w => accepts w.2 :=
      List.mem_filter.mpr ⟨mem_fixed member', acceptable⟩
    obtain ⟨first', -, found', -, long⟩ :=
      firstFixed_longest (acceptable_sorted accepts) among' start
    rw [found] at found'
    obtain ⟨-, length⟩ : _ ∧ text.length = first'.1.length := by simpa using found'
    rw [String.length_toList, length]
    exact long

/-- What the scanner takes is acceptable, spelled as its terminal asks, and as long as can be. -/
theorem accepted_of_lexeme (found : lexeme accepts cs = some (t, n)) : accepts t ∧ Takes t cs n := by
  cases cs with
  | nil => cases found
  | cons c cs =>
    simp only [lexeme] at found
    split at found
    next string =>
      obtain ⟨acceptable, rfl⟩ : _ ∧ c = '"' := by simpa using string
      obtain ⟨m, closed, same⟩ := Option.map_eq_some_iff.mp found
      obtain ⟨rfl, rfl⟩ : Terminal.string = t ∧ m + 1 = n := by simpa using same
      exact ⟨acceptable, takes_string closed⟩
    next =>
      split at found
      next number =>
        obtain ⟨rfl, rfl⟩ : Terminal.number = t ∧ numberLength (c :: cs) = n := by simpa using found
        obtain ⟨acceptable, some⟩ : _ ∧ numberLength (c :: cs) ≠ 0 := by simpa using number
        exact ⟨acceptable, takes_number some⟩
      next =>
        split at found
        next name =>
          obtain ⟨acceptable, start⟩ : _ ∧ isNameStart c := by simpa using name
          obtain ⟨kind, rfl⟩ := Prod.mk.inj (Option.some.inj found)
          cases reserved : Terminal.keywords.find? fun k =>
              k.1 == String.ofList ((c :: cs).takeWhile isNamePart) && accepts k.2 with
          | none =>
            rw [reserved] at kind
            exact kind ▸ ⟨acceptable, takes_name start⟩
          | some k =>
            rw [reserved] at kind
            have same := List.find?_some reserved
            simp only [Bool.and_eq_true, beq_iff_eq] at same
            have word : k.1.toList = (c :: cs).takeWhile isNamePart := by simp [same.1]
            exact kind ▸ ⟨same.2, takes_keyword start (List.mem_of_find?_eq_some reserved) word⟩
        next => exact takes_fixed found

theorem takes_of_lexeme (found : lexeme accepts cs = some (t, n)) : Takes t cs n :=
  (accepted_of_lexeme found).2

/-- An acceptable reserved word is found among the reserved words. -/
theorem find_reserved
    (member : k ∈ Terminal.keywords) (acceptable : accepts k.2) :
    (Terminal.keywords.find? fun k' => k'.1 == k.1 && accepts k'.2) = some k := by
  cases found : Terminal.keywords.find? fun k' => k'.1 == k.1 && accepts k'.2 with
  | none => exact absurd (List.find?_eq_none.mp found k member) (by simp [acceptable])
  | some k' =>
    have same := List.find?_some found
    simp only [Bool.and_eq_true, beq_iff_eq] at same
    have member' := List.mem_of_find?_eq_some found
    rw [spelled_injective (keyword_only member').1 (keyword_only member).1 same.1]

/-- Whether a word ends in front of a character: it would not be a name, a number or the beginning
of a word with a fixed spelling with the character behind it. -/
def endsAt (t : Terminal) (cs : List Char) (c : Char) : Bool :=
  !(cs.head?.any isNameStart && isNamePart c) && !(t = .number && isNumberPart c) &&
    Terminal.spelled.all fun w => !(cs ++ [c]).isPrefixOf w.1.toList

theorem endsAt_of_isBreak (stop : isBreak c) (t : Terminal) (cs : List Char) :
    endsAt t cs c := by
  obtain ⟨part, digit, point, -, -, lower, upper⟩ := ends_of_isBreak stop
  have number : isNumberPart c = false := by simp [isNumberPart, digit, point, lower, upper]
  simp only [endsAt, part, number, Bool.and_false, Bool.not_false, Bool.true_and, List.all_eq_true,
    Bool.not_eq_true', Bool.eq_false_iff]
  intro w member fits
  have inside : c ∈ w.1.toList :=
    (List.isPrefixOf_iff_prefix.mp fits).subset (List.mem_append_right cs (List.mem_singleton_self c))
  rw [spelled_unbroken member inside] at stop
  cases stop

/-- What stands behind a word that ends there goes on no name. -/
theorem takeWhile_ends {cs : List Char} (start : isNameStart c)
    (ends : ∀ d ∈ rest.head?, endsAt t (c :: cs) d) : rest.takeWhile isNamePart = [] := by
  cases rest with
  | nil => rfl
  | cons d rest =>
    have ends := ends d rfl
    simp only [endsAt, List.head?_cons, Option.any_some, start, Bool.true_and, Bool.and_eq_true,
      Bool.not_eq_true'] at ends
    simp [ends.1.1]

/-- An acceptable word with a fixed spelling that ends there is the first that fits. -/
theorem firstFixed_word {text : String} (member : (text, t) ∈ Terminal.spelled)
    (acceptable : accepts t) (ends : ∀ c ∈ rest.head?, endsAt t text.toList c) :
    firstFixed (Terminal.fixed.filter fun w => accepts w.2) (text.toList ++ rest) =
      some (t, text.toList.length) := by
  have among : (text, t) ∈ Terminal.fixed.filter fun w => accepts w.2 :=
    List.mem_filter.mpr ⟨mem_fixed member, acceptable⟩
  obtain ⟨w, among', found, fits, long⟩ :=
    firstFixed_longest (acceptable_sorted accepts) among (List.prefix_append text.toList rest)
  have member' := Terminal.mem_spelled (List.mem_filter.mp among').1
  -- A longer word that fits would have the next character behind the text.
  have same : w.1 = text := by
    rw [← String.length_toList, ← String.length_toList] at long
    have start : text.toList <+: w.1.toList :=
      List.prefix_of_prefix_length_le (List.prefix_append _ rest) fits long
    obtain ⟨more, split⟩ := start
    cases more with
    | nil => exact String.toList_inj.mp (by rw [← split, List.append_nil])
    | cons c more =>
      have next : rest.head? = some c := by
        rw [← split, List.prefix_append_right_inj] at fits
        obtain ⟨_, rfl⟩ := fits
        rfl
      have ends := ends c next
      simp only [endsAt, Bool.and_eq_true, List.all_eq_true, Bool.not_eq_true'] at ends
      have none := ends.2 w member'
      rw [← split, Bool.eq_false_iff, Ne, List.isPrefixOf_iff_prefix] at none
      exact absurd ⟨more, by simp⟩ none
  rw [found, spelled_injective member' member same, String.length_toList]

/-- A word that ends there is found, if it is acceptable and no reserved word taken for a name. -/
theorem lexeme_word (spells : t.Spells cs) (acceptable : accepts t)
    (unreserved : t = .name → ∀ k ∈ Terminal.keywords, k.1.toList ≠ cs)
    (ends : ∀ c ∈ rest.head?, endsAt t cs c) :
    lexeme accepts (cs ++ rest) = some (t, cs.length) := by
  cases spells with
  | @name c cs start parts =>
    obtain ⟨quote, digit, point⟩ := apart_of_isNameStart start
    have number := numberLength_eq_zero digit point (cs ++ rest)
    have whole := takeWhile_name start parts rest
    have ended : rest.takeWhile isNamePart = [] := takeWhile_ends start ends
    rw [ended, List.append_nil, List.cons_append] at whole
    have free : (Terminal.keywords.find? fun k =>
        k.1 == String.ofList (c :: cs) && accepts k.2) = none := by
      refine List.find?_eq_none.mpr fun k member same => unreserved rfl k member ?_
      simp only [Bool.and_eq_true, beq_iff_eq] at same
      simp [same.1]
    simp only [lexeme, List.cons_append, quote, number, acceptable, start, whole, free]
    simp
  | number text =>
    have length : numberLength (cs ++ rest) = cs.length := by
      cases rest with
      | nil => rw [List.append_nil, numberLength_eq text]
      | cons c rest =>
        have ends := ends c rfl
        simp only [endsAt, Bool.and_eq_true, Bool.not_eq_true', decide_true, Bool.true_and] at ends
        exact numberLength_ends text ends.1.2 rest
    obtain ⟨c, cs, rfl, start⟩ := NumberText.head text
    have quote : c ≠ '"' := by
      rintro rfl
      revert start
      decide
    rw [List.cons_append] at length
    simp only [lexeme, List.cons_append, quote, acceptable, length]
    simp
  | string tail =>
    have closed := stringTail_eq tail rest
    simp [lexeme, acceptable, closed]
  | @fixed text t member =>
    obtain ⟨c, cs, spelling, quote, digit, point, word⟩ := spelled_start member
    have number := numberLength_eq_zero digit point (cs ++ rest)
    by_cases name : accepts .name && isNameStart c
    · obtain ⟨keyword, parts⟩ := word (by simp_all)
      have start : isNameStart c := by simp_all
      have whole := takeWhile_name start (fun d inside => parts d (List.mem_cons_of_mem c inside)) rest
      have ended : rest.takeWhile isNamePart = [] := takeWhile_ends start (spelling ▸ ends)
      rw [ended, List.append_nil, List.cons_append] at whole
      have reserved := find_reserved keyword acceptable
      have same : text = String.ofList (c :: cs) := by rw [← spelling, String.ofList_toList]
      rw [same] at reserved
      rw [spelling]
      simp only [lexeme, List.cons_append, quote, number, name, whole, reserved]
      simp
    · have found := firstFixed_word member acceptable ends
      rw [spelling] at found ⊢
      simp only [lexeme, List.cons_append] at found ⊢
      simp only [quote, number, name, found]
      simp

/-! ### Between words -/

/-- A comment ends with its line or with the text. -/
theorem skip_comment (p : Position) (cs : List Char) :
    ('\n' ∉ cs ∧ (skip true p cs).rest = []) ∨
      ∃ text rest, '\n' ∉ text ∧ cs = text ++ '\n' :: rest ∧
        skip true p cs = skip false (p.after (text ++ ['\n'])) rest := by
  induction cs generalizing p with
  | nil => exact .inl ⟨List.not_mem_nil, rfl⟩
  | cons c cs ih =>
    by_cases line : c = '\n'
    · subst line
      exact .inr ⟨[], cs, List.not_mem_nil, rfl, by simp [skip, Position.after]⟩
    · have apart : ∀ text, '\n' ∉ text → '\n' ∉ c :: text :=
        fun text none => by simp [Ne.symm line, none]
      simp only [skip, if_true, decide_eq_true line]
      rcases ih (p.next c) with ⟨none, empty⟩ | ⟨text, rest, none, rfl, same⟩
      · exact .inl ⟨apart cs none, empty⟩
      · exact .inr ⟨c :: text, rest, apart text none, rfl, same⟩

/-- What is skipped is a gap, and behind it a comment if that ends the text. -/
theorem skip_gap (p : Position) (cs : List Char) :
    ∃ gap more, Gap gap ∧ cs = gap ++ more ∧ (skip false p cs = ⟨p.after gap, more⟩ ∨
      ((skip false p cs).rest = [] ∧ ∃ text, '\n' ∉ text ∧ more = '#' :: text)) := by
  induction length : cs.length using Nat.strongRecOn generalizing p cs with
  | ind n ih =>
    cases cs with
    | nil => exact ⟨[], [], .nil, rfl, .inl rfl⟩
    | cons c cs =>
      simp only [List.length_cons] at length
      simp only [skip, Bool.false_eq_true, if_false]
      split
      next blank =>
        obtain ⟨gap, more, between, rfl, skipped⟩ := ih cs.length (by omega) (p.next c) cs rfl
        exact ⟨c :: gap, more, .blank blank between, rfl, skipped⟩
      next =>
        split
        next hash =>
          subst hash
          rcases skip_comment (p.next '#') cs with ⟨none, empty⟩ | ⟨text, rest, none, rfl, same⟩
          · exact ⟨[], '#' :: cs, .nil, rfl, .inr ⟨empty, cs, none, rfl⟩⟩
          · rw [same]
            obtain ⟨gap, more, between, rfl, skipped⟩ :=
              ih rest.length (by simp at length; omega) ((p.next '#').after (text ++ ['\n'])) rest rfl
            refine ⟨'#' :: (text ++ '\n' :: gap), more, .comment none between, by simp, ?_⟩
            have place : p.after ('#' :: (text ++ '\n' :: gap)) =
                ((p.next '#').after (text ++ ['\n'])).after gap := by
              simp [Position.after]
            rw [place]
            exact skipped
        next => exact ⟨[], c :: cs, .nil, rfl, .inl rfl⟩

/-- Where no word stands next, the text is laid out without one. -/
theorem written_of_done
    (done : ahead accepts ⟨p, cs⟩ = .done) : Written p cs [] := by
  have empty := ahead_eq_done.mp done
  simp only at empty
  obtain ⟨gap, more, between, rfl, same | ⟨-, text, line, rfl⟩⟩ := skip_gap p cs
  · rw [same] at empty
    simp only at empty
    rw [empty, List.append_nil]
    exact .done between
  · exact .comment between line

/-- What stands between words is skipped. -/
theorem skip_append_gap (between : Gap gap) (p : Position) (rest : List Char) :
    skip false p (gap ++ rest) = skip false (p.after gap) rest := by
  induction between generalizing p with
  | nil => rfl
  | blank blank _ ih =>
    rw [List.cons_append, skip, if_neg (by decide), if_pos blank, ih]
    rfl
  | @comment text cs line _ ih =>
    have through : ∀ p, skip true p (text ++ '\n' :: (cs ++ rest)) =
        skip false ((p.after text).next '\n') (cs ++ rest) := by
      induction text with
      | nil => intro p; rfl
      | cons c text inner =>
        intro p
        obtain ⟨here, later⟩ : c ≠ '\n' ∧ '\n' ∉ text := by simpa [eq_comm] using line
        rw [List.cons_append, skip, if_pos rfl, decide_eq_true here, inner later]
        rfl
    have hash : isBlank '#' = false := rfl
    rw [List.cons_append, List.append_assoc, List.cons_append, skip, if_neg (by decide), hash,
      if_neg (by decide), if_pos rfl, through, ih]
    simp [Position.after]

/-- Words do not start with what is skipped. -/
theorem spells_start (spells : t.Spells cs) :
    ∃ c rest, cs = c :: rest ∧ isBlank c = false ∧ c ≠ '#' := by
  have apart : ∀ {p : Char → Bool} {c : Char}, p c → [' ', '\t', '\x0c', '\r', '\n', '#'].all (!p ·) →
      isBlank c = false ∧ c ≠ '#' := by
    intro p c here none
    simp only [List.all_cons, List.all_nil, Bool.and_true, Bool.and_eq_true, Bool.not_eq_true'] at none
    have other : ∀ d, p d = false → c ≠ d := by
      rintro d no rfl
      exact absurd here (by simp [no])
    simp [isBlank, other _ none.1, other _ none.2.1, other _ none.2.2.1, other _ none.2.2.2.1,
      other _ none.2.2.2.2.1, other _ none.2.2.2.2.2]
  cases spells with
  | @name c cs start parts => exact ⟨c, cs, rfl, apart start (by decide)⟩
  | number number =>
    obtain ⟨c, rest, rfl, digit | rfl⟩ := NumberText.head number
    · exact ⟨c, rest, rfl, apart digit (by decide)⟩
    · exact ⟨'.', rest, rfl, by decide⟩
  | @string cs _ => exact ⟨'"', cs, rfl, by decide⟩
  | @fixed text _ member =>
    have checked : Terminal.spelled.all fun w => w.1.toList.head?.any fun c =>
        !isBlank c && c ≠ '#' := by decide
    have here := List.all_eq_true.mp checked _ member
    cases same : text.toList with
    | nil => simp [same] at here
    | cons c cs => exact ⟨c, cs, rfl, by simpa [same] using here⟩

/-- A word behind a gap is where skipping stops. -/
theorem skip_word {word : List Char} (spells : t.Spells word)
    (between : Gap gap) (p : Position) (rest : List Char) :
    skip false p (gap ++ (word ++ rest)) = ⟨p.after gap, word ++ rest⟩ := by
  obtain ⟨c, cs, rfl, blank, hash⟩ := spells_start spells
  rw [skip_append_gap between]
  simp [skip, blank, hash]

/-- A word that is found behind a gap stands next. -/
theorem ahead_found {word : List Char}
    (found : lexeme accepts (word ++ rest) = some (t, word.length)) (between : Gap gap)
    (p : Position) :
    ahead accepts ⟨p, gap ++ (word ++ rest)⟩ =
      .word ⟨t, String.ofList word, ⟨p.after gap, (p.after gap).after word⟩⟩
        ⟨(p.after gap).after word, rest⟩ := by
  have spells := (takes_of_lexeme found).spells
  rw [List.take_left] at spells
  simp only [ahead, skip_word spells between]
  obtain ⟨c, cs, rfl, -⟩ := spells_start spells
  rw [List.cons_append] at found ⊢
  simp only [front, found, List.length_cons, Nat.add_sub_cancel, List.take_left, List.drop_left]

/-- A word that stands next is found behind a gap. -/
theorem found_of_word {t : Token}
    (next : ahead accepts ⟨p, cs⟩ = .word t after) :
    ∃ gap word, Gap gap ∧ cs = gap ++ (word ++ after.rest) ∧
      lexeme accepts (word ++ after.rest) = some (t.terminal, word.length) ∧
      t = ⟨t.terminal, String.ofList word, ⟨p.after gap, (p.after gap).after word⟩⟩ ∧
      after.position = (p.after gap).after word := by
  obtain ⟨gap, more, between, rfl, same | ⟨empty, -⟩⟩ := skip_gap p cs
  · cases more with
    | nil =>
      simp only [ahead, same, front] at next
      cases next
    | cons c more =>
      simp only [ahead, same, front] at next
      split at next
      case h_1 => cases next
      case h_2 terminal n found =>
        obtain ⟨nonempty, within, -⟩ := takes_of_lexeme found
        obtain ⟨word, left⟩ := @cons_take c more n nonempty
        rw [word, left] at next
        simp only [Step.word.injEq] at next
        obtain ⟨rfl, rfl⟩ := next
        refine ⟨gap, (c :: more).take n, between, ?_, ?_, rfl, rfl⟩
        · rw [List.take_append_drop]
        · rw [List.take_append_drop, List.length_take, Nat.min_eq_left within]
          exact found
  · have done : ahead accepts ⟨p, gap ++ more⟩ = .done := ahead_eq_done.mpr empty
    rw [done] at next
    cases next

/-- A word that stands next is spelled as its terminal asks, behind a gap. -/
theorem spells_of_word {t : Token}
    (next : ahead accepts ⟨p, cs⟩ = .word t after) :
    ∃ gap word, Gap gap ∧ cs = gap ++ (word ++ after.rest) ∧ t.terminal.Spells word ∧
      (∀ longer, t.terminal.Spells longer → longer <+: word ++ after.rest →
        longer.length ≤ word.length) ∧
      t = ⟨t.terminal, String.ofList word, ⟨p.after gap, (p.after gap).after word⟩⟩ ∧
      after.position = (p.after gap).after word := by
  obtain ⟨gap, word, between, text, found, same, place⟩ := found_of_word next
  obtain ⟨-, -, spells, longest⟩ := takes_of_lexeme found
  rw [List.take_left] at spells
  exact ⟨gap, word, between, text, spells, longest, same, place⟩

/-- Where a word stands next, the text is laid out with that word in front. -/
theorem written_of_word {t : Token}
    (next : ahead accepts ⟨p, cs⟩ = .word t after) {words : List Token}
    (later : Written after.position after.rest words) : Written p cs (t :: words) := by
  obtain ⟨gap, word, between, rfl, spells, longest, same, place⟩ := spells_of_word next
  rw [place] at later
  rw [same]
  exact .word between spells longest later

end Scanner

end DeskScript.Syntax
