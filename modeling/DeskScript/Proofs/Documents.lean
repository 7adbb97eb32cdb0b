import Mathlib
import DeskScript.Cache
import DeskScript.Proofs.KeyTexts
import DeskScript.Proofs.Scanning

/-!
# Documents are read back

What is written as a document and read again is the same document, as long as its numbers and texts
are read back one by one: whole numbers of at most as many digits as are read, texts without halves
of surrogate pairs. The reader is followed through the text of a document with anything that may
stand behind it there.
-/

namespace DeskScript

variable {s : String} {n levels level : ℕ} {j : Json} {p : Place}

namespace Text

/-- A text of whole characters: no half of a surrogate pair is in it. -/
def Whole (s : String) : Prop :=
  ∃ ps : List ℕ, (∀ p ∈ ps, p < 0x110000 ∧ isHalf p = false) ∧ s = ofPoints ps

theorem pointsOf_cons {c : Char} (unmarked : c ≠ mark) (rest : List Char) :
    pointsOf (c :: rest) = plainPoint c :: pointsOf rest := by
  cases rest with
  | nil => simp [pointsOf]
  | cons d rest => rw [pointsOf, if_neg unmarked]

theorem pointsOf_append (point : n < 0x110000) (whole : isHalf n = false) (rest : List Char) :
    pointsOf (ofPoint n ++ rest) = n :: pointsOf rest := by
  have low := Bool.eq_false_iff.mp whole
  rw [Ne, isHalf_iff] at low
  have number : (Char.ofNat n).toNat = n := toNat_ofNat (by omega)
  rw [ofPoint, if_neg (by simp [whole])]
  split
  next place => simp [pointsOf, markedPoint, number, place]
  next place =>
    split
    next last =>
      subst last
      have marked : markedPoint standIn = lastPoint := by decide
      simp [pointsOf, marked]
    next last =>
      have unmarked : Char.ofNat n ≠ mark := by
        intro same
        have := congrArg Char.toNat same
        rw [number] at this
        exact last this
      rw [List.singleton_append, pointsOf_cons unmarked, plainPoint, number, if_neg place]

theorem points_ofPoints {ps : List ℕ} (valid : ∀ p ∈ ps, p < 0x110000 ∧ isHalf p = false) :
    points (ofPoints ps) = ps := by
  rw [points, ofPoints, String.toList_ofList]
  induction ps with
  | nil => rfl
  | cons p ps ih =>
    obtain ⟨⟨point, whole⟩, valid⟩ := List.forall_mem_cons.mp valid
    rw [List.flatMap_cons, pointsOf_append point whole, ih valid]

theorem isHalf_of_lt (small : n < 0xd800) : isHalf n = false := by
  rw [Bool.eq_false_iff, Ne, isHalf_iff]
  omega

theorem ofPoint_of_lt (small : n < 0xd800) : ofPoint n = [Char.ofNat n] := by
  have place : isHalfPlace n = false := by
    rw [Bool.eq_false_iff, Ne, isHalfPlace_iff]
    omega
  simp only [ofPoint, isHalf_of_lt small, place]
  rw [if_neg (by simp), if_neg (by simp), if_neg (by rw [lastPoint]; omega)]

/-- A text without characters that halves could hide in is whole. -/
theorem whole_of_low (low : (s.toList.all fun c => c.toNat < 0xd800) = true) : Whole s := by
  simp only [List.all_eq_true, decide_eq_true_eq] at low
  refine ⟨s.toList.map Char.toNat, List.forall_mem_map.mpr fun c member => ?_, ?_⟩
  · exact ⟨(low c member).trans (by decide), isHalf_of_lt (low c member)⟩
  · have same : (s.toList.map Char.toNat).flatMap ofPoint = s.toList := by
      generalize s.toList = cs at low
      induction cs with
      | nil => rfl
      | cons c cs ih =>
        obtain ⟨first, others⟩ := List.forall_mem_cons.mp low
        rw [List.map_cons, List.flatMap_cons, ofPoint_of_lt first, ih others, Char.ofNat_toNat]
        rfl
    rw [ofPoints, same, String.ofList_toList]

end Text

namespace Json

open Text

/-! ### Texts -/

theorem unit?_hex {n : ℕ} (small : n < 0x10000) (rest : List Char) :
    (hex 4 n).length = 4 ∧ unit? (hex 4 n ++ rest) = some n := by
  have few : (Nat.toDigits 16 n).length ≤ 4 :=
    (Nat.length_toDigits_le_iff (by decide) (by decide)).mpr small
  have four : (hex 4 n).length = 4 := by
    simp only [hex, List.length_append, List.length_replicate]
    omega
  have digits : ∀ c ∈ hex 4 n, isHex c := by
    intro c member
    obtain ⟨d, small, rfl⟩ := digit_of_mem_hex member
    exact (by decide : ∀ d < 16, isHex (Nat.digitChar d)) d small
  refine ⟨four, ?_⟩
  rw [unit?, List.take_left' four]
  simp only [four, List.all_eq_true.mpr digits, and_self, if_true]
  exact congrArg some (hexNumber_hex 4 n)

theorem unitEscape_append (n : ℕ) (rest : List Char) :
    unitEscape n ++ rest = '\\' :: 'u' :: (hex 4 n ++ rest) := rfl

/-- A unit escape that is not the first half of a pair. -/
theorem readString_unit (small : n < 0x10000) (whole : isHalf n = false) (start fuel offset : ℕ)
    {rest : List Char} (more : rest ≠ []) :
    readString start (fuel + 1) ⟨unitEscape n ++ rest, offset⟩ = do
      let (cs, q) ← readString start fuel ⟨rest, offset + 6⟩
      return (ofPoint n ++ cs, q) := by
  obtain ⟨four, unit⟩ := unit?_hex small rest
  have behind : (hex 4 n ++ rest).drop 4 = rest := List.drop_left' four
  have some : rest.isEmpty = false := List.isEmpty_eq_false_iff.mpr more
  have single : ¬ (0xd800 ≤ n ∧ n < 0xdc00) := by
    rw [Bool.eq_false_iff, Ne, isHalf_iff] at whole
    omega
  have next : (⟨'\\' :: 'u' :: (hex 4 n ++ rest), offset⟩ : Place).skip 6 = ⟨rest, offset + 6⟩ := by
    simp [Place.skip, behind]
  rw [unitEscape_append, readString]
  simp only [behind, some, unit, next]
  rw [if_neg (by simp), if_neg (by omega)]

/-- The two escapes of a code point beyond the basic plane. -/
theorem readString_pair (point : n < 0x110000) (large : 0x10000 ≤ n) (start fuel offset : ℕ)
    {rest : List Char} (more : rest ≠ []) :
    readString start (fuel + 1) ⟨unitEscape (0xd800 + (n - 0x10000) / 0x400) ++
        unitEscape (0xdc00 + (n - 0x10000) % 0x400) ++ rest, offset⟩ = do
      let (cs, q) ← readString start fuel ⟨rest, offset + 12⟩
      return (ofPoint n ++ cs, q) := by
  generalize high : 0xd800 + (n - 0x10000) / 0x400 = h
  generalize low : 0xdc00 + (n - 0x10000) % 0x400 = l
  generalize text : '\\' :: 'u' :: (hex 4 l ++ rest) = second
  obtain ⟨four, unit⟩ := @unit?_hex h (by omega) second
  obtain ⟨four', unit'⟩ := @unit?_hex l (by omega) rest
  have behind : (hex 4 h ++ second).drop 4 = second := List.drop_left' four
  have digits : (hex 4 h ++ second).drop 6 = hex 4 l ++ rest := by
    rw [← List.drop_drop (j := 4) (i := 2), behind, ← text]
    rfl
  have last : (hex 4 h ++ second).drop 10 = rest := by
    rw [← List.drop_drop (j := 6) (i := 4), digits, List.drop_left' four']
  have some : rest.isEmpty = false := List.isEmpty_eq_false_iff.mpr more
  have next : (⟨'\\' :: 'u' :: (hex 4 h ++ second), offset⟩ : Place).skip 12 = ⟨rest, offset + 12⟩ := by
    rw [Place.skip, List.drop_succ_cons, List.drop_succ_cons, last]
  have same : 0x10000 + (h - 0xd800) * 0x400 + (l - 0xdc00) = n := by omega
  have whole : unitEscape h ++ unitEscape l ++ rest = '\\' :: 'u' :: (hex 4 h ++ second) := by
    rw [List.append_assoc, unitEscape_append, unitEscape_append, text]
  have paired : 0xd800 ≤ h ∧ h < 0xdc00 ∧ ((hex 4 h ++ second).drop 10).isEmpty = false ∧
      ((hex 4 h ++ second).drop 4).take 2 = ['\\', 'u'] := by
    rw [last, behind, ← text]
    exact ⟨by omega, by omega, some, rfl⟩
  have nonempty : second.isEmpty = false := by rw [← text]; rfl
  rw [whole, readString]
  simp only [behind, nonempty, unit, digits, unit', next, same]
  rw [if_neg (by simp), if_pos (by simpa [behind] using paired), if_pos (by omega)]

/-- The rest of a text is read after one of its code points. -/
theorem readString_point {n : ℕ} (point : n < 0x110000) (whole : isHalf n = false)
    (start fuel offset : ℕ) {rest : List Char} (more : rest ≠ []) :
    ∃ offset', readString start (fuel + 1) ⟨escapedPoint n ++ rest, offset⟩ = do
      let (cs, q) ← readString start fuel ⟨rest, offset'⟩
      return (ofPoint n ++ cs, q) := by
  by_cases special : n ∈ [34, 92, 10, 13, 9, 12, 8]
  · refine ⟨offset + 2, ?_⟩
    simp only [List.mem_cons, List.not_mem_nil, or_false] at special
    rcases special with rfl | rfl | rfl | rfl | rfl | rfl | rfl <;> rfl
  · simp only [List.mem_cons, List.not_mem_nil, or_false, not_or] at special
    obtain ⟨quote, slash, feed, back, tab, page, bell⟩ := special
    have low := Bool.eq_false_iff.mp whole
    rw [Ne, isHalf_iff] at low
    have number : (Char.ofNat n).toNat = n := toNat_ofNat (by omega)
    have other {c : Char} (different : n ≠ c.toNat) : Char.ofNat n ≠ c := by
      rintro rfl
      exact different number.symm
    have escaped : escapedPoint n = if 32 ≤ n ∧ n < 127 then [Char.ofNat n]
        else if n < 0x10000 then unitEscape n
        else unitEscape (0xd800 + (n - 0x10000) / 0x400) ++
          unitEscape (0xdc00 + (n - 0x10000) % 0x400) := by
      simp only [escapedPoint]
      rw [if_neg (not_or.mpr ⟨@other '"' quote, @other '\\' slash⟩), if_neg (@other '\n' feed),
        if_neg (@other '\r' back), if_neg (@other '\t' tab), if_neg page, if_neg bell]
    rw [escaped]
    split
    next printed =>
      refine ⟨offset + 1, ?_⟩
      rw [ofPoint_of_lt (by omega), List.singleton_append, readString]
      split
      next none => cases none
      next same => exact absurd (List.cons.inj same).1 (@other '"' quote)
      next same => exact absurd (List.cons.inj same).1 (@other '\\' slash)
      next same => exact absurd (List.cons.inj same).1 (@other '\\' slash)
      next same => exact absurd (List.cons.inj same).1 (@other '\\' slash)
      next same =>
        obtain ⟨rfl, rfl⟩ := List.cons.inj same
        rw [number, if_neg (by omega)]
        rfl
    next =>
      split
      next small => exact ⟨_, readString_unit small whole start fuel offset more⟩
      next large => exact ⟨_, readString_pair point (by omega) start fuel offset more⟩

theorem escapedPoint_length (n : ℕ) : 1 ≤ (escapedPoint n).length := by
  simp only [escapedPoint]
  repeat' split
  all_goals exact Nat.le_add_left 1 _

/-- A text is read to its closing quote. -/
theorem readString_text (whole : Whole s) (start offset : ℕ) (rest : List Char) :
    ∃ cs offset', (writeText s).toList = '"' :: cs ∧
      readString start ((cs ++ rest).length + 1) ⟨cs ++ rest, offset⟩ =
        .ok (s.toList, ⟨rest, offset'⟩) := by
  obtain ⟨ps, valid, rfl⟩ := whole
  have reads : ∀ fuel offset, ps.length < fuel → ∃ offset',
      readString start fuel ⟨ps.flatMap escapedPoint ++ '"' :: rest, offset⟩ =
        .ok (ps.flatMap ofPoint, ⟨rest, offset'⟩) := by
    induction ps with
    | nil =>
      intro fuel offset enough
      obtain ⟨fuel, rfl⟩ := Nat.exists_eq_succ_of_ne_zero (Nat.ne_of_gt enough)
      exact ⟨offset + 1, rfl⟩
    | cons p ps ih =>
      intro fuel offset enough
      obtain ⟨fuel, rfl⟩ := Nat.exists_eq_succ_of_ne_zero (Nat.ne_zero_of_lt enough)
      obtain ⟨⟨point, whole⟩, valid⟩ := List.forall_mem_cons.mp valid
      rw [List.flatMap_cons, List.append_assoc]
      obtain ⟨next, step⟩ := @readString_point p point whole start fuel offset
        (ps.flatMap escapedPoint ++ '"' :: rest) (by simp)
      obtain ⟨last, later⟩ := ih valid fuel next (Nat.lt_of_succ_lt_succ enough)
      refine ⟨last, ?_⟩
      rw [step, later]
      rfl
  have long : ps.length ≤ (ps.flatMap escapedPoint).length := by
    clear reads valid
    induction ps with
    | nil => exact Nat.le_refl 0
    | cons p ps ih =>
      have first := escapedPoint_length p
      rw [List.flatMap_cons, List.length_append, List.length_cons]
      omega
  obtain ⟨last, read⟩ := reads ((ps.flatMap escapedPoint ++ ['"'] ++ rest).length + 1) offset (by
    simp only [List.length_append]
    omega)
  refine ⟨ps.flatMap escapedPoint ++ ['"'], last, ?_, ?_⟩
  · rw [writeText, points_ofPoints valid, String.toList_ofList, List.cons_append]
  · rw [ofPoints, String.toList_ofList, ← read, List.append_assoc]
    rfl

/-! ### Numbers and words -/

/-- Whether a character stands behind a value in a written document. -/
def isEnd (c : Char) : Bool := c = ',' || c = '\n'

theorem not_digit_of_isEnd {c : Char} (stop : isEnd c) :
    c.isDigit = false ∧ c ≠ '0' ∧ c ≠ '.' ∧ c ≠ '-' ∧ c ≠ '+' ∧ c ≠ 'e' ∧ c ≠ 'E' := by
  simp only [isEnd, Bool.or_eq_true, decide_eq_true_eq] at stop
  rcases stop with rfl | rfl <;> decide

section Stop

variable {c : Char} (stop : isEnd c) (cs rest : List Char)
include stop

theorem digits_stop : (cs ++ c :: rest).takeWhile Char.isDigit = cs.takeWhile Char.isDigit :=
  Syntax.Scanner.takeWhile_stop (not_digit_of_isEnd stop).1 cs rest

theorem wholePart_stop : wholePart (cs ++ c :: rest) = wholePart cs := by
  obtain ⟨digit, zero, -⟩ := not_digit_of_isEnd stop
  cases cs with
  | nil => simp [wholePart, zero, digit]
  | cons d cs =>
    by_cases lead : d = '0'
    · subst lead
      rfl
    · have same := digits_stop stop (d :: cs) rest
      rw [List.cons_append] at same ⊢
      simp [wholePart, lead, same]

theorem fractionPart_stop : fractionPart (cs ++ c :: rest) = fractionPart cs := by
  obtain ⟨-, -, point, -⟩ := not_digit_of_isEnd stop
  cases cs with
  | nil => simp [fractionPart, point]
  | cons d cs =>
    by_cases behind : d = '.'
    · subst behind
      exact digits_stop stop cs rest
    · simp [fractionPart, behind]

theorem exponentPart_stop : exponentPart (cs ++ c :: rest) = exponentPart cs := by
  obtain ⟨digit, -, -, minus, plus, lower, upper⟩ := not_digit_of_isEnd stop
  cases cs with
  | nil => simp [exponentPart, lower, upper]
  | cons e cs =>
    cases cs with
    | nil => simp [exponentPart, minus, plus, digit]
    | cons d cs =>
      by_cases negative : d = '-'
      · subst negative
        simp [exponentPart, digits_stop stop]
      · by_cases positive : d = '+'
        · subst positive
          simp [exponentPart, digits_stop stop]
        · have more := digits_stop stop (d :: cs) rest
          rw [List.cons_append] at more
          simp [exponentPart, negative, positive, more]

end Stop

theorem takeWhile_length_le (cs : List Char) : (cs.takeWhile Char.isDigit).length ≤ cs.length :=
  (List.takeWhile_prefix _).length_le

theorem wholePart_length (cs : List Char) : (wholePart cs).length ≤ cs.length := by
  rw [wholePart.eq_def]
  split
  · exact Nat.le_add_left 1 _
  · exact takeWhile_length_le cs

theorem fractionPart_length (cs : List Char) :
    (if (fractionPart cs).isEmpty then 0 else (fractionPart cs).length + 1) ≤ cs.length := by
  split
  next => exact Nat.zero_le _
  next some =>
    rw [fractionPart.eq_def] at some ⊢
    split
    · exact Nat.succ_le_succ (takeWhile_length_le _)
    · simp_all

theorem exponentPart_length (cs : List Char) :
    (if (exponentPart cs).isEmpty then 0 else (exponentPart cs).length + 1) ≤ cs.length := by
  split
  next => exact Nat.zero_le _
  next some =>
    cases cs with
    | nil => exact absurd rfl some
    | cons e cs =>
      rw [List.length_cons, Nat.add_le_add_iff_right]
      simp only [exponentPart]
      split
      · have signed (sign : List Char) (digits : List Char) :
            (if digits.isEmpty then [] else sign ++ digits).length ≤ sign.length + digits.length := by
          split <;> simp
        refine Nat.le_trans (signed _ _) ?_
        split
        next r => simpa [Nat.add_comm] using takeWhile_length_le r
        next r => simpa [Nat.add_comm] using takeWhile_length_le r
        next => simpa using takeWhile_length_le cs
      · exact Nat.zero_le _

theorem unsigned?_stop {c : Char} (stop : isEnd c) (negative : Bool) (cs rest : List Char) :
    unsigned? negative (cs ++ c :: rest) = unsigned? negative cs := by
  have whole : (cs ++ c :: rest).drop (wholePart cs).length = cs.drop (wholePart cs).length ++ c :: rest :=
    List.drop_append_of_le_length (wholePart_length cs)
  simp only [unsigned?, wholePart_stop stop, whole, fractionPart_stop stop]
  split
  · rfl
  · split
    · rw [exponentPart_stop stop]
    · next some =>
      have fraction := fractionPart_length (cs.drop (wholePart cs).length)
      rw [if_neg some] at fraction
      rw [List.drop_append_of_le_length fraction, exponentPart_stop stop]

theorem unsigned?_length {negative : Bool} {cs : List Char} {n : Numeral}
    (found : unsigned? negative cs = some n) :
    n.length ≤ (if negative then 1 else 0) + cs.length := by
  have whole := wholePart_length cs
  simp only [unsigned?] at found
  split at found
  · cases found
  · obtain rfl := Option.some.inj found
    have fraction := fractionPart_length (cs.drop (wholePart cs).length)
    have left := List.length_drop (i := (wholePart cs).length) (l := cs)
    revert fraction left
    generalize cs.drop (wholePart cs).length = behind
    intro fraction left
    have exponent := exponentPart_length (if (fractionPart behind).isEmpty then behind
      else behind.drop ((fractionPart behind).length + 1))
    revert fraction exponent
    simp only [Numeral.length]
    split
    · omega
    · rw [List.length_drop]
      omega

theorem numeral?_length {cs : List Char} {n : Numeral} (found : numeral? cs = some n) :
    n.length ≤ cs.length := by
  rw [numeral?.eq_def] at found
  split at found
  · have long := unsigned?_length found
    rwa [if_pos rfl, Nat.add_comm] at long
  · simpa using unsigned?_length found

/-- What may stand behind a value in a written document. -/
def Follows (rest : List Char) : Prop := ∀ c ∈ rest.head?, isEnd c

theorem numeral?_append {rest : List Char} (follows : Follows rest) (cs : List Char) :
    numeral? (cs ++ rest) = numeral? cs := by
  cases rest with
  | nil => rw [List.append_nil]
  | cons c rest =>
    have stop : isEnd c := follows c rfl
    obtain ⟨-, -, -, minus, -⟩ := not_digit_of_isEnd stop
    have same (negative : Bool) := unsigned?_stop stop negative
    cases cs with
    | nil => simpa [numeral?, minus] using same false [] rest
    | cons d cs =>
      by_cases negative : d = '-'
      · subst negative
        exact same true cs rest
      · have behind := same false (d :: cs) rest
        rw [List.cons_append] at behind ⊢
        simp [numeral?, negative, behind]

theorem words_append {rest : List Char} (follows : Follows rest) (cs : List Char) :
    words.find? (fun w => w.1.toList.isPrefixOf (cs ++ rest)) =
      words.find? fun w => w.1.toList.isPrefixOf cs := by
  cases rest with
  | nil => rw [List.append_nil]
  | cons c rest =>
    have stop : isEnd c := follows c rfl
    refine Syntax.Scanner.find?_isPrefixOf_stop ?_ cs rest
    simp only [isEnd, Bool.or_eq_true, decide_eq_true_eq] at stop
    rcases stop with rfl | rfl <;> simp [words]

theorem skip_append {cs rest : List Char} (long : n ≤ cs.length) (all : cs.drop n = []) (offset : ℕ) :
    (⟨cs ++ rest, offset⟩ : Place).skip n = ⟨rest, offset + n⟩ := by
  have same : n = cs.length := Nat.le_antisymm long (List.drop_eq_nil_iff.mp all)
  rw [Place.skip, same, List.drop_left]

/-- A word or number that is all of a text is read as well where it stands in a document. -/
theorem readScalar_append {cs : List Char} {o : ℕ} (found : readScalar ⟨cs, o⟩ = .ok (j, p))
    (all : p.rest = []) {rest : List Char} (follows : Follows rest) (offset : ℕ) :
    ∃ offset', readScalar ⟨cs ++ rest, offset⟩ = .ok (j, ⟨rest, offset'⟩) := by
  simp only [readScalar, words_append follows, numeral?_append follows] at found ⊢
  cases first : words.find? fun w => w.1.toList.isPrefixOf cs with
  | some w =>
    rw [first] at found
    obtain ⟨rfl, rfl⟩ := Prod.mk.inj (Except.ok.inj found)
    have fits : w.1.toList <+: cs := by simpa using List.find?_some first
    exact ⟨_, congrArg (fun p => Except.ok (w.2, p)) (skip_append fits.length_le all offset)⟩
  | none =>
    cases number : numeral? cs with
    | none => simp [first, number] at found
    | some n =>
      cases value : n.value with
      | error fault => simp [first, number, value] at found
      | ok v =>
        simp only [first, number, value] at found ⊢
        obtain ⟨rfl, rfl⟩ := Prod.mk.inj (Except.ok.inj found)
        have long := numeral?_length number
        exact ⟨_, congrArg (fun p => Except.ok (v, p)) (skip_append long all offset)⟩

/-! ### Whole numbers -/

theorem digitsValue_toDigits (n : ℕ) : Number.digitsValue (Nat.toDigits 10 n) = n := by
  have number := @Nat.ofDigitChars_toDigits 10 n (by decide) (by decide)
  simp only [Nat.ofDigitChars, Nat.mul_comm 10] at number
  exact number

theorem isDigit_of_mem_toDigits (n : ℕ) : ∀ c ∈ Nat.toDigits 10 n, c.isDigit :=
  fun _ => Nat.isDigit_of_mem_toDigits (by decide) (by decide)

theorem toDigits_lead (positive : 0 < n) {cs : List Char} : Nat.toDigits 10 n ≠ '0' :: cs := by
  induction n using Nat.strongRecOn generalizing cs with
  | ind n ih =>
    rw [Nat.toDigits_eq_if (by decide)]
    split
    next small =>
      intro same
      have zero := (List.cons.inj same).1
      exact (by decide : ∀ n < 10, 0 < n → Nat.digitChar n ≠ '0') n small positive zero
    next large =>
      intro same
      obtain ⟨d, ds, digits⟩ := List.exists_cons_of_ne_nil (@Nat.toDigits_ne_nil (n / 10) 10)
      rw [digits, List.cons_append] at same
      rw [(List.cons.inj same).1] at digits
      exact ih (n / 10) (by omega) (by omega) digits

theorem unsigned?_toDigits (negative : Bool) (n : ℕ) :
    unsigned? negative (Nat.toDigits 10 n) = some ⟨negative, Nat.toDigits 10 n, [], []⟩ := by
  have all : wholePart (Nat.toDigits 10 n) = Nat.toDigits 10 n := by
    rcases Nat.eq_zero_or_pos n with rfl | positive
    · rfl
    · rw [wholePart.eq_def]
      split
      next same => exact absurd same (toDigits_lead positive)
      next =>
        have digits := @List.takeWhile_append_of_pos _ Char.isDigit _ [] (isDigit_of_mem_toDigits n)
        rwa [List.append_nil, List.takeWhile_nil, List.append_nil] at digits
  simp [unsigned?, all, fractionPart, exponentPart, Nat.toDigits_ne_nil]

theorem words_digits {cs : List Char} (digits : ∀ c ∈ cs, c.isDigit) (some : cs ≠ []) :
    (words.find? fun w => w.1.toList.isPrefixOf cs) = none ∧
      (words.find? fun w => w.1.toList.isPrefixOf ('-' :: cs)) = none := by
  obtain ⟨d, cs, rfl⟩ := List.exists_cons_of_ne_nil some
  have digit := digits d List.mem_cons_self
  have other {c : Char} (letter : c.isDigit = false) : c ≠ d := by
    rintro rfl
    rw [digit] at letter
    cases letter
  have n : 'n' ≠ d := other rfl
  have t : 't' ≠ d := other rfl
  have f : 'f' ≠ d := other rfl
  have N : 'N' ≠ d := other rfl
  have I : 'I' ≠ d := other rfl
  have minus : '-' ≠ d := other rfl
  simp [words, List.isPrefixOf, n, t, f, N, I, minus]

/-- The numeral of a whole number. -/
def Numeral.ofNat (negative : Bool) (n : ℕ) : Numeral := ⟨negative, Nat.toDigits 10 n, [], []⟩

theorem numeral?_int (i : Int) :
    numeral? (toString i).toList = some (.ofNat (i < 0) i.natAbs) ∧
      (Numeral.ofNat (i < 0) i.natAbs).length = (toString i).toList.length ∧
      (words.find? fun w => w.1.toList.isPrefixOf (toString i).toList) = none := by
  have digits := isDigit_of_mem_toDigits i.natAbs
  obtain ⟨positive, negative⟩ := words_digits digits Nat.toDigits_ne_nil
  cases i with
  | ofNat n =>
    have text : (toString (Int.ofNat n)).toList = Nat.toDigits 10 n := Nat.toList_repr
    have sign : decide (Int.ofNat n < 0) = false := by simp
    rw [text, sign]
    refine ⟨?_, by simp [Numeral.ofNat, Numeral.length], positive⟩
    have same := unsigned?_toDigits false n
    rw [numeral?.eq_def]
    split
    next minus => exact absurd (digits '-' (minus ▸ List.mem_cons_self)) (by decide)
    next => exact same
  | negSucc n =>
    have text : (toString (Int.negSucc n)).toList = '-' :: Nat.toDigits 10 (n + 1) := by
      rw [← Nat.toList_repr]
      exact String.toList_append
    have sign : decide (Int.negSucc n < 0) = true := by simp
    rw [text, sign]
    refine ⟨unsigned?_toDigits true (n + 1), ?_, negative⟩
    simp [Numeral.ofNat, Numeral.length, Nat.add_comm]

theorem Numeral.value_ofNat (negative : Bool) (n : ℕ) :
    (Numeral.ofNat negative n).value =
      if n < 10 ^ Number.digitLimit then .ok (.int (if negative then -n else n))
      else .error (.tooLong (Nat.toDigits 10 n).length) := by
  have few : Number.digitLimit < (Nat.toDigits 10 n).length ↔ ¬ n < 10 ^ Number.digitLimit := by
    rw [← Nat.length_toDigits_le_iff (by decide) (by decide), Nat.not_le]
  simp only [value, ofNat, digitsValue_toDigits, few, ite_not, List.isEmpty_nil, Bool.and_self, if_true]

/-- A whole number is read back if it has no more digits than are read. -/
theorem readScalar_int (i : Int) (offset : ℕ) :
    readScalar ⟨(toString i).toList, offset⟩ =
      if i.natAbs < 10 ^ Number.digitLimit then .ok (.int i, ⟨[], offset + (toString i).toList.length⟩)
      else .error (.tooLong (Nat.toDigits 10 i.natAbs).length) := by
  obtain ⟨number, long, none⟩ := numeral?_int i
  have sign : (if decide (i < 0) then -(i.natAbs : Int) else i.natAbs) = i := by
    simp only [decide_eq_true_eq]
    split <;> omega
  rw [readScalar]
  simp only [none, number, Numeral.value_ofNat, long, sign, Place.skip, List.drop_length]
  split <;> rfl

end Json

/-! ### Numbers with a fraction -/

namespace Number

/-- Whether a character may be in the text of a number. -/
def isInk (c : Char) : Bool := c.isAlphanum || c = '+' || c = '-' || c = '.'

/-- A text of nothing else. -/
def Inked (s : String) : Prop := ∀ c ∈ s.toList, isInk c

theorem inked_of_all (all : s.toList.all isInk) : Inked s := List.all_eq_true.mp all

theorem Inked.append {s t : String} (left : Inked s) (right : Inked t) : Inked (s ++ t) := by
  intro c member
  rw [String.toList_append] at member
  exact (List.mem_append.mp member).elim (left c) (right c)

theorem Inked.take (inked : Inked s) (n : ℕ) : Inked (s.take n).toString := by
  intro c member
  simp only [String.Slice.toString_eq, String.toList_copy_take] at member
  exact inked c (List.mem_of_mem_take member)

theorem Inked.drop (inked : Inked s) (n : ℕ) : Inked (s.drop n).toString := by
  intro c member
  simp only [String.Slice.toString_eq, String.toList_copy_drop] at member
  exact inked c (List.mem_of_mem_drop member)

theorem inked_nat (n : ℕ) : Inked (toString n) := by
  intro c member
  have digit := Json.isDigit_of_mem_toDigits n c (Nat.toList_repr ▸ member)
  simp [isInk, Char.isAlphanum, digit]

theorem inked_int (i : Int) : Inked (toString i) := by
  cases i with
  | ofNat n => exact inked_nat n
  | negSucc n => exact Inked.append (s := "-") (inked_of_all rfl) (inked_nat (n + 1))

theorem inked_zeros (n : ℕ) : Inked (repeatChar '0' n) := by
  intro c member
  rw [repeatChar, String.toList_ofList] at member
  rw [(List.mem_replicate.mp member).2]
  rfl

theorem inked_exponentText (e : Int) : Inked (exponentText e) := by
  have sign : Inked (if e < 0 then "-" else "+") := by
    split <;> exact inked_of_all rfl
  exact ((inked_of_all (s := "e") rfl).append sign).append ((inked_zeros _).append (inked_nat _))

theorem inked_scientific {digits : String} (inked : Inked digits) (e : Int) :
    Inked (scientific false digits e) := by
  have fraction : Inked (if (digits.drop 1).toString.isEmpty && !false then "" else
      "." ++ (digits.drop 1).toString) := by
    split
    · exact inked_of_all rfl
    · exact (inked_of_all (s := ".") rfl).append (inked.drop 1)
  exact ((inked.take 1).append fraction).append (inked_exponentText e)

theorem inked_positional (d : Decimal) : Inked (positional true d) := by
  have digits := inked_nat d.digits
  simp only [positional]
  split
  · exact (digits.append (inked_zeros _)).append (inked_of_all rfl)
  · split
    · exact ((inked_of_all rfl).append (inked_zeros _)).append digits
    · exact ((digits.take _).append (inked_of_all rfl)).append (digits.drop _)

theorem inked_plain (x : Float) : Inked (plain x) := by
  rw [plain, Layout.text]
  split
  next => exact inked_of_all rfl
  next => split <;> exact inked_of_all rfl
  next negative m e _ =>
    have sign : Inked (if negative then "-" else "") := by
      split <;> exact inked_of_all rfl
    refine sign.append ?_
    split
    · exact inked_positional _
    · rw [Layout.write]
      split
      · exact inked_scientific (inked_nat _) _
      · exact inked_positional _

end Number

namespace Json

open Text

theorem inked_writeFloat (x : Float) : Number.Inked (writeFloat x) := by
  rw [writeFloat]
  split
  next => exact Number.inked_of_all rfl
  next => split <;> exact Number.inked_of_all rfl
  next => exact Number.inked_plain x

theorem blanks_of_head (head : ∀ c ∈ p.rest.head?, isSpace c = false) : p.blanks = p := by
  obtain ⟨cs, offset⟩ := p
  cases cs with
  | nil => rfl
  | cons c cs =>
    have visible : isSpace c = false := head c rfl
    simp [Place.blanks, Place.skip, visible]

theorem readScalar_skip {q : Place} (found : readScalar p = .ok (j, q)) : ∃ n, q = p.skip n := by
  rw [readScalar] at found
  split at found
  next =>
    cases found
    exact ⟨_, rfl⟩
  next =>
    split at found
    next => cases found
    next n _ =>
      cases value : n.value with
      | error fault => simp [value] at found
      | ok v =>
        rw [value] at found
        cases found
        exact ⟨_, rfl⟩

theorem readValue_scalar (levels fuel : ℕ) {p : Place}
    (head : ∀ c ∈ p.rest.head?, c ≠ '"' ∧ c ≠ '[' ∧ c ≠ '\x7b') :
    readValue levels (fuel + 1) p = readScalar p := by
  obtain ⟨cs, offset⟩ := p
  rw [readValue]
  split
  next same => exact absurd rfl (head '"' (by simp_all)).1
  next same => exact absurd rfl (head '[' (by simp_all)).2.1
  next same => exact absurd rfl (head '\x7b' (by simp_all)).2.2
  next => rfl

theorem ink_head {c : Char} (ink : Number.isInk c) :
    (isSpace c = false ∧ c ≠ ']' ∧ c ≠ '\ufeff') ∧ c ≠ '"' ∧ c ≠ '[' ∧ c ≠ '\x7b' := by
  refine ⟨⟨?_, ?_, ?_⟩, ?_, ?_, ?_⟩
  · by_contra space
    simp only [isSpace, Bool.not_eq_false, Bool.or_eq_true, beq_iff_eq] at space
    rcases space with ((rfl | rfl) | rfl) | rfl <;> exact absurd ink (by decide)
  all_goals
    rintro rfl
    exact absurd ink (by decide)

/-- The text of a number that is a document is read as a number or a word. -/
theorem readScalar_of_read (inked : Number.Inked s) (back : read s = .ok j) :
    ∃ p, readScalar ⟨s.toList, 0⟩ = .ok (j, p) ∧ p.rest = [] := by
  have head : ∀ c ∈ s.toList.head?, Number.isInk c := fun c first =>
    inked c (List.mem_of_mem_head? first)
  have start : (⟨s.toList, 0⟩ : Place).blanks = ⟨s.toList, 0⟩ :=
    blanks_of_head fun c first => (ink_head (head c first)).1.1
  have scalar := readValue_scalar levelLimit (2 * s.length + 1) (p := ⟨s.toList, 0⟩) fun c first =>
    (ink_head (head c first)).2
  simp only [read] at back
  split at back
  next => cases back
  next =>
    rw [start, scalar] at back
    cases found : readScalar ⟨s.toList, 0⟩ with
    | error fault =>
      rw [found] at back
      cases back
    | ok result =>
      obtain ⟨v, p⟩ := result
      obtain ⟨n, rfl⟩ := readScalar_skip found
      have all : ((⟨s.toList, 0⟩ : Place).skip n).blanks = (⟨s.toList, 0⟩ : Place).skip n :=
        blanks_of_head fun c first =>
          (ink_head (inked c (List.mem_of_mem_drop (List.mem_of_mem_head? first)))).1.1
      simp only [found, bind, Except.bind, all] at back
      split at back
      next none =>
        cases back
        exact ⟨_, rfl, List.isEmpty_iff.mp none⟩
      next => cases back

/-! ### Values within one another -/

theorem toList_newLine (level : ℕ) : (newLine level).toList = '\n' :: List.replicate (2 * level) ' ' := by
  simp [newLine, Number.repeatChar]

/-- Texts on lines of their own, one level further in, with a comma between them. -/
def listed (level : ℕ) (texts : List (List Char)) : List Char :=
  (',' :: (newLine (level + 1)).toList).intercalate texts

theorem listed_cons (level : ℕ) (t : List Char) {texts : List (List Char)} (some : texts ≠ []) :
    listed level (t :: texts) = t ++ (',' :: ((newLine (level + 1)).toList ++ listed level texts)) := by
  rw [listed, List.intercalate_cons_of_ne_nil some, List.append_assoc, List.cons_append, listed]

theorem listed_head (level : ℕ) (t : List Char) (texts : List (List Char)) :
    ∃ more, listed level (t :: texts) = t ++ more := by
  cases texts with
  | nil => exact ⟨[], by rw [listed, List.intercalate_singleton, List.append_nil]⟩
  | cons u texts => exact ⟨_, listed_cons level t (List.cons_ne_nil u texts)⟩

theorem writeItems_eq_map (level : ℕ) (items : List Json) :
    writeItems level items = items.map (writeAt level) := by
  induction items with
  | nil => rfl
  | cons item items ih => rw [writeItems, ih, List.map_cons]

/-- A member of an object as text. -/
def writeMember (level : ℕ) (m : String × Json) : String := writeText m.1 ++ ": " ++ writeAt level m.2

theorem writeMembers_eq_map (level : ℕ) (members : List (String × Json)) :
    writeMembers level members = members.map (writeMember level) := by
  induction members with
  | nil => rfl
  | cons m members ih => rw [writeMembers, ih, List.map_cons, writeMember]

theorem toList_writeMember (level : ℕ) (m : String × Json) : (writeMember level m).toList =
    (writeText m.1).toList ++ ':' :: ' ' :: (writeAt level m.2).toList := by
  simp [writeMember, String.toList_append]

theorem blanks_newLine (level : ℕ) (cs : List Char) (head : ∀ c ∈ cs.head?, isSpace c = false) (offset : ℕ) :
    ∃ offset', (⟨(newLine level).toList ++ cs, offset⟩ : Place).blanks = ⟨cs, offset'⟩ := by
  have spaces : ∀ c ∈ (newLine level).toList, isSpace c := by
    intro c member
    rw [toList_newLine] at member
    rcases List.mem_cons.mp member with rfl | blank
    · rfl
    · rw [(List.mem_replicate.mp blank).2]
      rfl
  have first : cs.takeWhile isSpace = [] := by
    cases cs with
    | nil => rfl
    | cons c cs => simp [head c rfl]
  refine ⟨offset + (newLine level).toList.length, ?_⟩
  rw [Place.blanks, List.takeWhile_append_of_pos spaces, first, List.append_nil, Place.skip,
    List.drop_left]

theorem blanks_comma (rest : List Char) (offset : ℕ) :
    (⟨',' :: rest, offset⟩ : Place).blanks = ⟨',' :: rest, offset⟩ := rfl

theorem skip_one (c : Char) (rest : List Char) (offset : ℕ) :
    (⟨c :: rest, offset⟩ : Place).skip 1 = ⟨rest, offset + 1⟩ := rfl

/-- A text is read as a value wherever it stands in a document. -/
structure ReadsAs (levels : ℕ) (cs : List Char) (j : Json) : Prop where
  head : ∃ c tail, cs = c :: tail ∧ isSpace c = false ∧ c ≠ ']' ∧ c ≠ '\ufeff'
  read : ∀ (fuel offset : ℕ) (rest : List Char), cs.length < fuel → Follows rest →
    ∃ offset', readValue levels fuel ⟨cs ++ rest, offset⟩ = .ok (j, ⟨rest, offset'⟩)

theorem follows_newLine (level : ℕ) (rest : List Char) : Follows ((newLine level).toList ++ rest) := by
  rw [toList_newLine]
  rintro c ⟨⟩
  rfl

theorem follows_comma (rest : List Char) : Follows (',' :: rest) := by
  rintro c ⟨⟩
  rfl

/-- Behind an opening bracket the first of the items is found. -/
theorem bracketed_cons (opening closing : Char) (level : ℕ) {t : String} (ts : List String) {c : Char}
    {tail : List Char} (head : t.toList = c :: tail) (dark : isSpace c = false) :
    (listed level ((t :: ts).map String.toList)).length + 4 ≤
        (bracketed (.singleton opening) (.singleton closing) level (t :: ts)).toList.length ∧
      ∀ (rest : List Char) (offset : ℕ), ∃ inner more o,
        (bracketed (.singleton opening) (.singleton closing) level (t :: ts)).toList ++ rest = opening :: inner ∧
        (⟨inner, offset + 1⟩ : Place).blanks = ⟨c :: more, o⟩ ∧
        c :: more = listed level ((t :: ts).map String.toList) ++ ((newLine level).toList ++ closing :: rest) := by
  have text : (bracketed (.singleton opening) (.singleton closing) level (t :: ts)).toList =
      opening :: ((newLine (level + 1)).toList ++ (listed level ((t :: ts).map String.toList) ++
        ((newLine level).toList ++ [closing]))) := by
    rw [bracketed, if_neg (by simp)]
    simp only [String.toList_append, String.toList_intercalate, String.toList_singleton, List.append_assoc,
      List.singleton_append]
    rfl
  obtain ⟨more, first⟩ := listed_head level t.toList (ts.map String.toList)
  rw [head, List.cons_append, ← head, ← List.map_cons] at first
  refine ⟨?_, fun rest offset => ?_⟩
  · simp only [text, toList_newLine, List.length_append, List.length_cons]
    omega
  · obtain ⟨o, blank⟩ := blanks_newLine (level + 1)
      (c :: (tail ++ more ++ ((newLine level).toList ++ closing :: rest)))
      (by rintro d ⟨⟩; exact dark) (offset + 1)
    refine ⟨_, _, o, ?_, blank, by rw [first, List.cons_append]⟩
    rw [text, first]
    simp only [List.cons_append, List.append_assoc, List.nil_append]

/-- A text is read as an item of a list, behind other ones: what is behind it decides how it goes on. -/
structure ReadsItem {α : Type} (closing : Char) (reader : ℕ → List α → Place → Except Fault (List α × Place))
    (before : List α) (cs : List Char) (a : α) : Prop where
  head : ∃ c tail, cs = c :: tail ∧ isSpace c = false ∧ c ≠ closing
  read : ∀ (fuel offset : ℕ) (rest : List Char), cs.length < fuel → Follows rest →
    ∃ offset', ∀ (tail : List Char) (o : ℕ),
      ((⟨rest, offset'⟩ : Place).blanks = ⟨closing :: tail, o⟩ →
        reader (fuel + 1) before ⟨cs ++ rest, offset⟩ = .ok (before ++ [a], ⟨tail, o + 1⟩)) ∧
      ((⟨rest, offset'⟩ : Place).blanks = ⟨',' :: tail, o⟩ →
        reader (fuel + 1) before ⟨cs ++ rest, offset⟩ =
          reader fuel (before ++ [a]) (⟨tail, o + 1⟩ : Place).blanks)

section Lists

variable {α : Type} (closing : Char) (dark : isSpace closing = false)
  (reader : ℕ → List α → Place → Except Fault (List α × Place)) {text : α → String}
include dark

/-- The items of a list are read one after another. -/
theorem reader_listed {items : List α} (some : items ≠ []) {l : List α}
    (each : ∀ done a more, items = done ++ a :: more → ReadsItem closing reader (l ++ done) (text a).toList a)
    (fuel offset : ℕ) (rest : List Char)
    (enough : (listed level (items.map fun a => (text a).toList)).length + 1 < fuel) :
    ∃ offset', reader fuel l ⟨listed level (items.map fun a => (text a).toList) ++
      ((newLine level).toList ++ closing :: rest), offset⟩ = .ok (l ++ items, ⟨rest, offset'⟩) := by
  induction items generalizing fuel offset l with
  | nil => exact absurd rfl some
  | cons a items ih =>
    obtain ⟨fuel, rfl⟩ := Nat.exists_eq_succ_of_ne_zero (Nat.ne_zero_of_lt enough)
    have first := each [] a items rfl
    have others : ∀ done b more, items = done ++ b :: more →
        ReadsItem closing reader (l ++ [a] ++ done) (text b).toList b := by
      rintro done b more rfl
      simpa using each (a :: done) b more rfl
    rw [List.append_nil] at first
    cases items with
    | nil =>
      rw [List.map_singleton, listed, List.intercalate_singleton] at enough ⊢
      obtain ⟨o₁, read⟩ := first.read fuel offset _ (by omega) (follows_newLine level (closing :: rest))
      obtain ⟨o₂, blank⟩ := blanks_newLine level (closing :: rest) (by rintro c ⟨⟩; exact dark) o₁
      exact ⟨o₂ + 1, (read rest o₂).1 blank⟩
    | cons b items =>
      have more : ((b :: items).map fun a => (text a).toList) ≠ [] := by simp
      rw [List.map_cons, listed_cons level _ more] at enough ⊢
      simp only [List.length_append, List.length_cons] at enough
      rw [List.append_assoc, List.cons_append, List.append_assoc]
      generalize behind : listed level ((b :: items).map fun a => (text a).toList) ++
        ((newLine level).toList ++ closing :: rest) = later
      obtain ⟨o₁, read⟩ := first.read fuel offset _ (by omega)
        (follows_comma ((newLine (level + 1)).toList ++ later))
      have visible : ∀ c ∈ later.head?, isSpace c = false := by
        obtain ⟨more, head⟩ := listed_head level (text b).toList (items.map fun a => (text a).toList)
        obtain ⟨c, tail, same, dark, -⟩ := (others [] b items rfl).head
        rw [List.map_cons, head, same] at behind
        rw [← behind]
        rintro d ⟨⟩
        exact dark
      obtain ⟨o₂, blank⟩ := blanks_newLine (level + 1) later visible (o₁ + 1)
      obtain ⟨o₃, read'⟩ := ih (List.cons_ne_nil b items) others fuel o₂ (by omega)
      rw [behind, List.append_assoc] at read'
      rw [(read _ o₁).2 (blanks_comma _ o₁), blank]
      exact ⟨o₃, read'⟩

/-- A list in brackets is read as a value if its items are read, and nothing between the brackets as
well. -/
theorem readsAs_bracketed (opening : Char) {levels level : ℕ} {make : List α → Json} {items : List α}
    (start : isSpace opening = false ∧ opening ≠ ']' ∧ opening ≠ '\ufeff')
    (each : ∀ done a more, items = done ++ a :: more → ReadsItem closing reader done (text a).toList a)
    (none : ∀ (fuel offset : ℕ) (rest : List Char), readValue (levels + 1) (fuel + 1)
      ⟨opening :: closing :: rest, offset⟩ = .ok (make [], ⟨rest, offset + 2⟩))
    (opens : ∀ (fuel : ℕ) {cs tail : List Char} {c : Char} {offset o : ℕ},
      (⟨cs, offset + 1⟩ : Place).blanks = ⟨c :: tail, o⟩ → c ≠ closing →
      readValue (levels + 1) (fuel + 1) ⟨opening :: cs, offset⟩ =
        Except.map (Prod.map make id) (reader fuel [] ⟨c :: tail, o⟩)) :
    ReadsAs (levels + 1) (bracketed (.singleton opening) (.singleton closing) level (items.map text)).toList
      (make items) := by
  cases items with
  | nil =>
    have text : (bracketed (.singleton opening) (.singleton closing) level []).toList =
        [opening, closing] := by
      simp [bracketed]
    rw [List.map_nil, text]
    refine ⟨⟨opening, [closing], rfl, start⟩, ?_⟩
    intro fuel offset rest enough _
    obtain ⟨fuel, rfl⟩ := Nat.exists_eq_succ_of_ne_zero (Nat.ne_zero_of_lt enough)
    exact ⟨offset + 2, none fuel offset rest⟩
  | cons a items =>
    obtain ⟨c, tail, head, dark', ends⟩ := (each [] a items rfl).head
    obtain ⟨long, inside⟩ := bracketed_cons opening closing level (items.map text) head dark'
    rw [← List.map_cons, List.map_map, Function.comp_def] at long inside
    refine ⟨?_, ?_⟩
    · obtain ⟨inner, -, -, same, -⟩ := inside [] 0
      rw [List.append_nil] at same
      exact ⟨opening, inner, same, start⟩
    · intro fuel offset rest enough _
      obtain ⟨fuel, rfl⟩ := Nat.exists_eq_succ_of_ne_zero (Nat.ne_zero_of_lt enough)
      obtain ⟨inner, more, o, same, blank, listed⟩ := inside rest offset
      obtain ⟨last, read⟩ := reader_listed (l := []) closing dark reader (List.cons_ne_nil a items) each fuel o rest (by
        exact Nat.lt_of_succ_lt_succ (Nat.lt_of_le_of_lt (Nat.le_of_add_right_le (k := 2) long) enough))
      rw [← listed] at read
      refine ⟨last, ?_⟩
      rw [same, opens fuel blank ends, read]
      rfl

end Lists

theorem setMember_of_not_mem {key : String} {before : List (String × Json)}
    (fresh : key ∉ before.map Prod.fst) (j : Json) : setMember key j before = before ++ [(key, j)] := by
  induction before with
  | nil => rfl
  | cons m before ih =>
    simp only [List.map_cons, List.mem_cons, not_or] at fresh
    rw [setMember, if_neg (Ne.symm fresh.1), ih fresh.2, List.cons_append]

/-- Reads the items of an array behind other ones. -/
def readItemsAfter (levels fuel : ℕ) (before : List Json) (p : Place) : Except Fault (List Json × Place) :=
  Except.map (Prod.map (before ++ ·) id) (readItems levels fuel p)

theorem readsItem_item {cs : List Char} (value : ReadsAs levels cs j) (before : List Json) :
    ReadsItem ']' (readItemsAfter levels) before cs j := by
  obtain ⟨c, tail, same, dark, bracket, -⟩ := value.head
  refine ⟨⟨c, tail, same, dark, bracket⟩, fun fuel offset rest enough follows => ?_⟩
  obtain ⟨o₁, read⟩ := value.read fuel offset rest enough follows
  refine ⟨o₁, fun tail o => ⟨fun last => ?_, fun more => ?_⟩⟩
  · simp only [readItemsAfter, readItems, read, bind, Except.bind, last]
    rfl
  · simp only [readItemsAfter, readItems, read, bind, Except.bind, more, skip_one]
    cases readItems levels fuel (⟨tail, o + 1⟩ : Place).blanks with
    | error fault => rfl
    | ok result =>
      obtain ⟨items, r⟩ := result
      simp [Except.map, pure, Except.pure]

theorem readsItem_member {m : String × Json} (whole : Whole m.1)
    (value : ReadsAs levels (writeAt level m.2).toList m.2) {before : List (String × Json)}
    (fresh : m.1 ∉ before.map Prod.fst) :
    ReadsItem '\x7d' (readMembers levels) before (writeMember level m).toList m := by
  refine ⟨?_, fun fuel offset rest enough follows => ?_⟩
  · obtain ⟨cs, -, quoted, -⟩ := readString_text whole 0 0 []
    exact ⟨'"', _, by rw [toList_writeMember, quoted, List.cons_append], rfl, by decide⟩
  generalize text : (writeAt level m.2).toList ++ rest = behind
  obtain ⟨cs, o₁, quoted, key⟩ := readString_text whole offset (offset + 1) (':' :: ' ' :: behind)
  have short : (writeAt level m.2).toList.length < fuel := by
    simp only [toList_writeMember, List.length_append, List.length_cons] at enough
    omega
  obtain ⟨o₂, read⟩ := value.read fuel (o₁ + 2) rest short follows
  rw [text] at read
  have visible : (⟨' ' :: behind, o₁ + 1⟩ : Place).blanks = ⟨behind, o₁ + 2⟩ := by
    obtain ⟨c, tail, same, dark, -⟩ := value.head
    have one : (' ' :: behind).takeWhile isSpace = [' '] := by
      rw [← text, same, List.takeWhile_cons_of_pos rfl, List.cons_append,
        List.takeWhile_cons_of_neg (by simp [dark])]
    rw [Place.blanks, one]
    rfl
  have colon : (⟨':' :: ' ' :: behind, o₁⟩ : Place).blanks = ⟨':' :: ' ' :: behind, o₁⟩ := rfl
  refine ⟨o₂, fun tail o => ?_⟩
  rw [toList_writeMember, quoted, List.append_assoc, List.cons_append, List.cons_append, List.cons_append,
    text]
  refine ⟨fun last => ?_, fun more => ?_⟩
  · simp only [readMembers, skip_one, key, bind, Except.bind, colon, visible, read, String.ofList_toList, last,
      setMember_of_not_mem fresh]
    rfl
  · simp only [readMembers, skip_one, key, bind, Except.bind, colon, visible, read, String.ofList_toList, more,
      setMember_of_not_mem fresh]

/-- Documents that are read back, with the number of levels they have at most: each of their scalars
and texts is, and no object has a key twice. -/
inductive Readable : ℕ → Json → Prop
  | null {n : ℕ} : Readable n .null
  | bool {n : ℕ} (b : Bool) : Readable n (.bool b)
  | int {n : ℕ} {i : Int} (short : i.natAbs < 10 ^ Number.digitLimit) : Readable n (.int i)
  | float {n : ℕ} {x : Float} (back : Json.read (Json.float x).write = .ok (.float x)) :
      Readable n (.float x)
  | text {n : ℕ} {s : String} (whole : Whole s) : Readable n (.text s)
  | array {n : ℕ} {items : List Json} (each : ∀ j ∈ items, Readable n j) :
      Readable (n + 1) (.array items)
  | object {n : ℕ} {members : List (String × Json)} (whole : ∀ m ∈ members, Whole m.1)
      (each : ∀ m ∈ members, Readable n m.2) (distinct : (members.map Prod.fst).Nodup) :
      Readable (n + 1) (.object members)

theorem readsAs_scalar (levels : ℕ) (inked : Number.Inked s)
    (back : readScalar ⟨s.toList, 0⟩ = .ok (j, p)) (all : p.rest = []) :
    ReadsAs levels s.toList j := by
  obtain ⟨c, tail, text⟩ : ∃ c tail, s.toList = c :: tail := by
    refine List.exists_cons_of_ne_nil fun none => ?_
    rw [none] at back
    cases back
  have ink := ink_head (inked c (text ▸ List.mem_cons_self))
  refine ⟨⟨c, tail, text, ink.1⟩, ?_⟩
  intro fuel offset rest enough follows
  obtain ⟨fuel, rfl⟩ := Nat.exists_eq_succ_of_ne_zero (Nat.ne_zero_of_lt enough)
  rw [readValue_scalar levels fuel (by rw [text]; rintro d ⟨⟩; exact ink.2)]
  exact readScalar_append back all follows offset

theorem readsAs_text (levels : ℕ) (whole : Whole s) :
    ReadsAs levels (writeText s).toList (.text s) := by
  refine ⟨?_, ?_⟩
  · obtain ⟨cs, -, quoted, -⟩ := readString_text whole 0 0 []
    exact ⟨'"', cs, quoted, rfl, by decide, by decide⟩
  · intro fuel offset rest enough _
    obtain ⟨fuel, rfl⟩ := Nat.exists_eq_succ_of_ne_zero (Nat.ne_zero_of_lt enough)
    obtain ⟨cs, o, quoted, read⟩ := readString_text whole offset (offset + 1) rest
    refine ⟨o, ?_⟩
    rw [quoted, List.cons_append]
    simp only [readValue, skip_one, read, bind, Except.bind, String.ofList_toList]
    rfl

theorem readsAs_array {items : List Json}
    (each : ∀ j ∈ items, ReadsAs levels (writeAt (level + 1) j).toList j) :
    ReadsAs (levels + 1) (writeAt level (.array items)).toList (.array items) := by
  rw [writeAt, writeItems_eq_map]
  refine readsAs_bracketed ']' rfl (readItemsAfter levels) '[' ⟨rfl, by decide, by decide⟩ ?_ (fun _ _ _ => rfl)
    fun fuel _ _ _ _ _ inner more => ?_
  · rintro done j more rfl
    exact readsItem_item (each j (by simp)) done
  · simp only [readValue, skip_one, inner, Nat.add_sub_cancel]
    rw [if_neg (Nat.succ_ne_zero levels)]
    split
    next same => exact absurd (List.cons.inj same).1 more
    next =>
      unfold readItemsAfter
      cases readItems levels fuel _ <;> rfl

theorem readsAs_object {members : List (String × Json)} (whole : ∀ m ∈ members, Whole m.1)
    (each : ∀ m ∈ members, ReadsAs levels (writeAt (level + 1) m.2).toList m.2)
    (distinct : (members.map Prod.fst).Nodup) :
    ReadsAs (levels + 1) (writeAt level (.object members)).toList (.object members) := by
  rw [writeAt, writeMembers_eq_map]
  refine readsAs_bracketed '\x7d' rfl (readMembers levels) '\x7b' ⟨rfl, by decide, by decide⟩ ?_ (fun _ _ _ => rfl)
    fun fuel _ _ _ _ _ inner more => ?_
  · rintro done m more rfl
    rw [List.map_append, List.map_cons] at distinct
    exact readsItem_member (whole m (by simp)) (each m (by simp)) fun member =>
      (List.nodup_append.mp distinct).2.2 _ member _ List.mem_cons_self rfl
  · simp only [readValue, skip_one, inner, Nat.add_sub_cancel]
    rw [if_neg (Nat.succ_ne_zero levels)]
    split
    next same => exact absurd (List.cons.inj same).1 more
    next => cases readMembers levels fuel [] _ <;> rfl

/-- Every part of a readable document is read back where it stands. -/
theorem Readable.readsAs (readable : Readable n j) (deep : n ≤ levels) (level : ℕ) :
    ReadsAs levels (writeAt level j).toList j := by
  induction readable generalizing levels level with
  | null =>
    rw [writeAt]
    exact readsAs_scalar levels (p := ⟨[], 4⟩) (Number.inked_of_all rfl) rfl rfl
  | bool b =>
    rw [writeAt]
    cases b with
    | false => exact readsAs_scalar levels (p := ⟨[], 5⟩) (Number.inked_of_all rfl) rfl rfl
    | true => exact readsAs_scalar levels (p := ⟨[], 4⟩) (Number.inked_of_all rfl) rfl rfl
  | @int n i short =>
    have back := readScalar_int i 0
    rw [if_pos short] at back
    exact readsAs_scalar levels (Number.inked_int i) back rfl
  | @float n x back =>
    obtain ⟨p, read, all⟩ := readScalar_of_read (inked_writeFloat x) back
    exact readsAs_scalar levels (inked_writeFloat x) read all
  | text whole => exact readsAs_text levels whole
  | array _ ih =>
    obtain ⟨levels, rfl⟩ := Nat.exists_eq_add_of_le' (Nat.le_trans (Nat.le_add_left 1 _) deep)
    exact readsAs_array fun j member => ih j member (Nat.le_of_succ_le_succ deep) (level + 1)
  | object whole _ distinct ih =>
    obtain ⟨levels, rfl⟩ := Nat.exists_eq_add_of_le' (Nat.le_trans (Nat.le_add_left 1 _) deep)
    exact readsAs_object whole (fun m member => ih m member (Nat.le_of_succ_le_succ deep) (level + 1)) distinct

/-- What is written is read back. -/
theorem read_write (readable : Readable n j) (deep : n ≤ levelLimit) : read j.write = .ok j := by
  obtain ⟨⟨c, tail, head, dark, -, mark⟩, value⟩ := readable.readsAs deep 0
  have start : (⟨j.write.toList, 0⟩ : Place).blanks = ⟨j.write.toList, 0⟩ := by
    refine blanks_of_head ?_
    rw [write, head]
    rintro d ⟨⟩
    exact dark
  obtain ⟨last, back⟩ := value (2 * j.write.length + 2) 0 [] (by
    rw [← write, String.length_toList]
    omega) (by rintro c ⟨⟩)
  rw [List.append_nil, ← write] at back
  simp only [read, start, back]
  rw [if_neg (by rw [write, head]; simpa using mark)]
  rfl

/-! ### Line ends -/

theorem not_mem_escapedPoint (n : ℕ) : '\r' ∉ escapedPoint n := by
  have hexadecimal (w n : ℕ) : '\r' ∉ hex w n := by
    intro member
    obtain ⟨d, small, same⟩ := digit_of_mem_hex member
    exact (by decide : ∀ d < 16, '\r' ≠ Nat.digitChar d) d small same
  have unit (n : ℕ) : '\r' ∉ unitEscape n := by
    simp [unitEscape, hexadecimal]
  simp only [escapedPoint]
  split
  next special => rcases special with quote | slash <;> simp_all
  next =>
    repeat' split
    all_goals simp_all [Ne.symm]

theorem not_mem_writeText (s : String) : '\r' ∉ (writeText s).toList := by
  simp [writeText, not_mem_escapedPoint]

theorem not_mem_of_inked (inked : Number.Inked s) : '\r' ∉ s.toList :=
  fun member => absurd (inked _ member) (by decide)

theorem not_mem_bracketed {opening closing : String} (left : '\r' ∉ opening.toList)
    (right : '\r' ∉ closing.toList) (level : ℕ) {items : List String}
    (each : ∀ t ∈ items, '\r' ∉ t.toList) : '\r' ∉ (bracketed opening closing level items).toList := by
  have line (level : ℕ) : '\r' ∉ (newLine level).toList := by
    simp [toList_newLine]
  have comma : '\r' ∉ ("," ++ newLine (level + 1)).toList := by
    simp [line]
  have between : '\r' ∉ (("," ++ newLine (level + 1)).intercalate items).toList := by
    rw [String.toList_intercalate]
    induction items with
    | nil => simp
    | cons t items ih =>
      obtain ⟨first, others⟩ := List.forall_mem_cons.mp each
      cases items with
      | nil => simpa using first
      | cons u items =>
        rw [List.map_cons, List.intercalate_cons_of_ne_nil (by simp)]
        simp only [List.mem_append, not_or]
        exact ⟨⟨first, comma⟩, ih others⟩
  rw [bracketed]
  split
  · simp [left, right]
  · simp only [String.toList_append, List.mem_append, not_or]
    exact ⟨⟨⟨⟨left, line _⟩, between⟩, line _⟩, right⟩

/-- A written document has no line end but line feeds. -/
theorem Readable.not_mem (readable : Readable n j) (level : ℕ) :
    '\r' ∉ (writeAt level j).toList := by
  induction readable generalizing level with
  | null => simp [writeAt]
  | bool b => cases b <;> simp [writeAt]
  | @int _ i _ => exact not_mem_of_inked (Number.inked_int i)
  | @float _ x _ => exact not_mem_of_inked (inked_writeFloat x)
  | @text _ s _ => exact not_mem_writeText s
  | array _ ih =>
    rw [writeAt, writeItems_eq_map]
    refine not_mem_bracketed (by simp) (by simp) level (List.forall_mem_map.mpr fun j member => ?_)
    exact ih j member (level + 1)
  | object _ _ _ ih =>
    rw [writeAt, writeMembers_eq_map]
    refine not_mem_bracketed (by simp) (by simp) level (List.forall_mem_map.mpr fun m member => ?_)
    rw [toList_writeMember]
    simp [not_mem_writeText, ih m member (level + 1)]

end Json

/-- A text without carriage returns is read as it was written. -/
theorem unixLines_eq_self {cs : List Char} (plain : '\r' ∉ cs) : unixLines cs = cs := by
  induction cs with
  | nil => rfl
  | cons c cs ih =>
    simp only [List.mem_cons, not_or] at plain
    rw [unixLines, ih plain.2]
    · rintro _ rfl
      exact absurd rfl plain.1
    · rintro rfl
      exact absurd rfl plain.1

end DeskScript
