import Mathlib

/-!
# The order of doubles

A clock that waits adds a double to another one. What is shown here is that it never runs backwards
by that: a sum with a positive summand is rounded, but not below the other summand, because that one
is a double itself. Comparison is an order on all doubles but the one that is not a number, and that
one stays what it is whatever is added to it.
-/

namespace DeskScript.Number

open Float.Model Float.Model.UnpackedFloat

/-! ### Comparison -/

/-- Where a double stands among the others: by its sign and by being finite, then by its exponent,
then by its mantissa. -/
def rank : UnpackedFloat → ℤ ×ₗ ℤ ×ₗ ℤ
  | .infinity .negative => toLex (-2, toLex (0, 0))
  | .finite .negative m e _ => toLex (-1, toLex (-e, -(m : ℤ)))
  | .zero _ | .notANumber => toLex (0, toLex (0, 0))
  | .finite .positive m e _ => toLex (1, toLex (e, (m : ℤ)))
  | .infinity .positive => toLex (2, toLex (0, 0))

theorem isLE_then (e f : ℤ) (m n : ℕ) :
    ((compare e f).then (compare m n)).isLE ↔ e < f ∨ e = f ∧ m ≤ n := by
  rw [Ordering.isLE_then_iff_or, Std.compare_eq_lt, Std.compare_eq_iff_eq, Nat.isLE_compare]

theorem isGE_then (e f : ℤ) (m n : ℕ) :
    ((compare e f).then (compare m n)).isGE ↔ f < e ∨ e = f ∧ n ≤ m := by
  rw [Ordering.isGE_iff_ne_lt, Ordering.then_eq_lt, Std.compare_eq_lt, Std.compare_eq_iff_eq,
    Std.compare_eq_lt]
  omega

theorem unpacked_le_iff (a b : UnpackedFloat) :
    a.le b ↔ a.isNaN = false ∧ b.isNaN = false ∧ rank a ≤ rank b := by
  rcases a with (_ | _) | _ | (_ | _) | ⟨_ | _, m, e, _⟩ <;>
    rcases b with (_ | _) | _ | (_ | _) | ⟨_ | _, n, f, _⟩ <;>
    simp [UnpackedFloat.le, UnpackedFloat.compare, rank, UnpackedFloat.isNaN,
      Prod.Lex.toLex_le_toLex, isLE_then, isGE_then]
  all_goals rfl

theorem unpacked_lt_iff (a b : UnpackedFloat) :
    a.lt b ↔ a.isNaN = false ∧ b.isNaN = false ∧ rank a < rank b := by
  rcases a with (_ | _) | _ | (_ | _) | ⟨_ | _, m, e, _⟩ <;>
    rcases b with (_ | _) | _ | (_ | _) | ⟨_ | _, n, f, _⟩ <;>
    simp [UnpackedFloat.lt, UnpackedFloat.compare, rank, UnpackedFloat.isNaN,
      Prod.Lex.toLex_lt_toLex, Ordering.then_eq_lt, Ordering.then_eq_gt, Std.compare_eq_lt,
      Std.compare_eq_gt]
  rfl

/-! ### Doubles taken apart -/

/-- A finite double has a full mantissa or the least exponent. -/
def Canonical : UnpackedFloat → Prop
  | .finite _ m e _ => m < 2 ^ 53 ∧ -1074 ≤ e ∧ e ≤ 971 ∧ (2 ^ 52 ≤ m ∨ e = -1074)
  | _ => True

theorem toNat_one_append (v : BitVec 52) : (1#1 ++ v).toNat = 2 ^ 52 + v.toNat := by
  rw [BitVec.toNat_append, ← Nat.shiftLeft_add_eq_or_of_lt v.isLt]
  simp [Nat.shiftLeft_eq]

theorem exponentBias_eq : (Format.binary64.exponentBias : ℤ) = 1023 := rfl

theorem canonical_unpack (b : BitVec Format.binary64.numBits) : Canonical (unpack .binary64 b) := by
  have mantissa : (unpackMantissa b).toNat < 2 ^ 52 := (unpackMantissa b).isLt
  have exponent : (unpackExponent b).toNat < 2048 := (unpackExponent b).isLt
  rw [UnpackedFloat.unpack]
  split
  · split <;> trivial
  · rename_i finite
    split
    · rename_i least
      split
      · trivial
      · have zero : (unpackExponent b).toNat = 0 := by rw [least]; rfl
        simp only [Canonical, exponentBias_eq, zero]
        omega
    · rename_i normal
      have some : (unpackExponent b).toNat ≠ 0 := fun none => normal (BitVec.eq_of_toNat_eq none)
      have notAll : (unpackExponent b).toNat ≠ 2047 :=
        fun all => finite (BitVec.eq_of_toNat_eq all)
      have full := toNat_one_append (unpackMantissa b)
      simp only [Canonical, exponentBias_eq, full]
      omega

theorem unpackSign_packComponents {s : Sign} {e : BitVec 11} {m : BitVec 52} :
    Sign.ofBitVec (unpackSign (packComponents .binary64 s e m)) = s := by
  simp only [unpackSign, packComponents, BitVec.extractLsb]
  rw [BitVec.extractLsb'_append_eq_of_le (by omega), BitVec.extractLsb'_append_eq_of_le (by omega)]
  cases s <;> rfl

/-- What is left of a rounded number once it is a double. -/
def doubleOf (x : UnpackedFloat) : UnpackedFloat := (Float.Model.pack x).unpack

theorem doubleOf_zero (s : Sign) : doubleOf (.zero s) = .zero s := by cases s <;> rfl

theorem doubleOf_infinity (s : Sign) : doubleOf (.infinity s) = .infinity s := by cases s <;> rfl

theorem doubleOf_notANumber : doubleOf .notANumber = .notANumber := rfl

/-- A rounded number is infinite as a double if its exponent is too large, and the same otherwise.
-/
theorem doubleOf_finite {s : Sign} {m : ℕ} {e : ℤ} (some : 0 < m) (below : m < 2 ^ 53)
    (least : -1074 ≤ e) (full : 2 ^ 52 ≤ m ∨ e = -1074) :
    doubleOf (.finite s m e some) = if e ≤ 971 then .finite s m e some else .infinity s := by
  change unpack .binary64 (UnpackedFloat.pack .binary64 (.finite s m e some)) = _
  have biased : (e + Format.binary64.exponentBias +
      Format.binary64.mantissaBitsWithoutImplicit).toNat = (e + 1075).toNat := by
    rw [exponentBias_eq]
    change (e + 1023 + 52).toNat = _
    omega
  rw [UnpackedFloat.pack]
  simp only [biased]
  by_cases fits : e ≤ 971
  · rw [if_neg (by omega), if_pos fits]
    by_cases normal : 2 ^ 52 ≤ m
    · have digits : m.log2 + 1 = Format.binary64.mantissaBits := by
        have lower := (Nat.le_log2 some.ne').mpr normal
        have upper := (Nat.log2_lt some.ne').mpr below
        change _ = 53
        omega
      have notAll : BitVec.ofNat 11 (e + 1075).toNat ≠ -1#11 := by
        intro same
        have := congrArg BitVec.toNat same
        simp only [BitVec.toNat_ofNat, BitVec.reduceNeg] at this
        omega
      have notNone : BitVec.ofNat 11 (e + 1075).toNat ≠ 0#11 := by
        intro same
        have := congrArg BitVec.toNat same
        simp only [BitVec.toNat_ofNat] at this
        omega
      have whole : (1#1 ++ BitVec.ofNat 52 m).toNat = m := by
        rw [toNat_one_append, BitVec.toNat_ofNat]
        omega
      rw [if_pos digits, UnpackedFloat.unpack]
      simp only [unpackMantissa_packComponents, unpackExponent_packComponents,
        unpackSign_packComponents, if_neg notAll, if_neg notNone, whole, exponentBias_eq,
        BitVec.toNat_ofNat]
      congr 1
      omega
    · have least : e = -1074 := full.resolve_left normal
      subst least
      have digits : m.log2 + 1 ≠ Format.binary64.mantissaBits := by
        have upper := (Nat.log2_lt some.ne').mpr (Nat.lt_of_not_le normal)
        change _ ≠ 53
        omega
      have whole : (BitVec.ofNat 52 m).toNat = m := by
        rw [BitVec.toNat_ofNat]
        omega
      have notNone : BitVec.ofNat 52 m ≠ 0#52 := by
        intro same
        rw [same] at whole
        exact some.ne whole
      rw [if_neg digits, UnpackedFloat.unpack]
      simp only [unpackMantissa_packComponents, unpackExponent_packComponents,
        unpackSign_packComponents, if_true, dif_neg notNone, whole, exponentBias_eq]
      rfl
  · rw [if_pos (by omega), if_neg fits]
    cases s <;> rfl

/-! ### Rounding -/

theorem mantissa_shift (em : ExtendedMantissa) (n : ℕ) :
    (em >>> n).mantissa = em.mantissa / 2 ^ n := by
  induction n with
  | zero => simp [HShiftRight.hShiftRight, Nat.repeat]
  | succ n ih =>
    change (ExtendedMantissa.shiftRightOne (em >>> n)).mantissa = _
    rw [ExtendedMantissa.shiftRightOne, ih, Nat.div_div_eq_div_mul, Nat.pow_succ]

theorem shift_exact {m n : ℕ} (divides : 2 ^ n ∣ m) :
    (⟨m, false, false⟩ : ExtendedMantissa) >>> n = ⟨m / 2 ^ n, false, false⟩ := by
  induction n with
  | zero => simp [HShiftRight.hShiftRight, Nat.repeat]
  | succ n ih =>
    obtain ⟨k, rfl⟩ := divides
    have before := ih ⟨2 * k, by rw [Nat.pow_succ, Nat.mul_assoc]⟩
    change ((⟨_, false, false⟩ : ExtendedMantissa) >>> n).shiftRightOne = _
    have half : 2 ^ (n + 1) * k / 2 ^ n = 2 * k := by
      rw [Nat.pow_succ, Nat.mul_assoc]
      exact Nat.mul_div_cancel_left _ (Nat.two_pow_pos n)
    rw [before, half, ExtendedMantissa.shiftRightOne, Nat.mul_div_cancel_left _ (Nat.two_pow_pos _)]
    simp

theorem roundedMantissa_bounds (em : ExtendedMantissa) :
    em.mantissa ≤ em.roundedMantissa ∧ em.roundedMantissa ≤ em.mantissa + 1 := by
  obtain ⟨m, round, sticky⟩ := em
  cases round <;> cases sticky <;>
    simp only [ExtendedMantissa.roundedMantissa, ExtendedMantissa.accuracy,
      Accuracy.roundToNearestEven] <;> omega

/-- A quotient is rounded to a whole number that has no whole number between itself and the
quotient. -/
theorem roundedMantissa_shift (m n : ℕ) :
    let q := ((⟨m, false, false⟩ : ExtendedMantissa) >>> n).roundedMantissa
    (∀ k, k * 2 ^ n ≤ m → k ≤ q) ∧ ∀ k, m ≤ k * 2 ^ n → q ≤ k := by
  intro q
  obtain ⟨lower, upper⟩ : m / 2 ^ n ≤ q ∧ q ≤ m / 2 ^ n + 1 := by
    have floor := mantissa_shift ⟨m, false, false⟩ n
    have bounds := roundedMantissa_bounds ((⟨m, false, false⟩ : ExtendedMantissa) >>> n)
    rwa [floor] at bounds
  refine ⟨fun k below => ?_, fun k above => ?_⟩
  · exact Nat.le_trans ((Nat.le_div_iff_mul_le (Nat.two_pow_pos n)).mpr below) lower
  · by_cases divides : 2 ^ n ∣ m
    · have exact : q = m / 2 ^ n := by
        simp only [q, shift_exact divides]
        rfl
      rw [exact]
      exact Nat.div_le_of_le_mul (by rwa [Nat.mul_comm])
    · have less : m / 2 ^ n < k := by
        apply (Nat.div_lt_iff_lt_mul (Nat.two_pow_pos n)).mpr
        refine Nat.lt_of_le_of_ne above ?_
        rintro rfl
        exact divides ⟨k, Nat.mul_comm _ _⟩
      omega

/-- The exponent that a number gets when it is rounded. -/
def roundedExponent (m : ℕ) (e : ℤ) : ℤ := max (m.log2 + 1 + e - 53) (-1074)

theorem targetExponent_eq (m : ℕ) (e : ℤ) :
    Format.binary64.targetExponent (totalExponent m e) = roundedExponent m e := rfl

/-- A rounded mantissa with its exponent. One that has got too long loses its last digit, which is
zero. -/
def settled (s : Sign) (q : ℕ) (t : ℤ) : UnpackedFloat :=
  if h : q = 0 then .zero s
  else if q < 2 ^ 53 then .finite s q t (Nat.pos_of_ne_zero h)
  else .finite s (2 ^ 52) (t + 1) (Nat.two_pow_pos 52)

theorem log2_mul_pow {m : ℕ} (some : 0 < m) (n : ℕ) : (m * 2 ^ n).log2 = m.log2 + n := by
  have whole : m * 2 ^ n ≠ 0 := (Nat.mul_pos some (Nat.two_pow_pos n)).ne'
  apply Nat.le_antisymm
  · have upper := Nat.mul_lt_mul_of_pos_right (Nat.lt_log2_self (n := m)) (Nat.two_pow_pos n)
    rw [← Nat.pow_add] at upper
    have := (Nat.log2_lt whole).mpr upper
    omega
  · have lower := Nat.mul_le_mul_right (2 ^ n) (Nat.log2_self_le some.ne')
    rw [← Nat.pow_add] at lower
    exact (Nat.le_log2 whole).mpr lower

/-- The second shift of rounding. -/
theorem settle (q : ℕ) {t : ℤ} (most : q ≤ 2 ^ 53) (least : -1074 ≤ t) :
    shiftToTargetExponent .binary64 q t .exact =
      if q < 2 ^ 53 then (⟨q, false, false⟩, t) else (⟨2 ^ 52, false, false⟩, t + 1) := by
  rw [shiftToTargetExponent, targetExponent_eq, shiftToExponent]
  by_cases small : q < 2 ^ 53
  · have digits : q.log2 ≤ 52 := by
      by_cases zero : q = 0
      · simp [zero]
      · have := (Nat.log2_lt zero).mpr small
        omega
    have none : (roundedExponent q t - t).toNat = 0 := by
      rw [roundedExponent]
      omega
    rw [if_pos small, none]
    simp [HShiftRight.hShiftRight, Nat.repeat, ExtendedMantissa.ofMantissaAndAccuracy]
  · obtain rfl : q = 2 ^ 53 := by omega
    have one : (roundedExponent (2 ^ 53) t - t).toNat = 1 := by
      rw [roundedExponent, Nat.log2_two_pow]
      omega
    rw [if_neg small, one]
    simp [HShiftRight.hShiftRight, Nat.repeat, ExtendedMantissa.ofMantissaAndAccuracy,
      ExtendedMantissa.shiftRightOne]

theorem roundWithAccuracy_eq (s : Sign) {m : ℕ} {e t : ℤ} {em : ExtendedMantissa}
    (first : shiftToTargetExponent .binary64 m e .exact = (em, t))
    (most : em.roundedMantissa ≤ 2 ^ 53) (least : -1074 ≤ t) :
    roundWithAccuracy .binary64 s m e .exact = settled s em.roundedMantissa t := by
  by_cases small : em.roundedMantissa < 2 ^ 53
  · simp only [roundWithAccuracy, first, settle _ most least, settled, if_pos small]
  · have some : em.roundedMantissa ≠ 0 := by omega
    simp only [roundWithAccuracy, first, settle _ most least, settled, if_neg small, dif_neg some]
    rfl

/-- Rounding a number, as arithmetic on whole numbers: the new mantissa is at least as large as
every whole number that the quotient reaches, and at most as large as every one that it does not
exceed. -/
theorem round_eq (s : Sign) {m : ℕ} (some : 0 < m) (e : ℤ) :
    ∃ q, round .binary64 s m e = settled s q (roundedExponent m e) ∧ q ≤ 2 ^ 53 ∧
      (∀ k, k * 2 ^ (roundedExponent m e - e).toNat ≤ m * 2 ^ (e - roundedExponent m e).toNat →
        k ≤ q) ∧
      ∀ k, m * 2 ^ (e - roundedExponent m e).toNat ≤ k * 2 ^ (roundedExponent m e - e).toNat →
        q ≤ k := by
  generalize target : roundedExponent m e = t
  have least : -1074 ≤ t := by
    rw [← target, roundedExponent]
    omega
  have same : roundedExponent (m * 2 ^ (e - t).toNat) (e - (e - t).toNat) = t := by
    rw [roundedExponent, log2_mul_pow some, ← target, roundedExponent]
    omega
  have shift : (t - (e - (e - t).toNat)).toNat = (t - e).toNat := by omega
  have first : shiftToTargetExponent .binary64 (m * 2 ^ (e - t).toNat) (e - (e - t).toNat) .exact =
      ((⟨m * 2 ^ (e - t).toNat, false, false⟩ : ExtendedMantissa) >>> (t - e).toNat, t) := by
    rw [shiftToTargetExponent, targetExponent_eq, same, shiftToExponent, shift]
    refine Prod.ext rfl ?_
    change e - (e - t).toNat + (t - e).toNat = t
    omega
  obtain ⟨lower, upper⟩ := roundedMantissa_shift (m * 2 ^ (e - t).toNat) (t - e).toNat
  have most := upper (2 ^ 53) (by
    have digits : m.log2 + (e - t).toNat + 1 ≤ 53 + (t - e).toNat := by
      rw [roundedExponent] at target
      omega
    have small : m * 2 ^ (e - t).toNat < 2 ^ (m.log2 + (e - t).toNat + 1) := by
      rw [← log2_mul_pow some]
      exact Nat.lt_log2_self
    rw [← Nat.pow_add]
    exact (Nat.lt_of_lt_of_le small (Nat.pow_le_pow_right Nat.two_pos digits)).le)
  refine ⟨_, ?_, most, lower, upper⟩
  simp only [UnpackedFloat.round, targetExponent_eq, target, decreaseExponent, Nat.shiftLeft_eq]
  exact roundWithAccuracy_eq s first most least

/-- A rounded mantissa is full unless the exponent is the least one. -/
theorem full_rounded {m q : ℕ} {e : ℤ} (some : 0 < m)
    (floor : ∀ k, k * 2 ^ (roundedExponent m e - e).toNat ≤
      m * 2 ^ (e - roundedExponent m e).toNat → k ≤ q) :
    2 ^ 52 ≤ q ∨ roundedExponent m e = -1074 := by
  by_cases least : roundedExponent m e = -1074
  · exact .inr least
  · refine .inl (floor _ ?_)
    have digits : 52 + (roundedExponent m e - e).toNat =
        m.log2 + (e - roundedExponent m e).toNat := by
      rw [roundedExponent] at least ⊢
      omega
    rw [← Nat.pow_add, digits, Nat.pow_add]
    exact Nat.mul_le_mul_right _ (Nat.log2_self_le some.ne')


/-! ### Sums -/

theorem doubleOf_canonical {x : UnpackedFloat} (canonical : Canonical x) : doubleOf x = x := by
  cases x with
  | infinity s => exact doubleOf_infinity s
  | zero s => exact doubleOf_zero s
  | notANumber => exact doubleOf_notANumber
  | finite s m e some =>
    obtain ⟨below, least, most, full⟩ := canonical
    rw [doubleOf_finite some below least full, if_pos most]

section Settled

variable {m n q : ℕ} {e f t : ℤ} {some : 0 < m} {other : 0 < n}

theorem le_positive (below : n < 2 ^ 53) (least : -1074 ≤ f) (full : 2 ^ 52 ≤ n ∨ f = -1074)
    (beyond : e < f ∨ e = f ∧ m ≤ n) :
    (UnpackedFloat.finite .positive m e some).le (doubleOf (.finite .positive n f other)) := by
  rw [doubleOf_finite other below least full]
  split
  · simp only [unpacked_le_iff, UnpackedFloat.isNaN, rank, Prod.Lex.toLex_le_toLex, true_and]
    omega
  · rfl

theorem le_negative (below : n < 2 ^ 53) (least : -1074 ≤ f) (full : 2 ^ 52 ≤ n ∨ f = -1074)
    (most : e ≤ 971) (within : f < e ∨ e = f ∧ n ≤ m) :
    (UnpackedFloat.finite .negative m e some).le (doubleOf (.finite .negative n f other)) := by
  rw [doubleOf_finite other below least full, if_pos (by omega)]
  simp only [unpacked_le_iff, UnpackedFloat.isNaN, rank, Prod.Lex.toLex_le_toLex, true_and]
  omega

theorem le_settled_positive (small : q ≤ 2 ^ 53) (least : -1074 ≤ t)
    (full : 2 ^ 52 ≤ q ∨ t = -1074) (beyond : e < t ∨ e = t ∧ m ≤ q) (normal : -1074 ≤ e) :
    (UnpackedFloat.finite .positive m e some).le (doubleOf (settled .positive q t)) := by
  have nonzero : q ≠ 0 := by omega
  rw [settled, dif_neg nonzero]
  split
  · exact le_positive (by omega) least full beyond
  · exact le_positive (by omega) (by omega) (by omega) (by omega)

theorem le_settled_negative (small : q ≤ 2 ^ 53) (least : -1074 ≤ t)
    (full : 2 ^ 52 ≤ q ∨ t = -1074) (canonical : Canonical (.finite .negative m e some))
    (within : t < e ∨ e = t ∧ q ≤ m) :
    (UnpackedFloat.finite .negative m e some).le (doubleOf (settled .negative q t)) := by
  obtain ⟨below, -, most, normal⟩ := canonical
  rw [settled]
  split
  · rw [doubleOf_zero]
    rfl
  · split
    · exact le_negative (by omega) least full most within
    · exact le_negative (by omega) (by omega) (by omega) most (by omega)

end Settled

/-- Rounding does not go below a double that the number is not below. -/
theorem le_round_positive {m n : ℕ} {e f : ℤ} {some : 0 < m}
    (canonical : Canonical (.finite .positive m e some)) (finer : f ≤ e)
    (above : m * 2 ^ (e - f).toNat ≤ n) :
    (UnpackedFloat.finite .positive m e some).le (doubleOf (round .binary64 .positive n f)) := by
  obtain ⟨below, least, most, full⟩ := canonical
  have other : 0 < n := Nat.lt_of_lt_of_le (Nat.mul_pos some (Nat.two_pow_pos _)) above
  obtain ⟨q, rounded, small, floor, -⟩ := round_eq .positive other f
  have exponent : e ≤ roundedExponent n f := by
    rw [roundedExponent]
    rcases full with full | rfl
    · have digits : 52 + (e - f).toNat ≤ n.log2 := by
        apply (Nat.le_log2 other.ne').mpr
        rw [Nat.pow_add]
        exact Nat.le_trans (Nat.mul_le_mul_right _ full) above
      omega
    · omega
  have whole := full_rounded other floor
  rw [rounded]
  refine le_settled_positive small (by rw [roundedExponent]; omega) whole ?_ least
  rcases Int.lt_or_eq_of_le exponent with less | same
  · exact .inl less
  · refine .inr ⟨same, floor m ?_⟩
    rw [← same, Int.toNat_eq_zero.mpr (by omega : f - e ≤ 0), Nat.pow_zero, Nat.mul_one]
    exact above

/-- Nor does it go beyond one below zero. -/
theorem le_round_negative {m n : ℕ} {e f : ℤ} {some : 0 < m}
    (canonical : Canonical (.finite .negative m e some)) (finer : f ≤ e) (other : 0 < n)
    (within : n ≤ m * 2 ^ (e - f).toNat) :
    (UnpackedFloat.finite .negative m e some).le (doubleOf (round .binary64 .negative n f)) := by
  obtain ⟨below, least, most, full⟩ := id canonical
  obtain ⟨q, rounded, small, floor, ceiling⟩ := round_eq .negative other f
  have exponent : roundedExponent n f ≤ e := by
    have digits : n.log2 < 53 + (e - f).toNat := by
      apply (Nat.log2_lt other.ne').mpr
      rw [Nat.pow_add]
      exact Nat.lt_of_le_of_lt within (Nat.mul_lt_mul_of_pos_right below (Nat.two_pow_pos _))
    rw [roundedExponent]
    omega
  have whole := full_rounded other floor
  rw [rounded]
  refine le_settled_negative small (by rw [roundedExponent]; omega) whole canonical ?_
  rcases Int.lt_or_eq_of_le exponent with less | same
  · exact .inl less
  · refine .inr ⟨same.symm, ceiling m ?_⟩
    rw [same, Int.toNat_eq_zero.mpr (by omega : f - e ≤ 0), Nat.pow_zero, Nat.mul_one]
    exact within

theorem zero_le_round {n : ℕ} (other : 0 < n) (f : ℤ) :
    (UnpackedFloat.zero .positive).le (doubleOf (round .binary64 .positive n f)) := by
  obtain ⟨q, rounded, small, floor, -⟩ := round_eq .positive other f
  have whole := full_rounded other floor
  have least : -1074 ≤ roundedExponent n f := by
    rw [roundedExponent]
    omega
  rw [rounded, settled]
  split
  · rw [doubleOf_zero]
    rfl
  · split
    · rw [doubleOf_finite _ (by omega) least whole]
      split <;> rfl
    · rw [doubleOf_finite _ (by omega) (by omega) (by omega)]
      split <;> rfl

theorem add_finite {s : Sign} {m n : ℕ} {e f : ℤ} (some : 0 < m) (other : 0 < n) :
    add .binary64 (.finite s m e some) (.finite .positive n f other) =
      UnpackedFloat.normalize .binary64 (s.apply (m * 2 ^ (e - min e f).toNat : ℕ) +
        (n * 2 ^ (f - min e f).toNat : ℕ)) (min e f) .positive := by
  simp only [UnpackedFloat.add, decreaseExponent, Nat.shiftLeft_eq, Sign.apply]

/-- A sum with a positive summand is not below the other one. -/
theorem le_add_positive {x : UnpackedFloat} (number : x.isNaN = false) (canonical : Canonical x)
    {n : ℕ} {f : ℤ} {other : 0 < n} (positive : Canonical (.finite .positive n f other)) :
    x.le (doubleOf (add .binary64 x (.finite .positive n f other))) := by
  cases x with
  | notANumber => cases number
  | infinity s =>
    change (UnpackedFloat.infinity s).le (doubleOf (.infinity s))
    rw [doubleOf_infinity]
    cases s <;> rfl
  | zero s =>
    change (zero s).le (doubleOf (finite .positive n f other))
    rw [doubleOf_canonical positive]
    rfl
  | finite s m e some =>
    have added : 0 < n * 2 ^ (f - min e f).toNat := Nat.mul_pos other (Nat.two_pow_pos _)
    have finer : min e f ≤ e := min_le_left e f
    rw [add_finite some other]
    generalize n * 2 ^ (f - min e f).toNat = b at added
    generalize size : m * 2 ^ (e - min e f).toNat = a
    cases s with
    | positive =>
      have sum : compare (Sign.positive.apply (a : ℤ) + (b : ℤ)) 0 = .gt := by
        rw [Std.compare_eq_gt, Sign.apply]
        omega
      rw [UnpackedFloat.normalize, sum]
      refine le_round_positive canonical finer ?_
      rw [size, Sign.apply]
      omega
    | negative =>
      rw [UnpackedFloat.normalize]
      split
      · rename_i less
        rw [Std.compare_eq_lt, Sign.apply] at less
        refine le_round_negative canonical finer ?_ ?_
        · rw [Sign.apply]
          omega
        · rw [size, Sign.apply]
          omega
      · rw [doubleOf_zero]
        rfl
      · rename_i more
        rw [Std.compare_eq_gt, Sign.apply] at more
        have nonnegative := zero_le_round (n := (Sign.negative.apply (a : ℤ) + (b : ℤ)).toNat)
          (by rw [Sign.apply]; omega) (min e f)
        rw [unpacked_le_iff] at nonnegative ⊢
        exact ⟨rfl, nonnegative.2.1,
          le_trans (by simp [rank, Prod.Lex.toLex_le_toLex]) nonnegative.2.2⟩

/-! ### The clock -/

theorem le_iff (x y : Float) :
    x ≤ y ↔ x.toModel.unpack.isNaN = false ∧ y.toModel.unpack.isNaN = false ∧
      rank x.toModel.unpack ≤ rank y.toModel.unpack := by
  rw [← unpacked_le_iff]
  change decide (x.toModel ≤ y.toModel) = true ↔ _
  rw [decide_eq_true_iff]
  rfl

theorem lt_iff (x y : Float) :
    x < y ↔ x.toModel.unpack.isNaN = false ∧ y.toModel.unpack.isNaN = false ∧
      rank x.toModel.unpack < rank y.toModel.unpack := by
  rw [← unpacked_lt_iff]
  change decide (x.toModel < y.toModel) = true ↔ _
  rw [decide_eq_true_iff]
  rfl

/-- One time is not before another. A clock that does not show a number goes on not showing one. -/
def Onward (s t : Float) : Prop := s ≤ t ∨ ¬ s ≤ s ∧ ¬ t ≤ t

theorem Onward.refl (s : Float) : Onward s s := by
  by_cases number : s ≤ s
  · exact .inl number
  · exact .inr ⟨number, number⟩

theorem Onward.trans {s t u : Float} (first : Onward s t) (second : Onward t u) : Onward s u := by
  simp only [Onward, le_iff] at *
  rcases first with ⟨hs, ht, below⟩ | ⟨hs, ht⟩ <;> rcases second with ⟨ht', hu, above⟩ | ⟨ht', hu⟩
  · exact .inl ⟨hs, hu, below.trans above⟩
  · simp [ht] at ht'
  · simp [ht'] at ht
  · exact .inr ⟨hs, hu⟩

theorem Onward.of_lt {s t : Float} (less : s < t) : Onward s t := by
  rw [lt_iff] at less
  rw [Onward, le_iff]
  exact .inl ⟨less.1, less.2.1, less.2.2.le⟩

theorem Onward.not_lt {s t : Float} (onward : Onward s t) : ¬ t < s := by
  simp only [Onward, le_iff] at onward
  rw [lt_iff]
  rintro ⟨ht, hs, less⟩
  rcases onward with ⟨-, -, most⟩ | ⟨none, -⟩
  · exact not_lt_of_ge most less
  · simp [hs] at none

theorem canonical_toModel (x : Float) : Canonical x.toModel.unpack := canonical_unpack _

theorem Onward.of_le_unpacked {s t : Float}
    (le : s.toModel.unpack.isNaN = false → s.toModel.unpack.le t.toModel.unpack)
    (nan : s.toModel.unpack.isNaN = true → t.toModel.unpack.isNaN = true) : Onward s t := by
  simp only [Onward, le_iff]
  cases number : s.toModel.unpack.isNaN with
  | false =>
    have := (unpacked_le_iff _ _).mp (le number)
    exact .inl ⟨rfl, this.2⟩
  | true => simp [nan number]

/-- A positive finite double taken apart. -/
theorem exists_of_positive {t : Float} (positive : 0 < t) (finite : t.isFinite) :
    ∃ n f some, t.toModel.unpack = .finite .positive n f some := by
  have zero : (0 : Float).toModel.unpack = .zero .positive := rfl
  rw [lt_iff, zero] at positive
  obtain ⟨-, -, above⟩ := positive
  change t.toModel.unpack.isFinite = true at finite
  generalize t.toModel.unpack = x at *
  rcases x with (_ | _) | _ | (_ | _) | ⟨_ | _, n, f, some⟩
  · cases finite
  · cases finite
  · cases finite
  · exact absurd above (lt_irrefl _)
  · exact absurd above (lt_irrefl _)
  · simp [rank, Prod.Lex.toLex_lt_toLex] at above
  · exact ⟨n, f, some, rfl⟩

/-- Adding a positive time does not take a clock back. -/
theorem Onward.add (s : Float) {t : Float} (positive : 0 < t) (finite : t.isFinite) :
    Onward s (s + t) := by
  have sum : (s + t).toModel.unpack =
      doubleOf (UnpackedFloat.add .binary64 s.toModel.unpack t.toModel.unpack) := rfl
  obtain ⟨n, f, some, apart⟩ := exists_of_positive positive finite
  have canonical := canonical_toModel t
  rw [apart] at sum canonical
  apply Onward.of_le_unpacked
  · intro number
    rw [sum]
    exact le_add_positive number (canonical_toModel s) canonical
  · intro nan
    rw [sum]
    cases apart' : s.toModel.unpack with
    | notANumber =>
      change (doubleOf notANumber).isNaN = true
      rw [doubleOf_notANumber]
      rfl
    | _ => simp [apart', UnpackedFloat.isNaN] at nan

end DeskScript.Number
