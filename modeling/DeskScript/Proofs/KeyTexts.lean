import DeskScript.Proofs.Endings
import DeskScript.Recording.Playback
import Mathlib.Tactic.Common

/-!
# The texts of keys

A key is recorded as a text, and a recorded text is read as a key. A key with a name is read back,
and so is one that types a character which is shown as it is. Of every other character the text has
an escape or double quotes, and these are not undone: what is read is longer than one character,
and no key types that. Different keys have different texts all the same.
-/

namespace DeskScript

variable {n w : ℕ} {k : Key}

namespace Text

/-! ### Single code points -/

/-- Whether a code point stands for itself between single quotes. -/
def isShown (n : ℕ) : Bool := !isHalf n && isPrintable (Char.ofNat n) && n != 39 && n != 92

theorem toNat_ofNat (valid : n < 0xd800 ∨ 0xdfff < n ∧ n < 0x110000) :
    (Char.ofNat n).toNat = n := by
  rw [Char.ofNat, dif_pos valid]
  rfl

theorem points_single (point : n < 0x110000) : points (single n) = [n] := by
  simp only [points, single, String.toList_ofList, ofPoint]
  split
  · rename_i half
    simp only [isHalf, Bool.and_eq_true, decide_eq_true_eq] at half
    have number : (Char.ofNat (halfPlane + n)).toNat = halfPlane + n :=
      toNat_ofNat (by simp only [halfPlane]; omega)
    have place : isHalfPlace (halfPlane + n) = true := by
      simp [isHalfPlace, isHalf, half, halfPlane]
    simp [pointsOf, plainPoint, number, place]
  · rename_i whole
    simp only [isHalf, Bool.and_eq_true, decide_eq_true_eq] at whole
    have number : (Char.ofNat n).toNat = n := toNat_ofNat (by omega)
    split
    · rename_i place
      simp [pointsOf, markedPoint, number, place]
    · rename_i place
      split
      · rename_i last
        subst last
        decide
      · simp [pointsOf, plainPoint, number, place]

theorem isHalf_iff (n : ℕ) : isHalf n = true ↔ 0xd800 ≤ n ∧ n < 0xe000 := by
  rw [isHalf, Bool.and_eq_true, decide_eq_true_eq, decide_eq_true_eq]

theorem isHalfPlace_iff (n : ℕ) : isHalfPlace n = true ↔ 0xdd800 ≤ n ∧ n < 0xde000 := by
  rw [isHalfPlace, Bool.and_eq_true, decide_eq_true_eq, isHalf_iff, halfPlane]
  omega

theorem not_printable {n : ℕ} {range : ℕ × ℕ} (listed : range ∈ unprintableRanges)
    (large : 0xe000 ≤ n) (valid : n < 0x110000) (inside : range.1 ≤ n ∧ n ≤ range.2) :
    isPrintable (Char.ofNat n) = false := by
  have number : (Char.ofNat n).toNat = n := toNat_ofNat (by omega)
  rw [isPrintable, number, if_neg (by omega), Bool.not_eq_false', inRanges, List.any_eq_true]
  exact ⟨range, listed, by simpa using inside⟩

theorem mark_not_printable : isPrintable mark = false :=
  @not_printable lastPoint (0xe01f0, 0x10ffff) (List.mem_append_right _ (by decide)) (by decide)
    (by decide) ⟨by decide, by decide⟩

/-- What is shown as it is, in other words. -/
theorem isShown_iff (n : ℕ) : isShown n = true ↔
    ¬ isHalf n = true ∧ isPrintable (Char.ofNat n) = true ∧ n ≠ 39 ∧ n ≠ 92 := by
  simp [isShown, and_assoc]

theorem toNat_of_shown (shown : isShown n = true) : (Char.ofNat n).toNat = n := by
  obtain ⟨whole, printable, -⟩ := (isShown_iff n).mp shown
  rw [isHalf_iff] at whole
  by_cases valid : n < 0x110000
  · exact toNat_ofNat (by omega)
  · have none : Char.ofNat n = Char.ofNat 0 := by
      rw [Char.ofNat, dif_neg (by simp only [Nat.isValidChar]; omega)]
      rfl
    rw [none] at printable
    cases printable

theorem ofPoint_shown (shown : isShown n = true) : ofPoint n = [Char.ofNat n] := by
  obtain ⟨whole, printable, -⟩ := (isShown_iff n).mp shown
  have place : ¬ isHalfPlace n = true := by
    rw [isHalfPlace_iff]
    rintro ⟨low, high⟩
    have hidden := @not_printable n (0x3134b, 0xe00ff) (List.mem_append_right _ (by decide)) (by omega)
      (by omega) ⟨by omega, by omega⟩
    rw [printable] at hidden
    cases hidden
  have last : n ≠ lastPoint := by
    rintro rfl
    cases printable.symm.trans mark_not_printable
  rw [ofPoint, if_neg whole, if_neg place, if_neg last]

theorem quotedPoint_shown (shown : isShown n = true) : quotedPoint '\'' n = [Char.ofNat n] := by
  have number := toNat_of_shown shown
  obtain ⟨whole, printable, single, back⟩ := (isShown_iff n).mp shown
  have other {c : Char} (different : n ≠ c.toNat) : Char.ofNat n ≠ c := by
    rintro rfl
    exact different number.symm
  have visible {c : Char} (hidden : isPrintable c = false) : Char.ofNat n ≠ c := by
    rintro rfl
    rw [printable] at hidden
    cases hidden
  rw [quotedPoint, if_neg whole, if_neg (not_or.mpr ⟨@other '\'' single, @other '\\' back⟩),
    if_neg (visible (by decide)), if_neg (visible (by decide)), if_neg (visible (by decide)),
    if_pos printable]

/-! ### Escapes -/

/-- What hexadecimal digits consist of. -/
theorem digit_of_mem_hex {c : Char} (member : c ∈ hex w n) : ∃ d < 16, c = Nat.digitChar d := by
  rcases List.mem_append.mp member with zero | digit
  · exact ⟨0, by decide, (List.mem_replicate.mp zero).2⟩
  · clear member
    induction n using Nat.strongRecOn with
    | ind n ih =>
      rw [Nat.toDigits_eq_if (by decide)] at digit
      split at digit
      next small => exact ⟨n, small, List.mem_singleton.mp digit⟩
      next =>
        rcases List.mem_append.mp digit with high | low
        · exact ih (n / 16) (by omega) high
        · exact ⟨n % 16, Nat.mod_lt _ (by decide), List.mem_singleton.mp low⟩

theorem ascii_hex (w n : ℕ) : ∀ c ∈ hex w n, c.toNat < 128 := by
  intro c member
  obtain ⟨d, small, rfl⟩ := digit_of_mem_hex member
  exact (by decide : ∀ d < 16, (Nat.digitChar d).toNat < 128) d small

/-- The number that hexadecimal digits stand for. -/
def hexNumber (digits : List Char) : ℕ := digits.foldl (fun n c => n * 16 + hexValue c) 0

theorem hexValue_digitChar : ∀ d < 16, hexValue (Nat.digitChar d) = d := by decide

theorem hexNumber_toDigits (n : ℕ) : hexNumber (Nat.toDigits 16 n) = n := by
  induction n using Nat.strongRecOn with
  | ind n ih =>
    rw [Nat.toDigits_eq_if (by decide)]
    split
    · rename_i small
      simp [hexNumber, hexValue_digitChar n small]
    · have high := ih (n / 16) (by omega)
      rw [hexNumber] at high ⊢
      rw [List.foldl_append, high]
      simp only [List.foldl_cons, List.foldl_nil, hexValue_digitChar (n % 16) (by omega)]
      omega

theorem hexNumber_hex (w n : ℕ) : hexNumber (hex w n) = n := by
  have zeros (k : ℕ) : (List.replicate k '0').foldl (fun n c => n * 16 + hexValue c) 0 = 0 := by
    induction k with
    | zero => rfl
    | succ k ih => exact ih
  rw [hexNumber, hex, List.foldl_append, zeros]
  exact hexNumber_toDigits n

theorem two_le_hex (wide : 2 ≤ w) (n : ℕ) : 2 ≤ (hex w n).length := by
  simp only [hex, List.length_append, List.length_replicate]
  omega

/-- The code point that a part of a quoted text stands for. -/
def readPoint : List Char → ℕ
  | [] => 0
  | [c] => c.toNat
  | [_, c] => if c = 'n' then 10 else if c = 'r' then 13 else if c = 't' then 9 else c.toNat
  | _ :: _ :: digits => hexNumber digits

theorem readPoint_hex {letter : Char} (wide : 2 ≤ w) (n : ℕ) :
    readPoint ('\\' :: letter :: hex w n) = n := by
  have long := two_le_hex wide n
  have number := hexNumber_hex w n
  cases same : hex w n with
  | nil => simp [same] at long
  | cons d rest =>
    rw [same] at number
    rw [readPoint]
    · exact number
    all_goals simp

theorem readPoint_numberEscape (n : ℕ) : readPoint (numberEscape n) = n := by
  rw [numberEscape]
  split
  · exact readPoint_hex (by decide) n
  · split
    · exact readPoint_hex (by decide) n
    · exact readPoint_hex (by decide) n

theorem ascii_numberEscape (n : ℕ) : ∀ c ∈ numberEscape n, c.toNat < 128 := by
  have escape (letter : Char) (small : letter.toNat < 128) (w : ℕ) :
      ∀ c ∈ '\\' :: letter :: hex w n, c.toNat < 128 := by
    refine List.forall_mem_cons.mpr ⟨by decide, List.forall_mem_cons.mpr ⟨small, ascii_hex w n⟩⟩
  rw [numberEscape]
  split
  · exact escape 'x' (by decide) 2
  · split
    · exact escape 'u' (by decide) 4
    · exact escape 'U' (by decide) 8

theorem two_le_numberEscape (n : ℕ) : 2 ≤ (numberEscape n).length := by
  rw [numberEscape]
  split
  · simp
  · split <;> simp

/-- A code point that is not shown as it is has an escape: at least two characters, which are plain,
and from which it can be told. -/
theorem quotedPoint_hidden (point : n < 0x110000) (hidden : isShown n = false) (other : n ≠ 39) :
    2 ≤ (quotedPoint '\'' n).length ∧ (∀ c ∈ quotedPoint '\'' n, c.toNat < 128) ∧
      readPoint (quotedPoint '\'' n) = n := by
  have number : ¬ isHalf n = true → (Char.ofNat n).toNat = n := by
    rw [isHalf_iff]
    exact fun whole => toNat_ofNat (by omega)
  simp only [quotedPoint]
  split
  · exact ⟨two_le_numberEscape n, ascii_numberEscape n, readPoint_numberEscape n⟩
  · rename_i whole
    have number := number whole
    split
    · rename_i special
      rcases special with single | back
      · rw [single] at number
        exact absurd number.symm other
      · rw [back] at number ⊢
        exact ⟨by decide, by simp, number⟩
    · split
      · rename_i feed
        rw [feed] at number
        exact ⟨by decide, by simp, number⟩
      · split
        · rename_i back
          rw [back] at number
          exact ⟨by decide, by simp, number⟩
        · split
          · rename_i tab
            rw [tab] at number
            exact ⟨by decide, by simp, number⟩
          · split
            · rename_i plain _ _ _ printable
              refine absurd ((isShown_iff n).mpr ⟨whole, printable, other, ?_⟩) (by simp [hidden])
              rintro rfl
              exact plain (.inr rfl)
            · exact ⟨two_le_numberEscape n, ascii_numberEscape n, readPoint_numberEscape n⟩

theorem readPoint_quotedPoint (point : n < 0x110000) (other : n ≠ 39) :
    readPoint (quotedPoint '\'' n) = n := by
  cases shown : isShown n with
  | true =>
    rw [quotedPoint_shown shown, readPoint]
    exact toNat_of_shown shown
  | false => exact (quotedPoint_hidden point shown other).2.2

theorem quoteFor_single (point : n < 0x110000) :
    quoteFor (single n).toList = if n = 39 then '"' else '\'' := by
  split
  · rename_i quote
    subst quote
    decide
  · rename_i other
    have different {m : ℕ} (number : (Char.ofNat m).toNat = m) (distinct : m ≠ 39) :
        '\'' ≠ Char.ofNat m := by
      intro same
      rw [← same] at number
      exact distinct number.symm
    have absent : '\'' ∉ ofPoint n := by
      rw [ofPoint]
      split
      · rename_i half
        rw [isHalf_iff] at half
        have number : (Char.ofNat (halfPlane + n)).toNat = halfPlane + n :=
          toNat_ofNat (by rw [halfPlane]; omega)
        simpa using different number (by rw [halfPlane]; omega)
      · rename_i whole
        rw [isHalf_iff] at whole
        have here := different (toNat_ofNat (by omega)) other
        have behind : '\'' ≠ mark := by decide
        split
        · simp [here, behind]
        · split
          · have standIn : '\'' ≠ standIn := by decide
            simp [behind, standIn]
          · simpa using here
    rw [quoteFor, single, String.toList_ofList, if_neg (fun both => absent both.1)]

theorem length_ofList {cs : List Char} (unmarked : mark ∉ cs) :
    length (String.ofList cs) = cs.length := by
  rw [length]
  split
  · simp
  · rw [width, String.toList_ofList, List.countP_eq_length]
    intro c member
    rw [decide_eq_true_eq]
    rintro rfl
    exact unmarked member

theorem mark_of_ascii {cs : List Char} (ascii : ∀ c ∈ cs, c.toNat < 128) : mark ∉ cs :=
  fun member => absurd (ascii mark member) (by decide)

/-- A code point is held by one character, or behind a mark. -/
theorem ofPoint_cases (n : ℕ) : (ofPoint n).length = 1 ∨ mark ∈ ofPoint n := by
  rw [ofPoint]
  split
  · exact .inl rfl
  · split
    · exact .inr List.mem_cons_self
    · split
      · exact .inr List.mem_cons_self
      · exact .inl rfl

theorem quoted_single (point : n < 0x110000) (other : n ≠ 39) :
    quoted (single n) = String.ofList ('\'' :: quotedPoint '\'' n ++ ['\'']) := by
  simp only [quoted, quoteFor_single point, if_neg other, points_single point,
    List.flatMap_singleton]

theorem quoted_quote : quoted (single 39) = "\"'\"" := by decide

end Text

/-! ### Keys -/

namespace Key

/-- A key that a keyboard has: one with a name, or one that types a code point. -/
inductive Real : Key → Prop
  | special {name : String} (known : name ∈ names) : Real (.special name)
  | typed {n : ℕ} (point : n < 0x110000) : Real (.typed (Text.single n))

/-- A key whose text shows it as it is: one with a name, or one that types a code point which is not
escaped and not in double quotes. -/
inductive Shown : Key → Prop
  | special {name : String} (known : name ∈ names) : Shown (.special name)
  | typed {n : ℕ} (point : n < 0x110000) (shown : Text.isShown n = true) :
      Shown (.typed (Text.single n))

theorem ofText?_special : ∀ name ∈ names, ofText? (special name).text = some (.special name) := by
  decide +kernel

theorem ofText?_quotes (inside : List Char) :
    ofText? (String.ofList ('\'' :: inside ++ ['\''])) = some (.typed (String.ofList inside)) := by
  have unmarked : mark.toList.isPrefixOf ('\'' :: inside ++ ['\'']) = false := rfl
  have closed : ('\'' :: inside ++ ['\'']).getLast? = some '\'' := List.getLast?_concat
  simp only [ofText?, String.toList_ofList, unmarked]
  rw [if_neg Bool.false_ne_true, if_pos ⟨rfl, closed⟩]
  simp

/-- What is read for a key that types a code point. -/
theorem ofText?_typed (point : n < 0x110000) :
    ofText? (typed (Text.single n)).text = some (.typed (if n = 39 then "\"'\"" else
      String.ofList (Text.quotedPoint '\'' n))) := by
  split
  · rename_i quote
    subst quote
    rw [text, Text.quoted_quote]
    decide
  · rename_i other
    rw [text, Text.quoted_single point other, ofText?_quotes]

/-- No two keys have the same text. -/
theorem text_injective {l : Key} (real : k.Real) (real' : l.Real) (same : k.text = l.text) :
    k = l := by
  cases real with
  | @special name known =>
    have read := ofText?_special name known
    cases real' with
    | special known' =>
      rw [same, ofText?_special _ known'] at read
      exact (Option.some.inj read).symm
    | typed point =>
      rw [same, ofText?_typed point] at read
      cases Option.some.inj read
  | @typed n point =>
    have read := ofText?_typed point
    cases real' with
    | special known =>
      rw [same, ofText?_special _ known] at read
      cases Option.some.inj read
    | @typed m point' =>
      have opening {n m : ℕ} (quote : n = 39) (other : m ≠ 39) (point : m < 0x110000) :
          (typed (Text.single n)).text ≠ (typed (Text.single m)).text := by
        intro same
        rw [quote, text, text, Text.quoted_quote, Text.quoted_single point other] at same
        have first := congrArg (·.toList.head?) same
        simp only [String.toList_ofList] at first
        exact absurd first (by decide : "\"'\"".toList.head? ≠ some '\'')
      by_cases quote : n = 39 <;> by_cases quote' : m = 39
      · rw [quote, quote']
      · exact absurd same (opening quote quote' point')
      · exact absurd same.symm (opening quote' quote point)
      · rw [same, ofText?_typed point', if_neg quote, if_neg quote'] at read
        have inside := String.ofList_injective (Key.typed.inj (Option.some.inj read))
        have number := congrArg Text.readPoint inside
        rw [Text.readPoint_quotedPoint point' quote', Text.readPoint_quotedPoint point quote]
          at number
        rw [number]

end Key

namespace Recording

/-- A recorded key event does what the key that is read from its text does. -/
theorem perform_keyEvent {time : Float} {key : Key} (down : Bool)
    (read : recordedKey? (.text k.text) = some key) :
    perform (Recorder.keyEvent time k down) = Keyboard.send key down := by
  cases down <;> simp [perform, perform.performKey, Recorder.keyEvent, RecordedEvent.place?,
    RecordedEvent.holds, read]

/-- A key that is read back from its text, and does when it is played what it did when it was
recorded. -/
def ReadBack (k : Key) : Prop :=
  Key.ofText? k.text = some k ∧ ∀ time down d c,
    (perform (Recorder.keyEvent time k down)).run (d, c) =
      .ok () ({ d with acts := d.acts.push (if down then .press k.label else .release k.label) }, c)

/-- A key whose text is read as a longer one, which no key types, so that it cannot be played. -/
def Misread (k : Key) : Prop :=
  ∃ t, Key.ofText? k.text = some (.typed t) ∧ .typed t ≠ k ∧ Text.length t ≠ 1 ∧
    ∀ time down d c, (perform (Recorder.keyEvent time k down)).run (d, c) =
      .error (.value (.unknownKey t)) (d, c)

theorem readBack_special {name : String} (known : name ∈ Key.names) : ReadBack (.special name) := by
  have read := Key.ofText?_special name known
  refine ⟨read, fun time down d c => ?_⟩
  rw [perform_keyEvent down (show recordedKey? (.text _) = some (.special name) by
    simp only [recordedKey?, read]; rfl)]
  rfl

theorem readBack_typed (shown : Text.isShown n = true) (point : n < 0x110000) :
    ReadBack (.typed (Text.single n)) := by
  obtain ⟨-, printable, other, -⟩ := (Text.isShown_iff n).mp shown
  have same : Text.single n = String.ofList [Char.ofNat n] := by
    rw [Text.single, Text.ofPoint_shown shown]
  have read : Key.ofText? (Key.typed (Text.single n)).text = some (.typed (Text.single n)) := by
    rw [Key.ofText?_typed point, if_neg other, Text.quotedPoint_shown shown, same]
  have long : Text.length (Text.single n) = 1 := by
    rw [same, Text.length_ofList]
    · rfl
    · intro member
      rw [← List.mem_singleton.mp member, Text.mark_not_printable] at printable
      cases printable
  refine ⟨read, fun time down d c => ?_⟩
  rw [perform_keyEvent down (show recordedKey? (.text _) = some (.typed (Text.single n)) by
    simp only [recordedKey?, read]; rw [Option.filter_some, if_pos]; simp [Key.isSet, same])]
  rw [Keyboard.send, if_pos long]
  rfl

theorem misread_of_long {t : String} (read : Key.ofText? k.text = some (.typed t))
    (other : .typed t ≠ k) (filled : t.isEmpty = false) (long : Text.length t ≠ 1) : Misread k := by
  refine ⟨t, read, other, long, fun time down d c => ?_⟩
  rw [perform_keyEvent down (show recordedKey? (.text _) = some (.typed t) by
    simp [recordedKey?, read, Key.isSet, filled]), Keyboard.send, if_neg long]
  rfl

theorem misread_typed (hidden : Text.isShown n = false) (point : n < 0x110000) :
    Misread (.typed (Text.single n)) := by
  have read := Key.ofText?_typed point
  by_cases quote : n = 39
  · subst quote
    exact misread_of_long read (by decide) rfl (by decide)
  · rw [if_neg quote] at read
    obtain ⟨two, ascii, -⟩ := Text.quotedPoint_hidden point hidden quote
    have unmarked := Text.mark_of_ascii ascii
    apply misread_of_long read
    · intro same
      have inside := String.ofList_injective (Key.typed.inj same)
      rw [inside] at two unmarked
      rcases Text.ofPoint_cases n with one | marked
      · omega
      · exact unmarked marked
    · cases inside : Text.quotedPoint '\'' n with
      | nil => simp [inside] at two
      | cons c rest => simp
    · rw [Text.length_ofList unmarked]
      omega

theorem ReadBack.not_misread (back : ReadBack k) : ¬ Misread k := by
  rintro ⟨t, read, other, -⟩
  exact other (Option.some.inj (read.symm.trans back.1))

/-- Reading the text of a key gives the key back, and playing its events does what it did, exactly
for the keys with names and the keys of the characters that a quoted text shows as they are: those
that are printable, but not the single quote and not the backslash. The text of any other key is
read as more than one character, and its events cannot be played. -/
theorem key_text_is_read_back {k : Key} (real : k.Real) :
    (ReadBack k ↔ k.Shown) ∧ (Misread k ↔ ¬ k.Shown) := by
  have shown_back (shown : k.Shown) : ReadBack k := by
    cases shown with
    | special known => exact readBack_special known
    | typed point shown => exact readBack_typed shown point
  have other_misread (hidden : ¬ k.Shown) : Misread k := by
    cases real with
    | special known => exact absurd (.special known) hidden
    | @typed n point =>
      cases shown : Text.isShown n with
      | true => exact absurd (.typed point shown) hidden
      | false => exact misread_typed shown point
  refine ⟨⟨fun back => ?_, shown_back⟩, fun misread shown => ?_, other_misread⟩
  · by_contra hidden
    exact back.not_misread (other_misread hidden)
  · exact (shown_back shown).not_misread misread

theorem key_text_is_read_back_tab :
    ReadBack (.special "tab") ∧ ReadBack (.typed (Text.single 97)) ∧
      (Misread (.typed (Text.single 9)) ↔ ¬ Key.Shown (.typed (Text.single 9))) :=
  ⟨(key_text_is_read_back (.special (by decide))).1.mpr (.special (by decide)),
    (key_text_is_read_back (.typed (by decide))).1.mpr (.typed (by decide) (by decide)),
    (key_text_is_read_back (.typed (by decide))).2⟩

/-- The key of the single quote is read as its text, quotes included, and cannot be played. -/
theorem single_quote_is_misread : Key.Real (.typed "'") ∧
    Key.ofText? (Key.typed "'").text = some (.typed "\"'\"") ∧
    ∀ time down d c, (perform (Recorder.keyEvent time (.typed "'") down)).run (d, c) =
      .error (.value (.unknownKey "\"'\"")) (d, c) := by
  have quote : Text.single 39 = "'" := by decide
  have real : Key.Real (.typed (Text.single 39)) := .typed (by decide)
  rw [quote] at real
  obtain ⟨t, read, -, -, fails⟩ := misread_typed (n := 39) (by decide) (by decide)
  rw [quote] at read fails
  have text : Key.ofText? (Key.typed "'").text = some (.typed "\"'\"") := by decide
  cases Option.some.inj (read.symm.trans text)
  exact ⟨real, text, fails⟩

end Recording

end DeskScript
