import Mathlib.Order.Bounds.Basic
import DeskScript.Session.Brackets
import DeskScript.Text.Point

/-!
# What is still to be closed

The number of brackets that a text leaves open is the length of the shortest text that closes them
all: the closing brackets for them, the innermost first.
-/

namespace DeskScript.Session

/-- What closes the open brackets of a text. The last one that was opened is closed first. -/
def closing (t : String) : String := String.ofList ((openBrackets t.toList).filterMap closer?)

theorem not_opening_of_closes {b c : Char} (closes : closer? b = some c) :
    closer? c = none ∧ c ≠ Text.mark := by
  unfold closer? at closes
  split at closes <;> cases closes <;> decide

/-- What one character can do. -/
theorem track_cases (opened : List Char) (c : Char) :
    ((closer? c).isSome ∧ track opened c = c :: opened) ∨
      (∃ b, closer? b = some c ∧ opened = b :: track opened c) ∨ track opened c = opened := by
  unfold track
  split
  next opens => exact .inl ⟨opens, rfl⟩
  next =>
    cases opened with
    | nil => exact .inr (.inr rfl)
    | cons b rest =>
      by_cases closes : closer? b = some c
      · exact .inr (.inl ⟨b, closes, by simp [closes]⟩)
      · exact .inr (.inr (by simp [closes]))

/-- Only opening brackets are ever open. -/
theorem opening_foldl_track (cs : List Char) {opened : List Char}
    (opening : ∀ b ∈ opened, (closer? b).isSome) : ∀ b ∈ cs.foldl track opened, (closer? b).isSome := by
  induction cs generalizing opened with
  | nil => exact opening
  | cons c cs ih =>
    refine ih fun b member => ?_
    rcases track_cases opened c with ⟨opens, same⟩ | ⟨top, -, same⟩ | same
    · rw [same] at member
      exact (List.mem_cons.mp member).elim (fun here => here ▸ opens) (opening b)
    · exact opening b (same ▸ List.mem_cons_of_mem top member)
    · exact opening b (same ▸ member)

/-- A text closes at most one bracket with each code point. -/
theorem length_le_foldl_track (cs opened : List Char) :
    opened.length ≤ (cs.foldl track opened).length + Text.width cs := by
  induction cs generalizing opened with
  | nil => exact Nat.le_refl _
  | cons c cs ih =>
    have later := ih (track opened c)
    have parts : Text.width (c :: cs) = Text.width cs + if c ≠ Text.mark then 1 else 0 := by
      simp [Text.width, List.countP_cons]
    rw [List.foldl_cons, parts]
    rcases track_cases opened c with ⟨-, same⟩ | ⟨top, closes, same⟩ | same
    · have longer := congrArg List.length same
      rw [List.length_cons] at longer
      omega
    · have longer := congrArg List.length same
      rw [List.length_cons] at longer
      rw [if_pos (not_opening_of_closes closes).2]
      omega
    · have longer := congrArg List.length same
      omega

/-- Brackets are closed one by one. -/
theorem foldl_track_closers {opened : List Char} (opening : ∀ b ∈ opened, (closer? b).isSome) :
    (opened.filterMap closer?).foldl track opened = [] ∧
      (opened.filterMap closer?).length = opened.length := by
  induction opened with
  | nil => exact ⟨rfl, rfl⟩
  | cons b opened ih =>
    obtain ⟨first, others⟩ := List.forall_mem_cons.mp opening
    obtain ⟨c, closes⟩ := Option.isSome_iff_exists.mp first
    have shut : track (b :: opened) c = opened := by
      simp [track, (not_opening_of_closes closes).1, closes]
    rw [List.filterMap_cons_some closes, List.foldl_cons, shut, List.length_cons, (ih others).2]
    exact ⟨(ih others).1, rfl⟩

/-- What a text leaves open lies on what is left of the brackets that were open before. While it has
brackets of its own open, those before do not matter, and without any it can only close some. -/
theorem foldl_track_append (cs own below : List Char) :
    ∃ left, left <:+ below ∧ cs.foldl track (own ++ below) = cs.foldl track own ++ left := by
  induction cs generalizing own below with
  | nil => exact ⟨below, List.suffix_rfl, rfl⟩
  | cons c cs ih =>
    obtain ⟨left, lower, same⟩ : ∃ left, left <:+ below ∧ track (own ++ below) c = track own c ++ left := by
      cases opens : closer? c with
      | some d => exact ⟨below, List.suffix_rfl, by simp [track, opens]⟩
      | none =>
        cases own with
        | nil =>
          refine ⟨track below c, ?_, by simp [track, opens]⟩
          rcases track_cases below c with ⟨opens', -⟩ | ⟨top, -, same⟩ | same
          · simp [opens] at opens'
          · exact ⟨[top], same.symm⟩
          · exact ⟨[], same⟩
        | cons b own =>
          refine ⟨below, List.suffix_rfl, ?_⟩
          by_cases closes : closer? b = some c <;> simp [track, opens, closes]
    obtain ⟨left', lowest, later⟩ := ih (track own c) left
    exact ⟨left', lowest.trans lower, by rw [List.foldl_cons, List.foldl_cons, same, later]⟩

theorem length_bounds (s : String) :
    Text.width s.toList ≤ Text.length s ∧ Text.length s ≤ s.toList.length := by
  unfold Text.length
  split
  next => exact ⟨String.length_toList ▸ List.countP_le_length, String.length_toList.ge⟩
  next => exact ⟨Nat.le_refl _, List.countP_le_length⟩

/-- The count of open brackets is the length of the shortest text that closes them, which the closing
brackets from the inside out are, and two texts leave no more open together than one by one. -/
theorem unclosed_is_shortest_rest (t u : String) :
    IsLeast {n | ∃ s, Text.length s = n ∧ unclosed (t ++ s) = 0} (unclosed t) ∧
      (Text.length (closing t) = unclosed t ∧ unclosed (t ++ closing t) = 0) ∧
      unclosed (t ++ u) ≤ unclosed t + unclosed u := by
  have run (s : String) : unclosed (t ++ s) = (s.toList.foldl track (openBrackets t.toList)).length := by
    rw [unclosed, String.toList_append, openBrackets, List.foldl_append, openBrackets]
  obtain ⟨none, long⟩ := foldl_track_closers (@opening_foldl_track t.toList [] (by simp))
  have closed : unclosed (t ++ closing t) = 0 := by
    rw [run, closing, String.toList_ofList, openBrackets, none]
    rfl
  have least : unclosed t ∈ lowerBounds {n | ∃ s, Text.length s = n ∧ unclosed (t ++ s) = 0} := by
    rintro n ⟨s, rfl, none⟩
    have least := length_le_foldl_track s.toList (openBrackets t.toList)
    rw [← run, none, Nat.zero_add] at least
    exact least.trans (length_bounds s).1
  have shortest : Text.length (closing t) = unclosed t := by
    refine Nat.le_antisymm ?_ (least ⟨closing t, rfl, closed⟩)
    have most := (length_bounds (closing t)).2
    rwa [closing, String.toList_ofList, openBrackets, long] at most
  refine ⟨⟨⟨closing t, shortest, closed⟩, least⟩, ⟨shortest, closed⟩, ?_⟩
  obtain ⟨left, lower, same⟩ := foldl_track_append u.toList [] (openBrackets t.toList)
  have fewer := lower.length_le
  rw [run, ← List.nil_append (openBrackets t.toList), same, List.length_append, Nat.add_comm]
  exact Nat.add_le_add_right fewer _

end DeskScript.Session
