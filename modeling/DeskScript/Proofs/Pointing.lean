import Mathlib.Tactic.Linarith
import DeskScript.Capture
import DeskScript.Proofs.Console

/-!
# Colours around a point

A circle is looked at through the square around it, without the last column and row of the square. Of
the circle only the two pixels that touch these are missed.
-/

namespace DeskScript.Capture

/-- A pixel of a disc touches the last column or row of the square in one place each. -/
theorem within_square_iff {r dx dy : Int} (forward : 0 ≤ r) (inside : dx * dx + dy * dy ≤ r * r) :
    ((-r ≤ dx ∧ dx < r) ∧ -r ≤ dy ∧ dy < r) ↔ (dx, dy) ≠ (r, 0) ∧ (dx, dy) ≠ (0, r) := by
  have low (u v : Int) (inside : u * u + v * v ≤ r * r) : -r ≤ u ∧ u ≤ r ∧ (u = r → v = 0) := by
    refine ⟨by nlinarith [mul_self_nonneg v], by nlinarith [mul_self_nonneg v], ?_⟩
    rintro rfl
    exact mul_self_eq_zero.mp (by nlinarith [mul_self_nonneg v])
  have across := low dx dy inside
  have down := low dy dx (by omega)
  simp only [ne_eq, Prod.mk.injEq]
  omega

/-- A colour within a radius is found, unless it is only at the right end or at the lower end of the
circle. A square that cannot be taken is refused. -/
theorem colorWithin_misses_ends (x y radius : Int) (forward : 0 ≤ radius) (target : Color)
    (tolerance : Int) (d : Desk) (c : Console) :
    ∃ found : Bool, (colorWithin x y radius target tolerance).run (d, c) =
        ending ((checkGrab (x - radius) (y - radius) (x + radius) (y + radius)).map fun _ => found)
          ({ d with acts := d.acts.push (.grab (x - radius) (y - radius) (x + radius) (y + radius)) }, c) ∧
      (found ↔ ∃ px py, (px - x) * (px - x) + (py - y) * (py - y) ≤ radius * radius ∧
        Color.near tolerance (d.screen.colorAt px py) target ∧
        (px, py) ≠ (x + radius, y) ∧ (px, py) ≠ (x, y + radius)) := by
  refine ⟨(List.range (2 * radius).toNat).any fun i => (List.range (2 * radius).toNat).any fun j =>
    let dx := (i : Int) - radius
    let dy := (j : Int) - radius
    dx * dx + dy * dy ≤ radius * radius && Color.near tolerance (d.screen.colorAt (x + dx) (y + dy)) target,
    ?_, ?_⟩
  · unfold colorWithin grab
    cases checkGrab (x - radius) (y - radius) (x + radius) (y + radius) <;> rfl
  · simp only [List.any_eq_true, List.mem_range, Bool.and_eq_true, decide_eq_true_eq]
    constructor
    · rintro ⟨i, left, j, top, inside, near⟩
      have ends := (within_square_iff forward inside).mp (by omega)
      refine ⟨x + (i - radius), y + (j - radius), by simpa using inside, near, ?_⟩
      simp only [ne_eq, Prod.mk.injEq] at ends ⊢
      omega
    · rintro ⟨px, py, inside, near, ends⟩
      have square := (within_square_iff forward inside).mpr (by
        simp only [ne_eq, Prod.mk.injEq] at ends ⊢
        omega)
      have across : ((px - x + radius).toNat : Int) - radius = px - x := by omega
      have down : ((py - y + radius).toNat : Int) - radius = py - y := by omega
      refine ⟨(px - x + radius).toNat, by omega, (py - y + radius).toNat, by omega, ?_⟩
      rw [across, down, add_sub_cancel, add_sub_cancel]
      exact ⟨inside, near⟩

/-- A pixel in the middle of the left edge is found. -/
theorem colorWithin_misses_ends_left :
    let d : Desk := { screen := { patches := [⟨2, 3, 1, 1, ⟨255, 0, 0⟩⟩] } }
    (∃ px py : Int, (px - 3) * (px - 3) + (py - 3) * (py - 3) ≤ 1 * 1 ∧
      Color.near 0 (d.screen.colorAt px py) ⟨255, 0, 0⟩ ∧ (px, py) ≠ (3 + 1, 3) ∧ (px, py) ≠ (3, 3 + 1)) ∧
    ∃ c s, (colorWithin 3 3 1 ⟨255, 0, 0⟩ 0).run (d, c) = .ok true s := by
  intro d
  obtain ⟨found, ran, iff⟩ := colorWithin_misses_ends 3 3 1 (by decide) ⟨255, 0, 0⟩ 0 d {}
  have there := iff.mpr ⟨2, 3, by decide, by decide, by decide, by decide⟩
  rw [there] at ran
  exact ⟨iff.mp there, _, _, ran⟩

/-- A pixel at the right end of the circle is missed. -/
theorem right_end_is_missed :
    let d : Desk := { screen := { patches := [⟨5, 3, 1, 1, ⟨255, 0, 0⟩⟩] } }
    (5 - 3) * (5 - 3) + (3 - 3) * (3 - 3) ≤ 2 * 2 ∧ d.screen.colorAt 5 3 = ⟨255, 0, 0⟩ ∧
      ∃ s, (colorWithin 3 3 2 ⟨255, 0, 0⟩ 0).run (d, {}) = .ok false s := by
  exact ⟨by decide, by decide, _, rfl⟩

end DeskScript.Capture
