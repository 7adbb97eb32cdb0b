import Mathlib.Data.List.Infix
import DeskScript.Proofs.Playing

/-!
# Keys pressed together

The keys of a combination are pressed in order and released in the reverse order, unless something
fails in between. Then the keys that have been pressed by that time stay down.
-/

namespace DeskScript

open Routine

/-- Every key has been released as often as it has been pressed. -/
def Settled (made : List Touch) : Prop :=
  ∀ label, made.count ⟨label, true⟩ = made.count ⟨label, false⟩

theorem Action.Makes.bind {x y : Action Unit} {asked more : List Touch} (first : x.Makes asked)
    (rest : y.Makes more) : (x >>= fun _ => y).Makes (asked ++ more) := by
  intro d
  refine ends_bind.mpr ((first d).mono ?_)
  rintro (e | _) d₁ ⟨done, made, goes, part, all⟩
  · exact ⟨done, made, goes, part.trans (List.prefix_append _ _), by rintro ⟨⟩⟩
  · refine (rest d₁).mono ?_
    rintro result d₂ ⟨later, made', goes', part', all'⟩
    rw [all rfl] at goes
    exact ⟨_, _, goes.trans goes', (List.prefix_append_right_inj _).mpr part', fun ok => by rw [all' ok]⟩

theorem Action.Quiet.andThen {β : Type} {x : Action β} {f : β → Action Unit} {asked : List Touch}
    (quiet : x.Quiet) (rest : ∀ b, (f b).Makes asked) : (x >>= f).Makes asked := by
  intro d
  refine ends_bind.mpr ((quiet d).mono ?_)
  rintro (e | b) d₁ ⟨done, goes⟩
  · exact ⟨done, [], goes, List.nil_prefix, by rintro ⟨⟩⟩
  · refine (rest b d₁).mono ?_
    rintro result d₂ ⟨later, made, goes', part, all⟩
    exact ⟨_, made, goes.trans goes', part, all⟩

namespace Keyboard

/-- Each of some keys is pressed, or released. -/
def strokes (keys : List String) (down : Bool) : List Touch :=
  keys.map fun key => ⟨(keyOf key).label, down⟩

/-- What a combination of keys asks for. -/
def combination (keys : List String) : List Touch := strokes keys true ++ strokes keys.reverse false

theorem count_strokes (keys : List String) (down down' : Bool) (label : String) :
    (strokes keys down).count ⟨label, down'⟩ =
      if down = down' then keys.countP fun key => (keyOf key).label = label else 0 := by
  rw [strokes, List.count, List.countP_map]
  split
  next same => exact List.countP_congr fun key _ => by simp [same]
  next other => exact List.countP_eq_zero.mpr fun key _ => by simp [other]

/-- A first part of a combination leaves a key down, unless it is nothing or all of it: the key that
was pressed first is released last. -/
theorem settled_iff {keys : List String} {made : List Touch} (part : made <+: combination keys) :
    Settled made ↔ made = [] ∨ made = combination keys := by
  constructor
  · intro settled
    rcases List.prefix_or_prefix_of_prefix part (List.prefix_append _ _) with pressed | ⟨released, rfl⟩
    · refine .inl (List.eq_nil_iff_forall_not_mem.mpr fun t member => ?_)
      obtain ⟨key, -, rfl⟩ := List.mem_map.mp (pressed.subset member)
      have some := List.count_pos_iff.mpr member
      have none := pressed.sublist.count_le ⟨(keyOf key).label, false⟩
      rw [count_strokes, if_neg (by decide)] at none
      have := settled (keyOf key).label
      omega
    · refine .inr (congrArg _ ?_)
      have rest := (List.prefix_append_right_inj _).mp part
      cases keys with
      | nil => exact List.prefix_nil.mp rest
      | cons key keys =>
        rw [strokes, List.reverse_cons, List.map_append] at rest ⊢
        refine (List.prefix_concat_iff.mp rest).resolve_right fun early => ?_
        have fewer : _ ≤ (strokes keys.reverse false).count _ :=
          early.sublist.count_le ⟨(keyOf key).label, false⟩
        have same := settled (keyOf key).label
        simp only [List.count_append, count_strokes, List.countP_cons, List.countP_reverse] at same fewer
        simp at same fewer
        omega
  · rintro (rfl | rfl)
    · exact fun label => rfl
    · intro label
      simp [combination, count_strokes]

theorem quiet_variedDelay (delay : Int) : (variedDelay delay).Quiet := by
  unfold variedDelay
  grind

theorem makes_sendAll (delay : Int) (down : Bool) (keys : List String) :
    (sendAll delay down keys).Makes (strokes keys down) := by
  induction keys with
  | nil => exact (Action.quiet_pure ()).makes
  | cons key rest ih =>
    have sent : (sendInput "keyboard" key (if down then "down" else "up")).Makes
        [⟨(keyOf key).label, down⟩] := by
      cases down <;> exact makes_send _ _
    refine sent.bind ?_
    split
    · exact (quiet_variedDelay delay).andThen fun _ => (Action.quiet_sleep _).andThen fun _ => ih
    · exact ih

theorem makes_pressAndRelease (delay : Int) (keys : List String) :
    (pressAndRelease delay keys).Makes (combination keys) := by
  refine (Action.quiet_lift _).andThen fun _ => (makes_sendAll delay true keys).bind ?_
  refine (quiet_variedDelay delay).andThen fun _ => (Action.quiet_sleep _).andThen fun _ => ?_
  exact makes_sendAll delay false keys.reverse

/-- However a combination ends, a first part of it has been made, and all of it if there is no error. A
key is left down unless that part is nothing or all of it. -/
theorem combination_may_stay_down (delay : Int) (keys : List String) (d : Desk) (c : Console) :
    ∃ result d' c' made, (pressAndRelease delay keys).run (d, c) = ending result (d', c') ∧
      touches d'.acts = touches d.acts ++ made ∧ made <+: combination keys ∧
      (result = .ok () → made = combination keys) ∧
      (Settled made ↔ made = [] ∨ made = combination keys) := by
  obtain ⟨result, d', c', ran, done, made, goes, part, all⟩ :=
    (makes_pressAndRelease delay keys d).run c
  exact ⟨result, d', c', made, ran, goes.touches, part, all, settled_iff part⟩

/-- The desk at which a run fails. -/
def failedAt : EStateM.Result Error (Desk × Console) Unit → Option Desk
  | .ok .. => none
  | .error _ s => some s.1

/-- A negative delay fails when both keys are down, and they stay down. -/
theorem negative_delay_leaves_keys_down :
    (failedAt ((pressAndRelease (-50) ["shift", "a"]).run ({}, {}))).map (touches ·.acts) =
      some [⟨"Key.shift", true⟩, ⟨"a", true⟩] ∧
    ¬ Settled [⟨"Key.shift", true⟩, ⟨"a", true⟩] := by
  refine ⟨by decide +kernel, fun settled => ?_⟩
  exact absurd (settled "a") (by decide)

end Keyboard

end DeskScript
