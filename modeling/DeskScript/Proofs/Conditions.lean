import DeskScript.Proofs.Doubles
import DeskScript.Proofs.Moments

/-!
# Conditions of loops and choices

A loop goes round as long as its condition is anything but zero, and a choice takes its first block
if its condition counts as true. The two agree on numbers and on whatever holds something. They do
not agree on what is empty: a choice passes over null and over empty texts, tuples and lists, and a
loop goes round on them.
-/

namespace DeskScript

open Syntax

namespace Number

open Float.Model Float.Model.UnpackedFloat

/-- A double is equal to zero if it has neither an exponent nor a mantissa. -/
theorem beq_zero_iff (x : Float) : (x == 0) = true ↔
    x.toBits.toNat / twoTo 52 % twoTo 11 = 0 ∧ x.toBits.toNat % twoTo 52 = 0 := by
  let bits : BitVec Format.binary64.numBits := x.toModel.toBits.toBitVec
  have exponent : (unpackExponent bits).toNat = x.toBits.toNat / twoTo 52 % twoTo 11 := by
    simp [unpackExponent, bits, Float.toBits, Nat.shiftRight_eq_div_pow]
  have mantissa : (unpackMantissa bits).toNat = x.toBits.toNat % twoTo 52 := by
    simp [unpackMantissa, bits, Float.toBits]
  rw [← exponent, ← mantissa]
  change (UnpackedFloat.compare (unpack .binary64 bits) (.zero .positive) == some .eq) = true ↔ _
  have none : unpackExponent bits = 0#11 ↔ (unpackExponent bits).toNat = 0 := BitVec.toNat_inj.symm
  have nothing : unpackMantissa bits = 0#52 ↔ (unpackMantissa bits).toNat = 0 := BitVec.toNat_inj.symm
  rw [← none, ← nothing, UnpackedFloat.unpack]
  dsimp only
  split
  next all =>
    have some : unpackExponent bits ≠ 0#11 := by rw [all]; decide
    split <;> cases Sign.ofBitVec (unpackSign bits) <;> simp [UnpackedFloat.compare, some]
  next =>
    split
    next zero =>
      split
      next empty => simp [UnpackedFloat.compare, zero, empty]
      next some =>
        cases Sign.ofBitVec (unpackSign bits) <;> simp [UnpackedFloat.compare, some]
    next some => cases Sign.ofBitVec (unpackSign bits) <;> simp [UnpackedFloat.compare, some]

/-- Exact comparison finds the same doubles equal to zero. -/
theorem compareInt?_zero_iff (x : Float) : compareInt? 0 x = some .eq ↔ (x == 0) = true := by
  have settled : compareInt? 0 x = some .eq ↔ ∃ negative e, Binary.ofFloat x = .finite negative 0 e := by
    unfold compareInt?
    split
    next apart => simp [apart]
    next negative apart => cases negative <;> simp [apart]
    next negative m e apart =>
      rw [Option.some.injEq, apart]
      split <;> rw [Std.compare_eq_iff_eq, eq_comm] <;> cases negative <;> simp
  have large : twoTo 52 ≠ 0 := by decide
  rw [settled, beq_zero_iff]
  unfold Binary.ofFloat
  dsimp only
  generalize x.toBits.toNat / twoTo 52 % twoTo 11 = field
  generalize x.toBits.toNat % twoTo 52 = fraction
  split_ifs <;> simp_all

end Number

/-! ### What counts as true -/

/-- Whether a value is nothing or holds nothing, other than a number. -/
def Store.isVoid (s : Store) : Value → Bool
  | .null => true
  | .text t => t.isEmpty
  | .bytes bs => bs.isEmpty
  | .tuple _ items => items.isEmpty
  | .list cell => (s.cell cell).isEmpty
  | .set items => items.isEmpty
  | .dict _ entries => entries.isEmpty
  | _ => false

theorem Store.truth_of_isVoid {s : Store} {v : Value} (void : s.isVoid v) : s.truth v = false := by
  cases v <;> simp_all [isVoid, truth]

/-- A loop goes round on what counts as true, and on what holds nothing. -/
theorem Eval.continues_eq (s : Store) (v : Value) : continues v = (s.truth v || s.isVoid v) := by
  have swapped (o : Option Ordering) : o.map Ordering.swap = some .eq ↔ o = some .eq := by
    rcases o with _ | _ | _ | _ <;> simp
  cases v with
  | bool b => cases b <;> rfl
  | int i =>
    by_cases zero : i = 0 <;>
      simp [continues, Value.equalNumbers?, Value.numeric?, Value.Numeric.compare?, Store.truth,
        Store.isVoid, zero]
  | float x =>
    simp [continues, Value.equalNumbers?, Value.numeric?, Value.Numeric.compare?, Store.truth,
      Store.isVoid, swapped, Number.compareInt?_zero_iff, bne]
  | nan id =>
    have apart : Number.compareInt? 0 Number.nan = none := by decide +kernel
    simp [continues, Value.equalNumbers?, Value.numeric?, Value.Numeric.compare?, Store.truth, apart]
  | complex id z =>
    simp [continues, Value.equalNumbers?, Value.numeric?, Value.Numeric.compare?,
      Value.Numeric.equalsComplex, Store.truth, Store.isVoid, Number.compareInt?_zero_iff,
      Number.Complex.isZero, Bool.and_comm]
  | _ => simp [continues, Value.equalNumbers?, Value.numeric?, Store.truth, Store.isVoid]

/-! ### Going on with a block -/

/-- Once its condition has been evaluated, a statement goes on with a block. -/
def GoesOn (n : Nat) (t condition block : Tree) (s : State) : Prop :=
  ∃ log v s' rest, traceAt n [t] condition s = (log, .ok v s') ∧
    (traceAt (n + 1) [] t s).1 = ⟨[], s, .begins t⟩ :: (log ++ ⟨[t], s', .begins block⟩ :: rest)

/-- What is evaluated next begins next. -/
theorem exists_begins (n : Nat) (path : List Tree) (quiet : Bool) (t : Tree) {α : Type}
    (next : Value → Task α) (s : State) : ∃ rest,
      ((Task.evaluate quiet t next).trace (traceAt n) path s).1 = ⟨path, s, .begins t⟩ :: rest := by
  obtain ⟨rest, begins⟩ : ∃ rest, (traceAt n path t s).1 = ⟨path, s, .begins t⟩ :: rest := by
    cases n <;> exact ⟨_, rfl⟩
  rw [Task.trace, Logged.andThen]
  split
  next log v s' ran =>
    rw [ran] at begins
    obtain rfl : log = _ :: rest := begins
    exact ⟨_, rfl⟩
  next log e s' ran =>
    rw [ran] at begins
    exact ⟨_, begins⟩

/-- A statement that evaluates its condition first goes on with a block if that comes next. -/
theorem goesOn_iff {n : Nat} {t condition block : Tree} {s s' : State} {log : List Moment} {v : Value}
    (tested : traceAt n [t] condition s = (log, .ok v s')) {next : Value → Task Value}
    (first : Eval.task t = .evaluate false condition next) :
    GoesOn n t condition block s ↔
      ∃ rest, ((next v).trace (traceAt n) [t] s').1 = ⟨[t], s', .begins block⟩ :: rest := by
  have told : ∃ last outcome, (traceAt (n + 1) [] t s).1 = ⟨[], s, .begins t⟩ ::
      (log ++ (((next v).trace (traceAt n) [t] s').1 ++ [⟨[], last, .ends t outcome⟩])) := by
    have ran : (Eval.task t).trace (traceAt n) [t] s = (log ++ ((next v).trace (traceAt n) [t] s').1,
        ((next v).trace (traceAt n) [t] s').2) := by
      rw [first, Task.trace]
      exact Logged.andThen_ok tested
    rw [traceAt]
    rcases ended : ((next v).trace (traceAt n) [t] s').2 with ⟨w, last⟩ | ⟨e, last⟩ <;> rw [ended] at ran
    · exact ⟨last, .ok w, by rw [Logged.around_ok ran, List.append_assoc]⟩
    · exact ⟨last, .error e, by rw [Logged.around_error ran, List.append_assoc]⟩
  obtain ⟨last, outcome, told⟩ := told
  rw [GoesOn]
  constructor
  · rintro ⟨log', v', s'', rest, tested', goes⟩
    obtain ⟨rfl, same⟩ := Prod.mk.inj (tested.symm.trans tested')
    cases same
    rw [told, List.cons.injEq, List.append_cancel_left_eq] at goes
    rcases List.append_eq_cons_iff.mp goes.2 with ⟨-, ends⟩ | ⟨rest', here, -⟩
    · cases ends
    · exact ⟨rest', here⟩
  · rintro ⟨rest, here⟩
    refine ⟨log, v, s', rest ++ [⟨[], last, .ends t outcome⟩], tested, ?_⟩
    rw [told, here, List.cons_append]

section

variable {n : Nat} {condition block : Tree} {v : Value} {s s' : State}
  (value : evalAt n {} condition s = .ok v s')
include value

theorem exists_traceAt (t : Tree) : ∃ log, traceAt n [t] condition s = (log, .ok v s') :=
  ⟨_, Prod.ext rfl ((congrFun (forget_traceAt rfl n [t] condition) s).trans value)⟩

/-- A loop runs its body if its condition is anything but zero. -/
theorem goesOn_loop (span : Option Span) :
    GoesOn n (.node .loop span [condition, block]) condition block s ↔ Eval.continues v := by
  obtain ⟨log, tested⟩ := exists_traceAt value (.node .loop span [condition, block])
  obtain ⟨k, limit⟩ : ∃ k, Eval.roundLimit = k + 1 := ⟨Eval.roundLimit - 1, by decide⟩
  have first : Eval.task (.node .loop span [condition, block]) =
      Eval.repeatUntil (Eval.round condition block) (k + 1) := by
    rw [← limit]
    rfl
  refine (goesOn_iff tested first).trans ?_
  cases goes : Eval.continues v with
  | true =>
    simp only [Task.bind, goes, if_true]
    exact iff_of_true (exists_begins ..) trivial
  | false =>
    simp only [Task.bind, goes]
    exact iff_of_false (by rintro ⟨rest, none⟩; cases none) Bool.false_ne_true

/-- A choice takes its first block if its condition counts as true. -/
theorem goesOn_choice (span : Option Span) :
    GoesOn n (.node .choice span [condition, block]) condition block s ↔ s'.machine.store.truth v := by
  obtain ⟨log, tested⟩ := exists_traceAt value (.node .choice span [condition, block])
  refine (goesOn_iff tested rfl).trans ?_
  simp only [Task.bind, Task.truth, Task.store, Task.trace, Logged.looking, bind, pure]
  cases holds : s'.machine.store.truth v with
  | true => exact iff_of_true (exists_begins ..) rfl
  | false => exact iff_of_false (by rintro ⟨rest, none⟩; cases none) Bool.false_ne_true

/-- A loop and a choice with the same condition agree, the loop on running its body and the choice on
taking its first block, on every value but those that hold nothing and are no numbers. On these the
loop goes round and the choice goes by. -/
theorem conditions_differ_on_void (span span' : Option Span) :
    let runs := GoesOn n (.node .loop span [condition, block]) condition block s
    let takes := GoesOn n (.node .choice span' [condition, block]) condition block s
    (s'.machine.store.isVoid v = false → (runs ↔ takes)) ∧
      (s'.machine.store.isVoid v → runs ∧ ¬ takes) := by
  intro runs takes
  have loops : runs ↔ Eval.continues v := goesOn_loop value span
  have chooses : takes ↔ s'.machine.store.truth v := goesOn_choice value span'
  rw [Eval.continues_eq s'.machine.store, Bool.or_eq_true] at loops
  refine ⟨fun some => ?_, fun void => ⟨loops.mpr (.inr void), fun takes => ?_⟩⟩
  · rw [loops, chooses, some]
    exact or_iff_left Bool.false_ne_true
  · rw [chooses, Store.truth_of_isVoid void] at takes
    cases takes

end

/-- A list that holds nothing. -/
theorem conditions_differ_on_void_list :
    let list : Tree := .node .list none []
    let block : Tree := .node .block none []
    GoesOn 1 (.node .loop none [list, block]) list block {} ∧
      ¬ GoesOn 1 (.node .choice none [list, block]) list block {} :=
  (conditions_differ_on_void (n := 1) (s := {}) rfl none none).2 rfl

/-- A loop runs its body on null, which a choice goes by. -/
theorem loop_runs_on_null : ¬ ∀ (condition block : Tree) (v : Value) (s s' : State),
    evalAt 1 {} condition s = .ok v s' →
      (GoesOn 1 (.node .loop none [condition, block]) condition block s ↔
        GoesOn 1 (.node .choice none [condition, block]) condition block s) := by
  intro agree
  have null : evalAt 1 {} (.node .null none []) {} = .ok .null {} := rfl
  have runs : GoesOn 1 (.node .loop none [.node .null none [], .node .block none []]) _ _ {} :=
    (goesOn_loop null none).mpr rfl
  rw [agree _ _ _ _ _ null, goesOn_choice null] at runs
  cases runs

end DeskScript
