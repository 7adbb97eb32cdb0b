import DeskScript.Proofs.Returning
import Mathlib.Logic.Relation

/-!
# Ticks

A tick runs the body of its provider and then the body of its function, unless the first has null for
its value. A provider that runs to its end with null ends the ticks. One that gives null back does
not: the value of its body is a signal, with the null inside it, and the function runs once more.
-/

namespace DeskScript

open Syntax

section Ticks

variable (evaluate : Tree → Interp Value) (provider name : String)

/-- One tick that goes on: the provider has a value other than null, and the function runs. -/
def Ticks (s s' : State) : Prop :=
  ∃ p v s₁ f w, s.stack.current.functions.get? provider = some p ∧ evaluate p.body s = .ok v s₁ ∧
    v.isNull = false ∧ s₁.stack.current.functions.get? name = some f ∧ evaluate f.body s₁ = .ok w s'

/-- The provider runs to its end with null. -/
def EndsTicks (s s' : State) : Prop :=
  ∃ p, s.stack.current.functions.get? provider = some p ∧ evaluate p.body s = .ok .null s'

end Ticks

namespace Eval

variable {below : Evaluate} {mode : Mode} {provider name : String} {s s₁ s' : State} {p f : Function}

theorem run_function (found : s.stack.current.functions.get? name = some f) (missing : ScriptFault) :
    (function name missing).run below mode s = .ok f s := by
  have looked : Task.stack.run below mode s = .ok s.stack s := rfl
  rw [function, Task.run_bind]
  simp only [bind, EStateM.bind, looked, found]
  rfl

theorem run_function_ok {missing : ScriptFault} (ok : (function name missing).run below mode s = .ok f s') :
    s.stack.current.functions.get? name = some f ∧ s' = s := by
  rw [function, Task.run_bind] at ok
  obtain ⟨stack, s₁, looked, ok⟩ := Interp.bind_ok ok
  cases looked
  cases found : s.stack.current.functions.get? name with
  | none =>
    rw [found] at ok
    cases ok
  | some f' =>
    rw [found] at ok
    cases ok
    exact ⟨rfl, rfl⟩

/-- A tick whose provider has run. -/
theorem run_tick {v : Value} (found : s.stack.current.functions.get? provider = some p)
    (ran : below mode p.body s = .ok v s₁) :
    (tick provider name).run below mode s =
      (if v.isNull then pure (some .null)
        else do
          let f ← function name (.unknownFunction name)
          let _ ← Task.value f.body
          return none : Task (Option Value)).run below mode s₁ := by
  rw [tick, Task.run_bind]
  simp only [bind, EStateM.bind, run_function found]
  change (Task.value p.body >>= fun v => if v.isNull then _ else _).run below mode s = _
  rw [Task.run_bind, Task.run_value]
  simp only [bind, EStateM.bind, ran]

/-- A tick that comes to an end is the last one or goes on. -/
theorem run_tick_ok {result : Option Value} (ok : (tick provider name).run below mode s = .ok result s') :
    (result = some .null ∧ EndsTicks (below mode) provider s s') ∨
      (result = none ∧ Ticks (below mode) provider name s s') := by
  rw [tick, Task.run_bind] at ok
  obtain ⟨p, s₁, known, later⟩ := Interp.bind_ok ok
  obtain ⟨found, rfl⟩ := run_function_ok known
  rw [Task.run_bind, Task.run_value] at later
  obtain ⟨v, s₂, ran, rest⟩ := Interp.bind_ok later
  split at rest
  next null =>
    obtain rfl : v = .null := by cases v <;> first | rfl | cases null
    cases rest
    exact .inl ⟨rfl, p, found, ran⟩
  next some =>
    rw [Task.run_bind] at rest
    obtain ⟨f, s₃, known, last⟩ := Interp.bind_ok rest
    obtain ⟨there, rfl⟩ := run_function_ok known
    rw [Task.run_bind, Task.run_value] at last
    obtain ⟨w, s₄, runs, done⟩ := Interp.bind_ok last
    cases done
    exact .inr ⟨rfl, p, v, _, f, w, found, ran, Bool.eq_false_iff.mpr some, there, runs⟩

/-- Ticks that come to an end have null for their value, and the last provider ran to its end with
null. -/
theorem run_repeatUntil_tick_ok {k : Nat} {r : Value}
    (ok : (repeatUntil (tick provider name) k).run below mode s = .ok r s') :
    r = .null ∧ ∃ s₁, Relation.ReflTransGen (Ticks (below mode) provider name) s s₁ ∧
      EndsTicks (below mode) provider s₁ s' := by
  induction k generalizing s with
  | zero => cases ok
  | succ k ih =>
    cases once : (tick provider name).run below mode s with
    | error e s₁ =>
      rw [run_repeatUntil_error once] at ok
      cases ok
    | ok result s₁ =>
      rcases run_tick_ok once with ⟨rfl, last⟩ | ⟨rfl, goes⟩
      · rw [run_repeatUntil_some once] at ok
        cases ok
        exact ⟨rfl, s, .refl, last⟩
      · rw [run_repeatUntil_none once] at ok
        obtain ⟨null, s₂, later, last⟩ := ih ok
        exact ⟨null, s₂, .head goes later, last⟩

end Eval

/-- A provider that runs to its end with null ends the ticks at once, and nothing else ends them but an
error. After a provider that gives a value back, null or any other, the function runs, and the ticks
go on. -/
theorem ticks_end_with_plain_null (n : Nat) (mode : Mode) (span : Option Span) (provider name : Tree) :
    let ticks := evalAt (n + 1) mode (.node (.builtin .foreachTick) span [provider, name])
    (∀ s s', EndsTicks (evalAt n mode) provider.text s s' → ticks s = .ok .null s') ∧
      (∀ s r s', ticks s = .ok r s' → r = .null ∧
        ∃ s₁, Relation.ReflTransGen (Ticks (evalAt n mode) provider.text name.text) s s₁ ∧
          EndsTicks (evalAt n mode) provider.text s₁ s') ∧
      ∀ s p f v s', s.stack.current.functions.get? provider.text = some p →
        Returns mode v s' n p.body s → s'.stack.current.functions.get? name.text = some f →
        ∃ k, ticks s = (do
          let _ ← evalAt n mode f.body
          (Eval.repeatUntil (Eval.tick provider.text name.text) k).run (evalAt n) mode)
            (s'.signalled .giveBack v) := by
  intro ticks
  obtain ⟨k, limit⟩ : ∃ k, Eval.roundLimit = k + 1 := ⟨Eval.roundLimit - 1, by decide⟩
  have unfolded : ticks =
      (Eval.repeatUntil (Eval.tick provider.text name.text) (k + 1)).run (evalAt n) mode := by
    rw [← limit]
    rfl
  rw [unfolded]
  refine ⟨?_, fun s r s' ok => Eval.run_repeatUntil_tick_ok ok, ?_⟩
  · rintro s s' ⟨p, found, null⟩
    exact Eval.run_repeatUntil_some (Eval.run_tick found null) k
  · intro s p f v s' found returns known
    have once := @Eval.run_tick (evalAt n) mode provider.text name.text _ _ _ _ found returns.evalAt
    refine ⟨k, ?_⟩
    rw [Eval.repeatUntil, Task.run_bind]
    have runs : (Eval.tick provider.text name.text).run (evalAt n) mode s =
        (do let _ ← evalAt n mode f.body; return none) (s'.signalled .giveBack v) := by
      rw [once]
      change (Eval.function name.text _ >>= fun f => Task.value f.body >>= fun _ => pure none).run _ mode _ = _
      rw [Task.run_bind]
      simp only [bind, EStateM.bind, Eval.run_function (s := s'.signalled .giveBack v) known]
      change (Task.value f.body >>= fun _ => pure none).run _ mode _ = _
      rw [Task.run_bind, Task.run_value]
      rfl
    simp only [bind, EStateM.bind, runs]
    cases evalAt n mode f.body (s'.signalled .giveBack v) <;> rfl

/-- A provider that gives null back and one that runs to its end with null. -/
theorem ticks_end_with_plain_null_providers :
    let null : Tree := .node .null none []
    let gives : Tree := .node .block none [.node .giveBack none [null]]
    let falls : Tree := .node .block none [.node .expression none [null]]
    let ticks (provider : String) := evalAt 4 {} (.node (.builtin .foreachTick) none
      [.leaf ⟨.name, provider, none⟩, .leaf ⟨.name, "f", none⟩])
    let s : State := { stack.current.functions :=
      [("p", ⟨[], gives⟩), ("q", ⟨[], falls⟩), ("f", ⟨[], .node .block none []⟩)] }
    ticks "q" s = .ok .null s ∧ Returns {} .null s 3 gives s ∧
      ∃ k, ticks "p" s = (do
        let _ ← evalAt 3 {} (.node .block none [])
        (Eval.repeatUntil (Eval.tick "p" "f") k).run (evalAt 3) {}) (s.signalled .giveBack .null) := by
  intro null gives falls ticks s
  have passes : Passes (evalAt 2) {} s [] s := .nil s
  have returns : Returns {} .null s 3 gives s := .block passes rfl (.here rfl)
  obtain ⟨-, -, goes⟩ := ticks_end_with_plain_null 3 {} none (.leaf ⟨.name, "p", none⟩) (.leaf ⟨.name, "f", none⟩)
  obtain ⟨ends, -⟩ := ticks_end_with_plain_null 3 {} none (.leaf ⟨.name, "q", none⟩) (.leaf ⟨.name, "f", none⟩)
  exact ⟨ends s s ⟨_, rfl, rfl⟩, returns, goes s _ _ _ _ rfl returns rfl⟩

/-- A provider that gives null back once and then runs to its end with null. -/
def tickingText : String :=
  "fn p() \x7b n = n + 1; if n == 1 \x7b return null; \x7d \x7d fn f() \x7b x = n; \x7d n = 0; @foreach_tick(p, f);"

/-- The function runs after the first tick, in which the provider has given null back. -/
theorem function_runs_after_null : ∃ t s, parse tickingText = .ok t ∧ eval {} t {} = .ok .null s ∧
    s.stack.read? "x" = some (.int 1) := by
  obtain ⟨t, parsed, v, s, ended, null, one⟩ : ∃ t, parse tickingText = .ok t ∧
      ∃ v s, eval {} t {} = .ok v s ∧ v.isNull ∧ s.stack.read? "x" = some (.int 1) := by
    decide +kernel
  cases v with
  | null => exact ⟨t, s, parsed, ended, one⟩
  | _ => cases null

end DeskScript
