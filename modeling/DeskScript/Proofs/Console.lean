import DeskScript.Interp.State

/-!
# Routines and the console

Whether a routine asks for a line depends on the bench alone. One that asks for none does the same
at every console, and adds the same texts to what has been printed there.
-/

namespace DeskScript

namespace Console

/-- Prints texts one after the other. -/
def sayAll (c : Console) (texts : List (Speaker × String)) : Console :=
  { c with printed := c.printed ++ texts }

/-- What has been printed, without the texts of the debugger. -/
def heard (c : Console) : List (Speaker × String) := c.printed.toList.filter (·.1 ≠ .debugger)

theorem sayAll_nil (c : Console) : c.sayAll [] = c := by simp [sayAll]

theorem sayAll_say (c : Console) (speaker : Speaker) (s : String)
    (texts : List (Speaker × String)) :
    (c.say speaker s).sayAll texts = c.sayAll ((speaker, s) :: texts) := by
  simp only [sayAll, say, Console.mk.injEq, true_and]
  apply Array.ext'
  simp

theorem heard_sayAll (c : Console) (texts : List (Speaker × String)) :
    (c.sayAll texts).heard = c.heard ++ texts.filter (·.1 ≠ .debugger) := by
  simp [heard, sayAll]

theorem heard_say_debugger (c : Console) (s : String) : (c.say .debugger s).heard = c.heard := by
  simp [heard, say]

end Console

/-- The end of a step with this result in this state. -/
def ending {σ α : Type} : Except Error α → σ → EStateM.Result Error σ α
  | .ok a, s => .ok a s
  | .error e, s => .error e s

theorem exists_ending {σ α : Type} (r : EStateM.Result Error σ α) :
    ∃ result s, r = ending result s := by
  cases r with
  | ok a s => exact ⟨.ok a, s, rfl⟩
  | error e s => exact ⟨.error e, s, rfl⟩

theorem ending_injective {σ α : Type} {r r' : Except Error α} {s s' : σ}
    (same : ending r s = ending r' s') : r = r' ∧ s = s' := by
  cases r <;> cases r' <;> cases same <;> exact ⟨rfl, rfl⟩

namespace Routine

variable {σ α β : Type}

theorem run_bind (x : Routine σ β) (f : β → Routine σ α) (s : σ × Console) :
    (x >>= f).run s = match x.run s with
      | .ok b s' => (f b).run s'
      | .error e s' => .error e s' := by
  induction x generalizing s with
  | done b => rfl
  | fail e => rfl
  | step g next ih => exact ih (g s.1).1 ((g s.1).2, s.2)
  | say speaker t next ih => exact ih (s.1, s.2.say speaker t)
  | ask speaker prompt next ih =>
    obtain ⟨s, replies, printed⟩ := s
    cases replies with
    | nil => rfl
    | cons reply replies => exact ih reply _

/-- Whether a routine asks for a line, from a state on. -/
def asks : Routine σ α → σ → Bool
  | done _, _ => false
  | fail _, _ => false
  | step f next, s => (next (f s).1).asks (f s).2
  | say _ _ next, s => next.asks s
  | ask .., _ => true

theorem run_of_not_asks (r : Routine σ α) (s : σ) (silent : r.asks s = false) :
    ∃ result s' texts, ∀ c, r.run (s, c) = ending result (s', c.sayAll texts) := by
  induction r generalizing s with
  | done a => exact ⟨.ok a, s, [], fun c => by rw [Console.sayAll_nil]; rfl⟩
  | fail e => exact ⟨.error e, s, [], fun c => by rw [Console.sayAll_nil]; rfl⟩
  | step f next ih => exact ih (f s).1 (f s).2 silent
  | say speaker t next ih =>
    obtain ⟨result, s', texts, rest⟩ := ih s silent
    refine ⟨result, s', (speaker, t) :: texts, fun c => ?_⟩
    rw [← Console.sayAll_say]
    exact rest (c.say speaker t)
  | ask speaker prompt next => simp [asks] at silent

end Routine

/-! ### Operations of the machine -/

theorem Op.run_ofAction {α : Type} (a : Action α) (bench : Bench) (c : Console) :
    (liftM a : Op α).run (bench, c) = match a.run (bench.desk, c) with
      | .ok x (desk, c) => .ok x ({ bench with desk }, c)
      | .error e (desk, c) => .error e ({ bench with desk }, c) := by
  change (ofAction a).run (bench, c) = _
  induction a generalizing bench c with
  | done a => rfl
  | fail e => rfl
  | step f next ih => exact ih (f bench.desk).1 { bench with desk := (f bench.desk).2 } c
  | say speaker t next ih => exact ih bench (c.say speaker t)
  | ask speaker prompt next ih =>
    obtain ⟨replies, printed⟩ := c
    cases replies with
    | nil => rfl
    | cons reply replies => exact ih reply bench _

/-- The bench of a machine. -/
def Machine.bench (m : Machine) : Bench := ⟨m.world.toDesk, m.store, m.templates⟩

namespace State

/-- The console of a run. -/
def console (s : State) : Console := s.machine.world.toConsole

/-- The state with another bench and another console. -/
def put (s : State) (bench : Bench) (console : Console) : State :=
  { s with machine := ⟨⟨bench.desk, console⟩, bench.store, bench.templates⟩ }

end State

theorem ofOp_of_not_asks {α : Type} (op : Op α) (bench : Bench) (silent : op.asks bench = false) :
    ∃ result bench' texts, ∀ s : State, s.machine.bench = bench →
      Interp.ofOp op s = ending result (s.put bench' (s.console.sayAll texts)) := by
  obtain ⟨result, bench', texts, same⟩ := op.run_of_not_asks bench silent
  refine ⟨result, bench', texts, ?_⟩
  rintro ⟨⟨⟨desk, console⟩, store, templates⟩, stack, debugger⟩ rfl
  have run := same console
  simp only [Machine.bench] at run
  simp only [Interp.ofOp, run, State.console]
  cases result <;> rfl

end DeskScript
