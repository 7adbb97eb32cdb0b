import DeskScript.Proofs.Blame

/-!
# Lists that are shared

A list is reached through variables, frames, arguments and other lists alike. In a run of a script it
changes only when it is the first argument in a call of one of the three built-ins that change
lists, and such a call changes that list or fails and changes none. So a list that a copy, a shuffle
or a sum has made stays apart from the lists that it was made of.
-/

namespace DeskScript

open Syntax

/-- The state with other lists. -/
def State.withStore (s : State) (store : Store) : State :=
  { s with machine := { s.machine with store } }

/-- A call of a built-in that changes lists was passed the list in a cell first, and succeeded. -/
def Happening.Changes (cell : Nat) : Happening → Prop
  | performed (.builtin b v) before (.ok _ _) => Builtins.changesList b ∧
    ∃ rest, Builtins.given b before.machine.store v = .ok (.ok (.list cell) :: rest)
  | _ => False

/-- How a call of a built-in that changes lists ends, once its arguments have been evaluated: it fails
and nothing changes, or it changes the list that was passed first and nothing else. What it gives
back gets a number if it has none yet. -/
def Builtins.ChangesFirst (b : Builtin) (v : Value) (given : State)
    (ended : EStateM.Result Error State Value) : Prop :=
  (∃ e, ended = .error e given) ∨
    ∃ args cell w items, Builtins.given b given.machine.store v = .ok args ∧
      Changed cell (given.machine.store.cell cell) b args w items ∧
      ended = .ok ((given.machine.store.put cell items).fresh w).1
        (given.withStore ((given.machine.store.put cell items).fresh w).2)

variable {cell : Nat} {b : Builtin}

theorem Builtins.Changed.first {items items' : Array Value} {args : List Argument} {w : Value}
    (changed : Changed cell items b args w items') : ∃ rest, args = .ok (.list cell) :: rest := by
  cases changed <;> exact ⟨_, rfl⟩

/-- Carrying out a request that changes a list. -/
theorem Builtins.changesFirst_carryOut (changes : changesList b) (v : Value) (s : State) :
    ChangesFirst b v s (Interp.ofOp (Request.carryOut (.builtin b v)) s) := by
  rw [Interp.ofOp_apply]
  rcases Request.run_change changes v s.machine.bench s.console with
    ⟨e, ran⟩ | ⟨args, cell, w, items, found, changed, ran⟩
  · exact Or.inl ⟨e, by rw [ran]; rfl⟩
  · exact Or.inr ⟨args, cell, w, items, found, changed, by rw [ran]; rfl⟩

theorem Store.getElem?_put (s : Store) {other : Nat} (apart : cell ≠ other) (items : Array Value) :
    (s.put cell items).cells[other]? = s.cells[other]? := by
  simp [put, Array.getElem?_modify, apart]

theorem Store.size_put (s : Store) (cell : Nat) (items : Array Value) :
    (s.put cell items).cells.size = s.cells.size := by
  simp [put]

/-- A request changes no list but one that is passed first to a built-in that changes lists. -/
theorem Request.keeps_cell (r : Request) (s : State) (there : cell < s.machine.store.cells.size)
    (apart : ¬ (Happening.performed r s (Interp.ofOp r.carryOut s)).Changes cell) :
    s.machine.store.cells.size ≤ (endState (Interp.ofOp r.carryOut s)).machine.store.cells.size ∧
      (endState (Interp.ofOp r.carryOut s)).machine.store.cells[cell]? =
        s.machine.store.cells[cell]? := by
  by_cases changes : r.changesList
  · cases r with
    | builtin b v =>
      rcases Builtins.changesFirst_carryOut changes v s with
        ⟨e, ended⟩ | ⟨args, cell', w, items, found, changed, ended⟩
      · rw [ended]
        exact ⟨Nat.le_refl _, rfl⟩
      · have other : cell' ≠ cell := by
          rintro rfl
          obtain ⟨rest, rfl⟩ := changed.first
          rw [ended] at apart
          exact apart ⟨changes, rest, found⟩
        rw [ended]
        simp only [endState, State.withStore, Store.cells_fresh, Store.size_put]
        exact ⟨Nat.le_refl _, Store.getElem?_put _ other items⟩
    | _ => simp [changesList] at changes
  · have mild : r.carryOut.Mild (Bench.Extends s.machine.store) := mild_carryOut fun made => absurd made changes
    obtain ⟨result, bench, c, ran, kept, -⟩ :=
      mild.run (s := s.machine.bench) (Store.Extends.refl _) s.console
    rw [Interp.ofOp_apply, ran]
    cases result <;> exact ⟨Store.Extends.size_le kept, kept cell there⟩

/-- In any run a list stays as it is unless it is passed first to a built-in that changes lists. -/
theorem run_keeps_cell (mode : Mode) (t : Tree) (s : State)
    (there : cell < s.machine.store.cells.size)
    (apart : ∀ h ∈ happenings mode t s, ¬ h.Changes cell) :
    (endState (eval mode t s)).machine.store.cells[cell]? = s.machine.store.cells[cell]? := by
  have is : RunLaw fun s log s' => cell < s.machine.store.cells.size →
      (∀ h ∈ log, ¬ h.Changes cell) →
        s.machine.store.cells.size ≤ s'.machine.store.cells.size ∧
          s'.machine.store.cells[cell]? = s.machine.store.cells[cell]? := by
    refine ⟨?_, ?_, ?_, ?_⟩
    · intro s s' same _ _
      rw [same]
      exact ⟨Nat.le_refl _, rfl⟩
    · intro s₁ s₂ s₃ log log' first second there apart
      obtain ⟨apart, apart'⟩ := List.forall_mem_append.mp apart
      obtain ⟨grows, same⟩ := first there apart
      obtain ⟨grows', same'⟩ := second (Nat.lt_of_lt_of_le there grows) apart'
      exact ⟨Nat.le_trans grows grows', same'.trans same⟩
    · intro r s there apart
      exact r.keeps_cell s there (apart _ (List.mem_singleton.mpr rfl))
    · intro n mode t s log inside there apart
      exact inside there (List.forall_mem_append.mp apart).1
  exact (is.run mode t s there apart).2

/-- What becomes of a call of a built-in that changes lists. -/
theorem changesFirst_of_real (changes : Builtins.changesList b) {span : Option Span}
    {children : List Tree} (fit : (Syntax.Tree.node (.builtin b) span children).Fit)
    {before : State} {ended : EStateM.Result Error State Value}
    (real : (Happening.evaluated (.node (.builtin b) span children) before ended).Real) :
    ∃ args n mode, children = [args] ∧
      ((∃ e s', evalAt n mode args before = .error e s' ∧ ended = .error e s') ∨
        ∃ v given, evalAt n mode args before = .ok v given ∧ Builtins.ChangesFirst b v given ended) := by
  have many : b.arguments = .many := by
    cases b with
    | append | pop | swap => rfl
    | _ => cases changes
  obtain ⟨args, rfl⟩ : ∃ args, children = [args] := by
    rcases fit with ⟨role, formed⟩ | ⟨l, same⟩
    · cases formed with
      | operator binary => simp [Label.binary] at binary
      | constant among => simp [Label.constants] at among
      | builtinMany | builtinOne => exact ⟨_, rfl⟩
      | builtinEmpty takes | builtinNames takes => simp [many] at takes
    · cases same
  obtain ⟨n, mode, rfl⟩ := real
  obtain ⟨mode', same⟩ : ∃ mode', evalAt (n + 1) mode (.node (.builtin b) span [args]) before =
      (evalAt n mode' args >>= fun v => Interp.ofOp (Request.carryOut (.builtin b v))) before := by
    refine ⟨{ mode with debug := mode.debug && !(b = .record || b = .playback : Bool) }, ?_⟩
    change (Eval.task (.node (.builtin b) span [args])).run (evalAt n) mode before = _
    rw [Eval.task_builtin (Or.inl many)]
    change (evalAt n _ args >>= fun v =>
      Interp.ofOp (Request.carryOut (.builtin b v)) >>= fun w => pure w) before = _
    simp only [bind_pure]
  rw [same]
  refine ⟨args, n, mode', rfl, ?_⟩
  simp only [bind, EStateM.bind]
  cases evalAt n mode' args before with
  | error e s' => exact Or.inl ⟨e, s', rfl, rfl⟩
  | ok v given => exact Or.inr ⟨v, given, rfl, Builtins.changesFirst_carryOut changes v given⟩

/-- A list that a request makes of others is a new one. -/
theorem new_of_real {r : Request} {cells : List Nat} (made : r.sources? = some cells) {v : Value}
    {before after : State} (real : (Happening.performed r before (.ok v after)).Real) :
    v = .list before.machine.store.cells.size ∧
      after.machine.store.cells.size = before.machine.store.cells.size + 1 := by
  have ran : Interp.ofOp r.carryOut before = .ok v after := real.symm
  rw [Interp.ofOp_apply] at ran
  rcases done : r.carryOut.run (before.machine.bench, before.console) with
    ⟨w, bench, c⟩ | ⟨e, bench, c⟩ <;> rw [done] at ran <;> cases ran
  obtain ⟨rfl, items, grown⟩ := Request.run_new made done
  refine ⟨rfl, ?_⟩
  change bench.store.cells.size = _
  rw [grown]
  simp [Store.alloc, Machine.bench]

/-- Only three built-ins change lists that are there, and each call of them changes at most the list
that it is passed first. A run of a parsed script in which none of the three is called leaves all
lists as they were. A call of one of them that has got its arguments fails and changes nothing, or
changes the first of them alone. A list that is made by a copy, a shuffle or a sum is none of the
lists that were there, and in any later run each of them stays as it is unless it is itself passed
first to one of the three. -/
theorem lists_change_when_passed {source : String} {t : Tree} (parsed : parse source = .ok t)
    (mode : Mode) {s : State} (scripted : Scripted s) :
    ((∀ h ∈ happenings mode t s, ¬ h.CallsChange) →
      s.machine.store.Extends (endState (eval mode t s)).machine.store) ∧
    (∀ b span children before ended, Builtins.changesList b →
      .evaluated (.node (.builtin b) span children) before ended ∈ happenings mode t s →
      ∃ args n mode', children = [args] ∧
        ((∃ e s', evalAt n mode' args before = .error e s' ∧ ended = .error e s') ∨
          ∃ v given, evalAt n mode' args before = .ok v given ∧
            Builtins.ChangesFirst b v given ended)) ∧
    (∀ r cells before v after, r.sources? = some cells →
      .performed r before (.ok v after) ∈ happenings mode t s →
      ∃ new, v = .list new ∧ before.machine.store.cells.size ≤ new ∧
        new < after.machine.store.cells.size ∧
        ∀ cell, cell = new ∨ cell ∈ cells ∧ cell < before.machine.store.cells.size →
          ∀ mode' t' s', after.machine.store.cells.size ≤ s'.machine.store.cells.size →
            (∀ h ∈ happenings mode' t' s', ¬ h.Changes cell) →
            (endState (eval mode' t' s')).machine.store.cells[cell]? =
              s'.machine.store.cells[cell]?) := by
  have accounts := accounts_recordAt nestingLimit mode (formed_of_parse parsed).fit scripted.blocks
  obtain ⟨fit, -, announced, -, -⟩ := accounts
  rw [record_eval] at fit announced
  refine ⟨?_, ?_, ?_⟩
  · intro none cell there
    refine run_keeps_cell mode t s there fun h member changes => ?_
    obtain _ | ⟨r, before, ended⟩ := h
    · cases changes
    · have asked : r.changesList := by
        cases r with
        | builtin b v => cases ended with
          | ok w s' => exact changes.1
          | error e s' => cases changes
        | _ => cases ended <;> cases changes
      rcases announced r before ended member asked with own | ⟨h, there, calls⟩
      · cases own
      · exact none h there calls
  · intro b span children before ended changes member
    exact changesFirst_of_real changes (fit _ member) (real_of_mem_happenings member)
  · intro r cells before v after made member
    obtain ⟨rfl, size⟩ := new_of_real made (real_of_mem_happenings member)
    refine ⟨_, rfl, Nat.le_refl _, by omega, ?_⟩
    intro cell which mode' t' s' grown apart
    refine run_keeps_cell mode' t' s' ?_ apart
    rcases which with rfl | ⟨-, there⟩ <;> omega

/-- An item is added to the copy of a list. -/
def copiedText : String := "@append(@copy([1]), 2);"

/-- Whether the built-in has just been called. -/
def Happening.calls (b : Builtin) : Happening → Bool
  | .evaluated (.node (.builtin b') _ _) _ _ => b' = b
  | _ => false

/-- The call that adds the item changes the list that it is passed first, if it succeeds. -/
theorem lists_change_when_passed_copied : ∃ t, parse copiedText = .ok t ∧ Scripted {} ∧
    ∃ span args n mode before ended,
      .evaluated (.node (.builtin .append) span [args]) before ended ∈ happenings {} t {} ∧
      ((∃ e s', evalAt n mode args before = .error e s' ∧ ended = .error e s') ∨
        ∃ v given, evalAt n mode args before = .ok v given ∧
          Builtins.ChangesFirst .append v given ended) := by
  obtain ⟨t, parsed, h, member, calls⟩ : ∃ t, parse copiedText = .ok t ∧
      ∃ h ∈ happenings {} t {}, h.calls .append := by decide +kernel
  have scripted : Scripted {} := .start (by simp [CallStack.frames])
  unfold Happening.calls at calls
  split at calls
  next b span children before ended =>
    obtain rfl : b = .append := by simpa using calls
    obtain ⟨-, ends, -⟩ := lists_change_when_passed parsed {} scripted
    obtain ⟨args, n, mode, rfl, outcome⟩ := ends .append span children before ended rfl member
    exact ⟨t, parsed, scripted, span, args, n, mode, before, ended, member, outcome⟩
  next => cases calls

end DeskScript
