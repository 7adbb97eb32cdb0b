import DeskScript.Proofs.Keeping

/-!
# Built-ins that change a list

Three built-ins reach into a list: one adds an item at its end, one removes an item and gives it
back, one exchanges two items. A call of one of them fails and nothing at all changes, or the list
passed first changes as it should, and no other list does. Copies, shuffles and sums of lists go to
a new cell.
-/

namespace DeskScript

open Syntax

namespace Op

variable {α β : Type}

theorem run_lift (x : Except Error α) (s : Bench × Console) : (liftM x : Op α).run s = ending x s := by
  cases x <;> rfl

theorem run_ask (f : Store → Except Error α) (s : Bench × Console) :
    (ask f).run s = ending (f s.1.store) s :=
  run_lift (f s.1.store) s

theorem run_get (s : Bench × Console) : (get : Op Bench).run s = .ok s.1 s := rfl

theorem run_pure (a : α) (s : Bench × Console) : (pure a : Op α).run s = .ok a s := rfl

theorem run_modifyStore (f : Store → Store) (s : Bench × Console) :
    (modifyStore f).run s = .ok () ({ s.1 with store := f s.1.store }, s.2) := rfl

end Op

namespace Builtins

/-- What a call that changes the list in a cell makes of its items: its result, and the items
afterwards. -/
inductive Changed (cell : Nat) (items : Array Value) :
    Builtin → List Argument → Value → Array Value → Prop
  | append {item : Value} :
      Changed cell items .append [.ok (.list cell), .ok item] (.list cell) (items.push item)
  | popLast {item : Value} (last : items.back? = some item) :
      Changed cell items .pop [.ok (.list cell)] item items.pop
  | popAt {index item : Value} {i : Nat} (place : index.toInt = .ok (i : Int))
      (there : items[i]? = some item) :
      Changed cell items .pop [.ok (.list cell), .ok index] item (items.eraseIdxIfInBounds i)
  | swap {first second : Value} {i j : Nat} (place : first.toInt = .ok (i : Int))
      (other : second.toInt = .ok (j : Int)) (inside : i < items.size) (otherInside : j < items.size) :
      Changed cell items .swap [.ok (.list cell), .ok first, .ok second] (.list cell)
        (items.swapIfInBounds i j)

end Builtins

/-- The store with other items in a cell. -/
def Store.put (s : Store) (cell : Nat) (items : Array Value) : Store :=
  { s with cells := s.cells.modify cell fun _ => items }

theorem Store.modify_eq_put (s : Store) (cell : Nat) (f : Array Value → Array Value) :
    { s with cells := s.cells.modify cell f } = s.put cell (f (s.cell cell)) := by
  have same : s.cells.modify cell f = s.cells.modify cell fun _ => f (s.cell cell) := by
    apply Array.ext
    · simp
    · intro i there _
      have inside : i < s.cells.size := by simpa using there
      simp only [Array.getElem_modify]
      split
      · next same => 
        subst same
        simp [Store.cell, inside]
      · rfl
  rw [Store.put, same]

namespace Builtins

variable {args : List Argument} {b : Builtin} {bench : Bench}

/-- A call fails and nothing changes, or it changes the items of the list passed first. -/
def ChangesOne (b : Builtin) (args : List Argument) (bench : Bench) (c : Console)
    (r : EStateM.Result Error (Bench × Console) Value) : Prop :=
  (∃ e, r = .error e (bench, c)) ∨
    ∃ cell v items, Changed cell (bench.store.cell cell) b args v items ∧
      r = .ok v ({ bench with store := bench.store.put cell items }, c)

theorem eraseIdxIfInBounds_last {α : Type} (items : Array α) :
    items.eraseIdxIfInBounds (items.size - 1) = items.pop := by
  apply Array.ext'
  simp only [Array.toList_eraseIdxIfInBounds, Array.toList_pop]
  exact List.eraseIdx_length_sub_one

theorem changesOne_append (target item : Value) (bench : Bench) (c : Console) :
    ChangesOne .append [.ok target, .ok item] bench c ((append target item).run (bench, c)) := by
  cases target with
  | list cell =>
    refine .inr ⟨cell, .list cell, _, .append, ?_⟩
    rw [← Store.modify_eq_put bench.store cell (·.push item)]
    rfl
  | _ => exact .inl ⟨_, rfl⟩

theorem changesOne_swap {target first second : Value} {i j : Int} (place : first.toInt = .ok i)
    (other : second.toInt = .ok j) (bench : Bench) (c : Console) :
    ChangesOne .swap [.ok target, .ok first, .ok second] bench c
      ((swap target i j).run (bench, c)) := by
  cases target with
  | list cell =>
    unfold swap
    simp only [Routine.run_bind, Op.run_get]
    split
    next => exact .inl ⟨_, rfl⟩
    next inside =>
      simp only [Bool.or_eq_true, decide_eq_true_eq, not_or, Int.not_lt, Int.not_le] at inside
      obtain ⟨⟨⟨positive, below⟩, positive'⟩, below'⟩ := inside
      obtain ⟨i, rfl⟩ := Int.eq_ofNat_of_zero_le positive
      obtain ⟨j, rfl⟩ := Int.eq_ofNat_of_zero_le positive'
      refine .inr ⟨cell, .list cell, _, .swap place other (by omega) (by omega), ?_⟩
      rw [← Store.modify_eq_put bench.store cell (·.swapIfInBounds i j)]
      rfl
  | _ => exact .inl ⟨_, rfl⟩

/-- An argument is taken first. -/
theorem changesOne_taken {β : Type} {c : Console} {x : Except Error β} {f : β → Op Value}
    (rest : ∀ a, x = .ok a → ChangesOne b args bench c ((f a).run (bench, c))) :
    ChangesOne b args bench c ((liftM x >>= f).run (bench, c)) := by
  cases x with
  | error e => exact .inl ⟨e, rfl⟩
  | ok a => exact rest a rfl

/-- The end of a removal: an index out of range is refused, and an item in range is removed. -/
theorem changesOne_remove {cell : Nat} {i : Int}
    (matching : ∀ (n : Nat) item, i = (n : Int) → (bench.store.cell cell)[n]? = some item →
      Changed cell (bench.store.cell cell) .pop args item
        ((bench.store.cell cell).eraseIdxIfInBounds n)) (c : Console) :
    ChangesOne .pop args bench c (Routine.run (do
      if i < 0 || ((bench.store.cell cell).size : Int) ≤ i then
        let _ ← (Store.intText i : Except Error String)
        throw (.script (.popRange i (bench.store.cell cell).size))
      let item := (((← get).store.cell cell)[i.toNat]?).getD .null
      Op.modifyStore (·.eraseIdx cell i.toNat)
      return item : Op Value) (bench, c)) := by
  split
  next => exact changesOne_taken fun _ _ => .inl ⟨_, rfl⟩
  next inside =>
    simp only [Bool.or_eq_true, decide_eq_true_eq, not_or, Int.not_lt, Int.not_le] at inside
    obtain ⟨n, rfl⟩ := Int.eq_ofNat_of_zero_le inside.1
    have there : n < (bench.store.cell cell).size := by omega
    refine .inr ⟨cell, _, _, matching n _ rfl (Array.getElem?_eq_getElem there), ?_⟩
    rw [← Store.modify_eq_put bench.store cell (·.eraseIdxIfInBounds n)]
    simp only [Routine.run_bind, Op.run_get, Op.run_modifyStore, Op.run_pure]
    simp [there, Store.eraseIdx]

theorem changesOne_pop (target : Value) (index : Option Argument) (bench : Bench) (c : Console) :
    ChangesOne .pop (.ok target :: index.toList) bench c ((pop target index).run (bench, c)) := by
  cases target with
  | list cell =>
    unfold pop
    simp only [Routine.run_bind, Op.run_get]
    split
    next => exact .inl ⟨_, rfl⟩
    next filled =>
      cases index with
      | none =>
        simp only [Routine.run_bind, Op.run_pure]
        refine changesOne_remove (fun n item same there => ?_) c
        obtain rfl : n = (bench.store.cell cell).size - 1 := by omega
        rw [eraseIdxIfInBounds_last]
        exact .popLast (by rwa [Array.back?_eq_getElem?])
      | some arg =>
        simp only [Routine.run_bind, Op.run_lift]
        cases arg with
        | error e => exact .inl ⟨e, rfl⟩
        | ok index =>
          simp only [ending]
          cases place : index.toInt with
          | error e => exact .inl ⟨e, rfl⟩
          | ok i =>
            refine changesOne_remove (fun n item same there => ?_) c
            exact .popAt (by rw [place, same]) there
  | _ => exact .inl ⟨_, rfl⟩

theorem changesOne_performMany (changes : changesList b = true) (bench : Bench) (c : Console) :
    ChangesOne b args bench c ((performMany b args).run (bench, c)) := by
  cases b with
  | append =>
    match args with
    | [] | [_] | _ :: _ :: _ :: _ => exact .inl ⟨_, rfl⟩
    | [target, item] =>
      refine changesOne_taken fun v taken => ?_
      refine changesOne_taken fun w taken' => ?_
      rw [taken, taken']
      exact changesOne_append v w bench c
  | pop =>
    match args with
    | [] | _ :: _ :: _ :: _ => exact .inl ⟨_, rfl⟩
    | [target] =>
      refine changesOne_taken fun v taken => ?_
      rw [taken]
      exact changesOne_pop v none bench c
    | [target, index] =>
      refine changesOne_taken fun v taken => ?_
      rw [taken]
      exact changesOne_pop v (some index) bench c
  | swap =>
    match args with
    | [] | [_] | [_, _] | _ :: _ :: _ :: _ :: _ => exact .inl ⟨_, rfl⟩
    | [target, first, second] =>
      refine changesOne_taken fun v taken => ?_
      refine changesOne_taken fun w taken' => ?_
      refine changesOne_taken fun i place => ?_
      refine changesOne_taken fun u taken'' => ?_
      refine changesOne_taken fun j other => ?_
      rw [taken, taken', taken'']
      exact changesOne_swap place other bench c
  | _ => simp [changesList] at changes

theorem perform_eq (changes : changesList b = true) (v : Value) :
    perform b v = arguments b v >>= performMany b := by
  cases b with
  | append | pop | swap => rfl
  | _ => simp [changesList] at changes

end Builtins

/-- Carrying out a request that changes a list. -/
theorem Request.run_change {b : Builtin} (changes : Builtins.changesList b = true) (v : Value)
    (bench : Bench) (c : Console) :
    (∃ e, (carryOut (.builtin b v)).run (bench, c) = .error e (bench, c)) ∨
      ∃ args cell w items, Builtins.given b bench.store v = .ok args ∧
        Builtins.Changed cell (bench.store.cell cell) b args w items ∧
        (carryOut (.builtin b v)).run (bench, c) =
          .ok ((bench.store.put cell items).fresh w).1
            ({ bench with store := ((bench.store.put cell items).fresh w).2 }, c) := by
  rw [carryOut, Builtins.perform_eq changes, Builtins.arguments_eq, Routine.run_bind,
    Routine.run_bind, Op.run_ask]
  cases found : Builtins.given b bench.store v with
  | error e => exact .inl ⟨e, rfl⟩
  | ok args =>
    rcases @Builtins.changesOne_performMany args b changes bench c with ⟨e, ran⟩ | ⟨cell, w, items, changed, ran⟩
    · refine .inl ⟨e, ?_⟩
      simp only [ending, ran]
    · refine .inr ⟨args, cell, w, items, rfl, changed, ?_⟩
      simp only [ending, ran]
      rfl

/-- The lists that a request makes a new list of: those that are copied, shuffled or joined. -/
def Request.sources? : Request → Option (List Nat)
  | builtin .copy (.list cell) | builtin .shuffle (.list cell) => some [cell]
  | binary .add (.list first) (.list second) => some [first, second]
  | _ => none

/-- A request that makes a new list of others puts it after all lists that are there. -/
theorem Request.run_new {r : Request} {cells : List Nat} (made : r.sources? = some cells)
    {bench bench' : Bench} {c c' : Console} {v : Value}
    (ran : r.carryOut.run (bench, c) = .ok v (bench', c')) :
    v = .list bench.store.cells.size ∧ ∃ items, bench'.store = (bench.store.alloc items).2 := by
  unfold sources? at made
  split at made
  · cases ran
    exact ⟨rfl, _, rfl⟩
  next cell =>
    -- The items are drawn by an action, which leaves the store alone.
    have shuffled : (Builtins.perform .shuffle (.list cell)).run (bench, c) =
        ((liftM (Chance.shuffle (bench.store.cell cell)) : Op (Array Value)) >>= fun items =>
          Op.newList items.toList).run (bench, c) := rfl
    rw [carryOut, Routine.run_bind, shuffled, Routine.run_bind, Op.run_ofAction] at ran
    rcases drawn : (Chance.shuffle (bench.store.cell cell)).run (bench.desk, c) with
      ⟨items, desk, c''⟩ | ⟨e, desk, c''⟩
    · rw [drawn] at ran
      cases ran
      exact ⟨rfl, _, rfl⟩
    · rw [drawn] at ran
      cases ran
  · cases ran
    exact ⟨rfl, _, rfl⟩
  · cases made

/-- What an operation makes of a state. -/
theorem Interp.ofOp_apply {α : Type} (op : Op α) (s : State) :
    Interp.ofOp op s = match op.run (s.machine.bench, s.console) with
      | .ok v (bench, c) => .ok v (s.put bench c)
      | .error e (bench, c) => .error e (s.put bench c) := by
  obtain ⟨⟨⟨desk, console⟩, store, templates⟩, stack, debugger⟩ := s
  simp only [ofOp, Machine.bench, State.console]
  cases op.run (⟨desk, store, templates⟩, console) <;> rfl

end DeskScript
