import DeskScript.Proofs.History

/-!
# Steps with a log

A step of a run that also tells something on the way. Forgetting what it tells gives back the step,
so a log can be kept of anything without changing the run that it is about.
-/

namespace DeskScript

/-- A step that also tells what happens on the way, one entry after the other. -/
def Logged (ω α : Type) := State → List ω × EStateM.Result Error State α

namespace Logged

variable {ω α β : Type}

/-- The step alone. -/
def forget (x : Logged ω α) : Interp α := fun s => (x s).2

/-- A step that tells nothing. -/
def still (x : Interp α) : Logged ω α := fun s => ([], x s)

/-- One step after the other; an error ends them. -/
def andThen (x : Logged ω α) (f : α → Logged ω β) : Logged ω β := fun s =>
  match x s with
  | (log, .ok a s') => (log ++ (f a s').1, (f a s').2)
  | (log, .error e s') => (log, .error e s')

/-- A step that depends on the state before it. -/
def looking (f : State → Logged ω α) : Logged ω α := fun s => f s s

/-- A step with another one that follows an error. -/
def rescue (x : Logged ω α) (handle : Error → Interp α) : Logged ω α := fun s =>
  match x s with
  | (log, .ok a s') => (log, .ok a s')
  | (log, .error e s') => (log, handle e s')

/-- A step with an entry before it. -/
def noting (entry : State → ω) (x : Logged ω α) : Logged ω α := fun s => (entry s :: (x s).1, (x s).2)

/-- A step in a frame of its own. -/
def inFrame (parameters : Bindings Value) (body : Logged ω Value) : Logged ω Value := fun s =>
  match body { s with stack := s.stack.enter parameters } with
  | (log, .ok v s') => (log, .ok v { s' with stack := s'.stack.leave })
  | (log, .error e s') => (log, .error e { s' with stack := s'.stack.leave })

variable {x : Logged ω α} {f : α → Logged ω β} {handle : Error → Interp α} {s s' : State}
  {log : List ω} {a : α} {e : Error}

theorem andThen_ok (ok : x s = (log, .ok a s')) :
    x.andThen f s = (log ++ (f a s').1, (f a s').2) := by
  simp [andThen, ok]

theorem andThen_error (failed : x s = (log, .error e s')) :
    x.andThen f s = (log, .error e s') := by
  simp [andThen, failed]

theorem rescue_ok (ok : x s = (log, .ok a s')) : x.rescue handle s = (log, .ok a s') := by
  simp [rescue, ok]

theorem rescue_error (failed : x s = (log, .error e s')) :
    x.rescue handle s = (log, handle e s') := by
  simp [rescue, failed]

/-! ### Forgetting the log -/

theorem forget_still (x : Interp α) : (still x : Logged ω α).forget = x := rfl

theorem forget_andThen (x : Logged ω α) (f : α → Logged ω β) :
    (x.andThen f).forget = x.forget >>= fun a => (f a).forget := by
  funext s
  rcases h : x s with ⟨log, a | e⟩ <;> simp [forget, andThen, bind, EStateM.bind, h]

theorem forget_rescue (x : Logged ω α) (handle : Error → Interp α) :
    (x.rescue handle).forget = tryCatch x.forget handle := by
  funext s
  rcases h : x s with ⟨log, a | e⟩ <;>
    simp only [forget, rescue, tryCatch, tryCatchThe, MonadExceptOf.tryCatch, EStateM.tryCatch, h]
  rfl

theorem forget_noting (entry : State → ω) (x : Logged ω α) : (x.noting entry).forget = x.forget := rfl

theorem forget_inFrame (parameters : Bindings Value) (body : Logged ω Value) :
    (body.inFrame parameters).forget = Eval.inFrame parameters body.forget := by
  funext s
  rcases h : body { s with stack := s.stack.enter parameters } with ⟨log, v | e⟩ <;>
    simp [forget, inFrame, Eval.inFrame, Watched.modifyStack_apply, tryFinally, bind, EStateM.bind,
      MonadFinally.tryFinally', Functor.map, EStateM.map, h]

/-! ### What a log shows -/

/-- From a state on, a step tells only what it should, it keeps an invariant however it ends, and its
result is as it should be. -/
structure Shows (entry : ω → Prop) (inv : State → Prop) (post : α → Prop) (x : Logged ω α)
    (s : State) : Prop where
  entries : ∀ m ∈ (x s).1, entry m
  kept : inv (endState (x s).2)
  result : ∀ a s', (x s).2 = .ok a s' → post a

variable {entry : ω → Prop} {inv : State → Prop} {post : α → Prop} {post' : β → Prop}

theorem shows_ok (ran : x s = (log, .ok a s')) (entries : ∀ m ∈ log, entry m) (kept : inv s')
    (result : post a) : Shows entry inv post x s := by
  refine ⟨by rwa [ran], by rwa [ran], fun b s'' same => ?_⟩
  rw [ran] at same
  cases same
  exact result

theorem shows_error (ran : x s = (log, .error e s')) (entries : ∀ m ∈ log, entry m)
    (kept : inv s') : Shows entry inv post x s := by
  refine ⟨by rwa [ran], by rwa [ran], fun b s'' same => ?_⟩
  rw [ran] at same
  cases same

theorem Shows.of_ok (shows : Shows entry inv post x s) (ran : x s = (log, .ok a s')) :
    (∀ m ∈ log, entry m) ∧ inv s' ∧ post a := by
  obtain ⟨entries, kept, result⟩ := shows
  rw [ran] at entries kept result
  exact ⟨entries, kept, result a s' rfl⟩

theorem Shows.of_error (shows : Shows entry inv post x s) (ran : x s = (log, .error e s')) :
    (∀ m ∈ log, entry m) ∧ inv s' := by
  obtain ⟨entries, kept, -⟩ := shows
  rw [ran] at entries kept
  exact ⟨entries, kept⟩

theorem shows_still {x : Interp α} (kept : inv (endState (x s)))
    (result : ∀ a s', x s = .ok a s' → post a) : Shows entry inv post (still x) s :=
  ⟨by simp [still], kept, result⟩

theorem shows_andThen (first : Shows entry inv post x s)
    (rest : ∀ a s', (x s).2 = .ok a s' → inv s' → post a → Shows entry inv post' (f a) s') :
    Shows entry inv post' (x.andThen f) s := by
  rcases ran : x s with ⟨log, ⟨a, s'⟩ | ⟨e, s'⟩⟩
  · obtain ⟨entries, kept, result⟩ := first.of_ok ran
    have later := rest a s' (by rw [ran]) kept result
    have same := andThen_ok (f := f) ran
    refine ⟨fun m member => ?_, by rw [same]; exact later.kept, by rw [same]; exact later.result⟩
    rw [same] at member
    rcases List.mem_append.mp member with member | member
    · exact entries m member
    · exact later.entries m member
  · obtain ⟨entries, kept⟩ := first.of_error ran
    exact shows_error (andThen_error ran) entries kept

theorem shows_noting {note : State → ω} (isEntry : entry (note s)) (shows : Shows entry inv post x s) :
    Shows entry inv post (x.noting note) s :=
  ⟨List.forall_mem_cons.mpr ⟨isEntry, shows.entries⟩, shows.kept, shows.result⟩

/-- A log is part of another: then so are the logs of its steps. -/
theorem subset_andThen {all : List ω} (part : (x.andThen f s).1 ⊆ all) :
    (x s).1 ⊆ all ∧ ∀ a s', (x s).2 = .ok a s' → (f a s').1 ⊆ all := by
  rcases ran : x s with ⟨log, a | e⟩
  · rw [andThen_ok ran] at part
    obtain ⟨first, second⟩ := List.append_subset.mp part
    exact ⟨first, by rintro _ _ ⟨⟩; exact second⟩
  · rw [andThen_error ran] at part
    exact ⟨part, fun a s' ok => by cases ok⟩

end Logged

end DeskScript
