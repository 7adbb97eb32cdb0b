import DeskScript.Machine
import DeskScript.Proofs.Console

/-!
# How routines end

A routine is followed through its steps from a state on, whatever is typed at the console: what
holds of each of its ends, with its result or its error and with the state that is left, holds of
the end of every run. What the user does in the meantime reaches the desk event by event, so a wait
keeps what each single event keeps.
-/

namespace DeskScript

namespace Routine

variable {σ α β : Type}

/-- All ends of a routine, from a state on, are as they should be. -/
def Ends (post : Except Error α → σ → Prop) : Routine σ α → σ → Prop
  | done a, s => post (.ok a) s
  | fail e, s => post (.error e) s
  | step f next, s => (next (f s).1).Ends post (f s).2
  | say _ _ next, s => next.Ends post s
  | ask _ _ next, s => post (.error .endOfInput) s ∧ ∀ reply, (next reply).Ends post s

/-- What has to hold at the end of a routine for the one after it to end as it should. -/
def Then (f : β → Routine σ α) (post : Except Error α → σ → Prop) : Except Error β → σ → Prop
  | .ok b, s => (f b).Ends post s
  | .error e, s => post (.error e) s

/-- What has to hold only if there is a result. -/
def OnSuccess (post : α → σ → Prop) : Except Error α → σ → Prop
  | .ok a, s => post a s
  | .error _, _ => True

variable {post : Except Error α → σ → Prop} {s : σ} {f : β → Routine σ α} {a : α}

theorem Ends.run {r : Routine σ α} (ends : r.Ends post s) (c : Console) :
    ∃ result s' c', r.run (s, c) = ending result (s', c') ∧ post result s' := by
  induction r generalizing s c with
  | done a => exact ⟨.ok a, s, c, rfl, ends⟩
  | fail e => exact ⟨.error e, s, c, rfl, ends⟩
  | step f next ih => exact ih (f s).1 ends c
  | say speaker t next ih => exact ih ends (c.say speaker t)
  | ask speaker prompt next ih =>
    obtain ⟨replies, printed⟩ := c
    cases replies with
    | nil => exact ⟨.error .endOfInput, s, _, rfl, ends.1⟩
    | cons reply replies => exact ih reply (ends.2 reply) _

theorem Ends.of_run_ok {r : Routine σ α} (ends : r.Ends post s) {c c' : Console} {s' : σ}
    (run : r.run (s, c) = .ok a (s', c')) : post (.ok a) s' := by
  obtain ⟨result, t, console, ended, holds⟩ := ends.run c
  rw [run] at ended
  cases result with
  | error e => cases ended
  | ok b =>
    cases ended
    exact holds

theorem run_bind_ok {x : Routine σ β} {s s' : σ × Console} :
    (x >>= f).run s = .ok a s' ↔ ∃ b s₁, x.run s = .ok b s₁ ∧ (f b).run s₁ = .ok a s' := by
  rw [run_bind]
  cases x.run s with
  | error e s₁ =>
    constructor
    · rintro ⟨⟩
    · rintro ⟨b, s₁, ⟨⟩, -⟩
  | ok b s₁ =>
    constructor
    · exact fun ends => ⟨b, s₁, rfl, ends⟩
    · rintro ⟨b, s₁, ⟨⟩, ends⟩
      exact ends

theorem Ends.mono {weaker : Except Error α → σ → Prop} {r : Routine σ α} (ends : r.Ends post s)
    (implies : ∀ result s, post result s → weaker result s) : r.Ends weaker s := by
  induction r generalizing s with
  | done a => exact implies _ _ ends
  | fail e => exact implies _ _ ends
  | step f next ih => exact ih (f s).1 ends
  | say speaker t next ih => exact ih ends
  | ask speaker prompt next ih =>
    exact ⟨implies _ _ ends.1, fun reply => ih reply (ends.2 reply)⟩

theorem Ends.and {other : Except Error α → σ → Prop} {r : Routine σ α} (ends : r.Ends post s)
    (ends' : r.Ends other s) : r.Ends (fun result s' => post result s' ∧ other result s') s := by
  induction r generalizing s with
  | done a => exact ⟨ends, ends'⟩
  | fail e => exact ⟨ends, ends'⟩
  | step f next ih => exact ih (f s).1 ends ends'
  | say speaker t next ih => exact ih ends ends'
  | ask speaker prompt next ih =>
    exact ⟨⟨ends.1, ends'.1⟩, fun reply => ih reply (ends.2 reply) (ends'.2 reply)⟩

theorem ends_bind {x : Routine σ β} : (x >>= f).Ends post s ↔ x.Ends (Then f post) s := by
  induction x generalizing s with
  | done b => exact Iff.rfl
  | fail e => exact Iff.rfl
  | step g next ih => exact ih (g s).1
  | say speaker t next ih => exact ih
  | ask speaker prompt next ih => exact and_congr Iff.rfl (forall_congr' fun reply => ih reply)

/-- A first routine of whose end nothing has to be known. -/
theorem ends_onSuccess_bind {post : α → σ → Prop} (x : Routine σ β)
    (rest : ∀ b s, (f b).Ends (OnSuccess post) s) : (x >>= f).Ends (OnSuccess post) s := by
  induction x generalizing s with
  | done b => exact rest b s
  | fail e => trivial
  | step g next ih => exact ih (g s).1
  | say speaker t next ih => exact ih
  | ask speaker prompt next ih => exact ⟨trivial, fun reply => ih reply⟩

@[simp]
theorem ends_pure : (pure a : Routine σ α).Ends post s ↔ post (.ok a) s := Iff.rfl

@[simp]
theorem ends_get {post : Except Error σ → σ → Prop} :
    (get : Routine σ σ).Ends post s ↔ post (.ok s) s := Iff.rfl

@[simp]
theorem ends_modify {post : Except Error PUnit → σ → Prop} {f : σ → σ} :
    (modify f : Routine σ PUnit).Ends post s ↔ post (.ok ⟨⟩) (f s) := Iff.rfl

theorem run_lift_ok {x : Except Error α} {s s' : σ × Console} :
    (liftM x : Routine σ α).run s = .ok a s' ↔ x = .ok a ∧ s' = s := by
  cases x with
  | error e =>
    constructor
    · rintro ⟨⟩
    · rintro ⟨⟨⟩, -⟩
  | ok b =>
    constructor
    · rintro ⟨⟩
      exact ⟨rfl, rfl⟩
    · rintro ⟨⟨⟩, rfl⟩
      rfl

@[simp]
theorem ends_lift {x : Except Error α} :
    (liftM x : Routine σ α).Ends post s ↔ post x s := by
  cases x <;> exact Iff.rfl

/-! ### Steps that are not seen at the console -/

/-- A routine goes on from a state as another one does from another state: only steps lie between
them. -/
inductive Reaches : Routine σ α → σ → Routine σ α → σ → Prop
  | here {r : Routine σ α} {s : σ} : Reaches r s r s
  | step {γ : Type} {f : σ → γ × σ} {next : γ → Routine σ α} {s s' : σ} {r : Routine σ α}
      (rest : Reaches (next (f s).1) (f s).2 r s') : Reaches (.step f next) s r s'

namespace Reaches

variable {r r' : Routine σ α} {s' : σ}

theorem trans {r'' : Routine σ α} {s'' : σ} (first : Reaches r s r' s') (second : Reaches r' s' r'' s'') :
    Reaches r s r'' s'' := by
  induction first with
  | here => exact second
  | step _ ih => exact .step (ih second)

theorem run (reaches : Reaches r s r' s') (c : Console) : r.run (s, c) = r'.run (s', c) := by
  induction reaches with
  | here => rfl
  | step _ ih => exact ih

theorem bind {x x' : Routine σ β} (reaches : Reaches x s x' s') (f : β → Routine σ α) :
    Reaches (x >>= f) s (x' >>= f) s' := by
  induction reaches with
  | here => exact .here
  | step _ ih => exact .step ih

theorem rescue (reaches : Reaches r s r' s') (handle : Error → Routine σ α) :
    Reaches (tryCatch r handle) s (tryCatch r' handle) s' := by
  induction reaches with
  | here => exact .here
  | step _ ih => exact .step ih

end Reaches

end Routine

/-- An action of the machine ends as the action on the desk does. -/
theorem Op.ends_ofAction {α : Type} {post : Except Error α → Bench → Prop} {a : Action α}
    {b : Bench} :
    (liftM a : Op α).Ends post b ↔
      a.Ends (fun result desk => post result { b with desk }) b.desk := by
  change (ofAction a).Ends post b ↔ _
  induction a generalizing b with
  | done a => exact Iff.rfl
  | fail e => exact Iff.rfl
  | step f next ih => exact ih (f b.desk).1
  | say speaker t next ih => exact ih
  | ask speaker prompt next ih => exact and_congr Iff.rfl (forall_congr' fun reply => ih reply)

theorem Op.reaches_ofAction {α : Type} {a a' : Action α} {d d' : Desk} (reaches : a.Reaches d a' d')
    (b : Bench) :
    (liftM a : Op α).Reaches { b with desk := d } (liftM a' : Op α) { b with desk := d' } := by
  induction reaches with
  | here => exact .here
  | step _ ih => exact .step ih

theorem Op.run_ofAction_ok {α : Type} {a : Action α} {b b' : Bench} {c c' : Console} {x : α} :
    (liftM a : Op α).run (b, c) = .ok x (b', c') ↔
      ∃ desk, a.run (b.desk, c) = .ok x (desk, c') ∧ b' = { b with desk } := by
  rw [run_ofAction]
  cases a.run (b.desk, c) with
  | error e s =>
    constructor
    · rintro ⟨⟩
    · rintro ⟨desk, ⟨⟩, -⟩
  | ok y s =>
    constructor
    · rintro ⟨⟩
      exact ⟨s.1, rfl, rfl⟩
    · rintro ⟨desk, ⟨⟩, rfl⟩
      rfl

/-! ### The user at the desk -/

namespace Desk

/-- Delivering events up to a time keeps what the delivery of each of them keeps. -/
theorem deliverUntil_keeps (inv : Desk → Prop) {limit : Float}
    (deliver : ∀ (d : Desk) (e : UserEvent) (rest : List UserEvent), e.time ≤ limit →
      inv { d with events := e :: rest } → inv (deliver { d with events := rest } e).2)
    (events : List UserEvent) (d : Desk) (holds : inv { d with events }) :
    inv (deliverUntil limit events d).2 := by
  induction events generalizing d with
  | nil => exact holds
  | cons e rest ih =>
    rw [deliverUntil]
    split
    · rename_i due
      exact ih (d.deliver e).2 (deliver d e rest due holds)
    · exact holds

end Desk

namespace Action

open Routine

variable {post : Except Error Unit → Desk → Prop} {d : Desk}

@[simp]
theorem ends_sayLine {s : String} : (sayLine s).Ends post d ↔ post (.ok ()) d := Iff.rfl

@[simp]
theorem ends_note {act : DeviceAct} :
    (note act).Ends post d ↔ post (.ok ()) { d with acts := d.acts.push act } := Iff.rfl

theorem ends_sayAll {speaker : Speaker} {texts : List String} :
    (texts.forM (sayAs speaker)).Ends post d ↔ post (.ok ()) d := by
  induction texts with
  | nil => exact Iff.rfl
  | cons t texts ih => exact ih

@[simp]
theorem ends_heard {f : Desk → List String × Desk} :
    (heard f).Ends post d ↔ post (.ok ()) (f d).2 := ends_sayAll

theorem ends_deliverNext (out : d.events = [] → post (.error .noMoreEvents) d)
    (next : ∀ e rest, d.events = e :: rest →
      post (.ok ()) (Desk.deliver { d with events := rest } e).2) :
    deliverNext.Ends post d := by
  rw [deliverNext, ends_bind, ends_get, Then]
  split
  · exact out ‹_›
  · exact ends_heard.mpr (next _ _ ‹_›)

/-- Waiting fails before anything has happened, or lets the user go on until the time is over. -/
theorem ends_sleep {seconds : Float} (fails : ∀ e, post (.error e) d)
    (rest : ∀ acts, acts = d.acts ∨ acts = d.acts.push (.sleep seconds) →
      post (.ok ()) { (Desk.deliverUntil (d.clock + seconds) d.events { d with acts }).2 with
        clock := d.clock + seconds }) :
    (sleep seconds).Ends post d := by
  rw [sleep]
  split
  · exact fails _
  · split
    · exact fails _
    · split
      · exact fails _
      · split
        · rw [ends_bind, ends_note, Then, ends_heard]
          exact rest _ (.inr rfl)
        · exact ends_heard.mpr (rest _ (.inl rfl))

end Action

end DeskScript
