import DeskScript.Proofs.History
import Mathlib.Data.List.Forall2

/-!
# Frames of callers

A frame starts from the variables of its caller and can write to the frames of callers only through
the names that it declares outer. An invariant of the frames says where such an alias leads: to what
the name is an alias of in the caller, or to the caller's own variable. It holds at every moment of
every run, and from it follows what a call can do to the frames below it.
-/

namespace DeskScript

variable {stack : CallStack} {free : String → Prop} {x : String} {callers : List Frame} {up : Nat}
  {l l' : List Frame}

/-! ### Tables by names -/

namespace Bindings

variable {free : String → Prop} {b b' : Bindings α}

variable {α : Type}

theorem get?_cons (n x : String) (a : α) (b : Bindings α) :
    get? ((n, a) :: b) x = if x = n then some a else get? b x := by
  by_cases h : x = n
  · subst h
    simp [get?]
  · have : (x == n) = false := by simpa using h
    simp [get?, List.lookup_cons, this, h]

theorem get?_set (b : Bindings α) (x y : String) (a : α) :
    (b.set y a).get? x = if x = y then some a else b.get? x := by
  induction b with
  | nil => exact get?_cons y x a []
  | cons e rest ih =>
    obtain ⟨n, v⟩ := e
    by_cases hn : n = y
    · subst hn
      by_cases hx : x = n <;> simp [set, get?_cons, hx]
    · by_cases hx : x = n
      · subst hx
        simp [set, get?_cons, hn]
      · simp [set, get?_cons, hn, hx, ih]

theorem has_set (b : Bindings α) (x y : String) (a : α) :
    (b.set y a).has x = (decide (x = y) || b.has x) := by
  by_cases h : x = y <;> simp [has, get?_set, h]

theorem has_iff (b : Bindings α) (x : String) : b.has x ↔ ∃ a, b.get? x = some a := by
  simp [has, Option.isSome_iff_exists]

theorem get?_setAll_of_not_mem (b entries : Bindings α) (x : String)
    (other : x ∉ entries.map Prod.fst) : (b.setAll entries).get? x = b.get? x := by
  induction entries generalizing b with
  | nil => rfl
  | cons e rest ih =>
    simp only [List.map_cons, List.mem_cons, not_or] at other
    have step := ih (b.set e.1 e.2) other.2
    simpa [setAll, get?_set, other.1] using step

theorem has_setAll (b entries : Bindings α) (x : String) (h : b.has x) :
    (b.setAll entries).has x := by
  induction entries generalizing b with
  | nil => exact h
  | cons e rest ih => exact ih (b.set e.1 e.2) (by simp [has_set, h])

/-- Two tables with the same names in the same order, and with the same values except where a name
may have got another one. -/
def Kept (free : String → Prop) (b b' : Bindings α) : Prop :=
  List.Forall₂ (fun e e' => e'.1 = e.1 ∧ (e'.2 = e.2 ∨ free e.1)) b b'

theorem Kept.refl (free : String → Prop) (b : Bindings α) : Kept free b b :=
  List.forall₂_same.mpr fun _ _ => ⟨rfl, Or.inl rfl⟩

theorem Kept.trans {a b c : Bindings α} (hab : Kept free a b)
    (hbc : Kept free b c) : Kept free a c := by
  induction hab generalizing c with
  | nil => cases hbc; exact .nil
  | @cons x y _ _ hxy _ ih =>
    cases hbc with
    | @cons _ z _ _ hyz rest =>
      refine .cons ⟨hyz.1.trans hxy.1, ?_⟩ (ih rest)
      rcases hyz.2 with same | may
      · rcases hxy.2 with same' | may'
        · exact Or.inl (same.trans same')
        · exact Or.inr may'
      · exact Or.inr (hxy.1 ▸ may)

theorem Kept.mono {free free' : String → Prop} (more : ∀ x, free x → free' x)
    (h : Kept free b b') : Kept free' b b' :=
  h.imp fun _ _ he => ⟨he.1, he.2.imp_right (more _)⟩

theorem Kept.eq (h : Kept (fun _ => False) b b') : b' = b := by
  induction h with
  | nil => rfl
  | cons he _ ih => rw [ih, Prod.ext he.1 (he.2.resolve_right id)]

/-- A write to a name that is there keeps the names. -/
theorem kept_set (b : Bindings α) (x : String) (a : α) (here : b.has x)
    (may : free x) : Kept free b (b.set x a) := by
  induction b with
  | nil => simp [has, get?] at here
  | cons e rest ih =>
    obtain ⟨n, v⟩ := e
    by_cases hn : n = x
    · subst hn
      simp only [set, if_true]
      exact .cons ⟨rfl, Or.inr may⟩ (Kept.refl free rest)
    · have there : Bindings.has rest x := by
        simpa [has, get?_cons, Ne.symm hn] using here
      simp only [set, hn, if_false]
      exact .cons ⟨rfl, Or.inl rfl⟩ (ih there)

theorem Kept.has (h : Kept free b b') (x : String) :
    b'.has x = b.has x := by
  induction h with
  | nil => rfl
  | @cons e e' _ _ he _ ih =>
    obtain ⟨n, v⟩ := e
    obtain ⟨n', v'⟩ := e'
    obtain ⟨rfl, -⟩ := he
    by_cases hx : x = n'
    · simp [Bindings.has, get?_cons, hx]
    · simpa [Bindings.has, get?_cons, hx] using ih

end Bindings

/-! ### Frames and aliases -/

/-- The frames from the call in progress outwards. -/
def CallStack.frames (stack : CallStack) : List Frame := stack.current :: stack.callers

theorem CallStack.length_frames (stack : CallStack) : stack.frames.length = stack.depth + 1 := rfl

/-- Reads a name in the first of some frames, each of which was called from the next. -/
def readIn (x : String) : List Frame → Option Value
  | [] => none
  | f :: callers => (CallStack.mk f callers).read? x

/-- A frame as it was, but for the values of some names. -/
structure Frame.Kept (free : String → Prop) (f f' : Frame) : Prop where
  functions : f'.functions = f.functions
  outer : f'.outer = f.outer
  vars : Bindings.Kept free f.vars f'.vars

theorem Frame.Kept.refl (free : String → Prop) (f : Frame) : Frame.Kept free f f :=
  ⟨rfl, rfl, .refl free f.vars⟩

theorem Frame.Kept.trans {f g h : Frame} (first : Frame.Kept free f g)
    (second : Frame.Kept free g h) : Frame.Kept free f h :=
  ⟨second.functions.trans first.functions, second.outer.trans first.outer,
    first.vars.trans second.vars⟩

theorem Frame.Kept.mono {free free' : String → Prop} (more : ∀ x, free x → free' x) {f f' : Frame}
    (h : Frame.Kept free f f') : Frame.Kept free' f f' :=
  ⟨h.functions, h.outer, h.vars.mono more⟩

theorem Frame.Kept.eq {f f' : Frame} (h : Frame.Kept (fun _ => False) f f') : f' = f := by
  obtain ⟨vars, functions, outer⟩ := f
  obtain ⟨vars', functions', outer'⟩ := f'
  obtain rfl : vars' = vars := h.vars.eq
  obtain rfl : functions' = functions := h.functions
  obtain rfl : outer' = outer := h.outer
  rfl

/-- Frames one by one as they were, but for the values of some names. -/
abbrev KeptAll (free : String → Prop) : List Frame → List Frame → Prop :=
  List.Forall₂ (Frame.Kept free)

theorem keptAll_refl (free : String → Prop) (l : List Frame) : KeptAll free l l :=
  List.forall₂_same.mpr fun f _ => .refl free f

theorem forall₂_trans {α : Type} {R : α → α → Prop} (trans : ∀ {x y z}, R x y → R y z → R x z)
    {a b c : List α} (hab : List.Forall₂ R a b) (hbc : List.Forall₂ R b c) : List.Forall₂ R a c := by
  induction hab generalizing c with
  | nil => exact hbc
  | cons hxy _ ih =>
    cases hbc with
    | cons hyz rest => exact .cons (trans hxy hyz) (ih rest)

theorem keptAll_trans {a b c : List Frame} (hab : KeptAll free a b)
    (hbc : KeptAll free b c) : KeptAll free a c :=
  forall₂_trans .trans hab hbc

theorem keptAll_eq (h : KeptAll (fun _ => False) l l') : l' = l := by
  induction h with
  | nil => rfl
  | cons hf _ ih => rw [ih, hf.eq]

theorem forall₂_append_left {α β : Type} {R : α → β → Prop} {a b : List α} {c : List β}
    (h : List.Forall₂ R (a ++ b) c) :
    ∃ a' b', c = a' ++ b' ∧ List.Forall₂ R a a' ∧ List.Forall₂ R b b' := by
  induction a generalizing c with
  | nil => exact ⟨[], c, rfl, .nil, h⟩
  | cons x a ih =>
    cases h with
    | @cons _ y _ _ hxy rest =>
      obtain ⟨a', b', rfl, ha, hb⟩ := ih rest
      exact ⟨y :: a', b', rfl, .cons hxy ha, hb⟩

/-- A write to a variable of one of the frames. -/
theorem keptAll_modify {l : List Frame} {f : Frame}
    (v : Value) (there : l[up]? = some f) (here : f.vars.has x) (may : free x) :
    KeptAll free l (l.modify up fun f => { f with vars := f.vars.set x v }) := by
  induction l generalizing up with
  | nil => simp at there
  | cons g rest ih =>
    cases up with
    | zero =>
      obtain rfl : g = f := by simpa using there
      exact .cons ⟨rfl, rfl, Bindings.kept_set _ x v here may⟩ (keptAll_refl free rest)
    | succ up => exact .cons (.refl free g) (ih (by simpa using there))

/-- Where an alias leads: to what the name is an alias of in the caller, or else to the caller's own
variable. -/
def Linked (x : String) (up : Nat) : List Frame → Prop
  | [] => False
  | p :: _ =>
    match p.outer.get? x with
    | some further => up = further + 1
    | none => up = 0 ∧ p.vars.has x

/-- The invariant of frames: every alias leads where it should, and every frame has the names of its
caller. -/
def Scoped : List Frame → Prop
  | [] => True
  | f :: callers =>
    (∀ x up, f.outer.get? x = some up → Linked x up callers) ∧
      (∀ p ∈ callers.head?, ∀ x, p.vars.has x → f.vars.has x) ∧ Scoped callers

theorem Linked.of_kept
    (kept : KeptAll free l l') (h : Linked x up l) : Linked x up l' := by
  cases kept with
  | nil => exact h
  | cons hf _ => simpa only [Linked, hf.outer, hf.vars.has] using h

theorem Scoped.of_kept (kept : KeptAll free l l')
    (h : Scoped l) : Scoped l' := by
  induction kept with
  | nil => trivial
  | @cons f f' callers callers' hf rest ih =>
    obtain ⟨aliases, names, below⟩ := h
    refine ⟨?_, ?_, ih below⟩
    · intro x up declared
      rw [hf.outer] at declared
      exact (aliases x up declared).of_kept rest
    · intro p' hp' x bound
      cases rest with
      | nil => simp at hp'
      | @cons p _ _ _ hp _ =>
        obtain rfl := Option.mem_some.mp hp'
        rw [hp.vars.has] at bound
        rw [hf.vars.has]
        exact names p rfl x bound

theorem Scoped.drop {above below : List Frame} (h : Scoped (above ++ below)) : Scoped below := by
  induction above with
  | nil => exact h
  | cons f above ih => exact ih h.2.2

/-- A name bound in some frame is bound in all the frames called from there. -/
theorem Scoped.bound {f : Frame} (h : Scoped (f :: callers)) {a : Frame}
    (member : a ∈ callers) (here : a.vars.has x) : f.vars.has x := by
  induction callers generalizing f with
  | nil => simp at member
  | cons p rest ih =>
    rcases List.mem_cons.mp member with rfl | deeper
    · exact h.2.1 a rfl x here
    · exact h.2.1 p rfl x (ih h.2.2 deeper)

/-- The frame that an alias leads to binds the name. -/
theorem Scoped.target (h : Scoped callers)
    (linked : Linked x up callers) : ∃ a, callers[up]? = some a ∧ a.vars.has x := by
  induction callers generalizing up with
  | nil => exact linked.elim
  | cons p rest ih =>
    cases hp : p.outer.get? x with
    | none =>
      simp only [Linked, hp] at linked
      obtain ⟨rfl, bound⟩ := linked
      exact ⟨p, rfl, bound⟩
    | some further =>
      simp only [Linked, hp] at linked
      subst linked
      exact ih h.2.2 (h.1 x further hp)

/-! ### The invariant along a run -/

/-- The search for a variable up the chain of callers finds it in the nearest one or nowhere. -/
theorem Scoped.search {p : Frame} (h : Scoped (p :: callers)) (x : String) :
    (p :: callers).findIdx? (·.vars.has x) = if p.vars.has x then some 0 else none := by
  rw [List.findIdx?_cons]
  by_cases bound : p.vars.has x
  · simp [bound]
  · have nowhere : callers.findIdx? (·.vars.has x) = none := by
      rw [List.findIdx?_eq_none_iff]
      intro a member
      by_contra here
      exact bound (h.bound member (by simpa using here))
    simp [bound, nowhere]

theorem Scoped.linked_outerTarget (h : Scoped stack.frames)
    (found : stack.outerTarget? x = some up) : Linked x up stack.callers := by
  obtain ⟨f, callers⟩ := stack
  cases callers with
  | nil => simp [CallStack.outerTarget?] at found
  | cons p rest =>
    cases hp : p.outer.get? x with
    | some further => simpa [CallStack.outerTarget?, Linked, hp, eq_comm] using found
    | none =>
      have search := h.2.2.search x
      simp only [CallStack.outerTarget?, hp, search] at found
      by_cases bound : p.vars.has x
      · simpa [Linked, hp, bound, eq_comm] using found
      · simp [bound] at found

/-- An assignment to a name declared outer keeps the current frame, and the others but for the
value of this name. -/
theorem Scoped.assign_outer (h : Scoped stack.frames) (free : String → Prop)
    (declared : stack.current.outer.get? x = some up) (may : free x)
    (v : Value) : (stack.assign x v).current = stack.current ∧
      KeptAll free stack.callers (stack.assign x v).callers := by
  obtain ⟨a, there, here⟩ := h.2.2.target (h.1 x up declared)
  simp only [CallStack.assign, declared]
  exact ⟨trivial, keptAll_modify v there here may⟩

theorem Scoped.assign (h : Scoped stack.frames) (x : String) (v : Value) :
    Scoped (stack.assign x v).frames := by
  cases hx : stack.current.outer.get? x with
  | none =>
    obtain ⟨aliases, names, below⟩ := h
    simp only [CallStack.assign, hx]
    refine ⟨aliases, fun p hp y bound => ?_, below⟩
    simp only [Bindings.has_set, names p hp y bound, Bool.or_true]
  | some up =>
    obtain ⟨same, kept⟩ := h.assign_outer (fun _ => True) hx trivial v
    refine h.of_kept (.cons ?_ kept)
    exact same ▸ .refl _ _

theorem Scoped.declareOuter (h : Scoped stack.frames) (x : String) :
    Scoped (stack.declareOuter x).frames := by
  cases found : stack.outerTarget? x with
  | none => simpa only [CallStack.declareOuter, found] using h
  | some up =>
    have linked := h.linked_outerTarget found
    obtain ⟨aliases, names, below⟩ := h
    simp only [CallStack.declareOuter, found]
    refine ⟨fun y up' declared => ?_, names, below⟩
    rw [Bindings.get?_set] at declared
    by_cases hy : y = x
    · subst hy
      obtain rfl : up = up' := by simpa using declared
      exact linked
    · exact aliases y up' (by simpa [hy] using declared)

theorem Scoped.enter (h : Scoped stack.frames)
    (parameters : Bindings Value) : Scoped (stack.enter parameters).frames := by
  refine ⟨fun x up declared => ?_, fun p hp x bound => ?_, h⟩
  · simp [CallStack.enter, Bindings.get?] at declared
  · obtain rfl := Option.mem_some.mp hp
    exact Bindings.has_setAll _ parameters x bound

theorem Scoped.leave (h : Scoped stack.frames) :
    Scoped stack.leave.frames := by
  obtain ⟨f, callers⟩ := stack
  cases callers with
  | nil => exact h
  | cons p rest => exact h.2.2

/-- One act keeps the invariant. -/
theorem Scoped.apply (h : Scoped stack.frames) (act : Act) :
    Scoped (act.apply stack).frames := by
  cases act with
  | change c =>
    cases c with
    | assign x v => exact h.assign x v
    | outer x => exact h.declareOuter x
    | define name f => exact h
  | enter parameters => exact h.enter parameters
  | leave => exact h.leave
  | ask | list => exact h

theorem Scoped.replay (h : Scoped stack.frames) (acts : List Act) :
    Scoped (replay stack acts).frames := by
  induction acts generalizing stack with
  | nil => exact h
  | cons act rest ih => exact ih (h.apply act)

theorem Reachable.scoped {s : State} (reachable : Reachable s) : Scoped s.stack.frames := by
  induction reachable with
  | @start s alone plain =>
    simp [CallStack.frames, Scoped, alone, plain, Bindings.get?]
  | run _ mode t ih =>
    rw [endState_eval_stack]
    exact ih.replay _
  | pause _ same ih => rwa [same]

/-- The invariant holds at every moment of every run. -/
theorem Occurs.scoped {acts : List Act} (occurs : Occurs stack acts) :
    Scoped stack.frames := by
  obtain ⟨s, mode, t, before, after, reachable, -, rfl⟩ := occurs
  exact reachable.scoped.replay before

end DeskScript
