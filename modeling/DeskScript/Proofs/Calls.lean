import DeskScript.Proofs.Scope
import Mathlib.Data.List.Infix

/-!
# Calls

A call keeps the frames below it: it can give new values to their variables, and only to those whose
names are declared outer while it lasts. The argument is carried act by act from the beginning of
the call to its end, through all the calls that it makes in turn.
-/

namespace DeskScript

open Syntax

/-- The frames have declared outer only names that are free to change. -/
def DeclareOnly (free : String → Prop) (l : List Frame) : Prop :=
  ∀ f ∈ l, ∀ x, f.outer.has x → free x

theorem DeclareOnly.of_kept {free : String → Prop} {l l' : List Frame}
    (declared : DeclareOnly free l) (kept : KeptAll free l l') : DeclareOnly free l' := by
  induction kept with
  | nil => exact declared
  | @cons f f' _ _ hf _ ih =>
    have rest := ih fun g member => declared g (List.mem_cons_of_mem f member)
    intro g member x outer
    rcases List.mem_cons.mp member with rfl | member
    · exact declared f List.mem_cons_self x (hf.outer ▸ outer)
    · exact rest g member x outer

/-- Some frames lie on others that are kept. -/
def Covers (free : String → Prop) (base : List Frame) (stack : CallStack) : Prop :=
  ∃ above kept, stack.frames = above ++ kept ∧ KeptAll free base kept ∧ DeclareOnly free above

/-- The frame of the call in progress lies on the frames that are kept, and others may lie between
them. -/
def OnTop (free : String → Prop) (base : List Frame) (stack : CallStack) : Prop :=
  ∃ above kept, stack.callers = above ++ kept ∧ KeptAll free base kept ∧
    DeclareOnly free (stack.current :: above)

section Covers

variable {free : String → Prop} {base : List Frame} {stack : CallStack}

theorem OnTop.covers (top : OnTop free base stack) : Covers free base stack := by
  obtain ⟨above, kept, parts, same, declared⟩ := top
  exact ⟨stack.current :: above, kept, by simp [CallStack.frames, parts], same, declared⟩

theorem Covers.onTop (covers : Covers free base stack)
    (deeper : base.length < stack.frames.length) : OnTop free base stack := by
  obtain ⟨above, kept, parts, same, declared⟩ := covers
  cases above with
  | nil =>
    have equal := same.length_eq
    rw [parts, List.nil_append] at deeper
    omega
  | cons f above =>
    obtain ⟨rfl, below⟩ : stack.current = f ∧ stack.callers = above ++ kept := by
      simpa [CallStack.frames] using parts
    exact ⟨above, kept, below, same, declared⟩

theorem OnTop.assign (top : OnTop free base stack) (inv : Scoped stack.frames) (x : String)
    (v : Value) : OnTop free base (stack.assign x v) := by
  obtain ⟨above, kept, parts, same, declared⟩ := top
  cases hx : stack.current.outer.get? x with
  | none =>
    refine ⟨above, kept, by simpa only [CallStack.assign, hx] using parts, same, ?_⟩
    have own := declared stack.current List.mem_cons_self
    intro f member y outer
    rcases List.mem_cons.mp member with rfl | member
    · exact own y (by simpa only [CallStack.assign, hx] using outer)
    · exact declared f (List.mem_cons_of_mem _ member) y outer
  | some up =>
    have may : free x :=
      declared stack.current List.mem_cons_self x ((Bindings.has_iff _ x).mpr ⟨up, hx⟩)
    -- The variable may lie in a frame of the call or in one below it.
    obtain ⟨current, written⟩ := inv.assign_outer free hx may v
    rw [parts] at written
    obtain ⟨above', kept', parts', same₁, same₂⟩ := forall₂_append_left written
    refine ⟨above', kept', parts', keptAll_trans same same₂, ?_⟩
    rw [current]
    exact declared.of_kept (.cons (.refl free stack.current) same₁)

theorem OnTop.declareOuter (top : OnTop free base stack) (x : String) (may : free x) :
    OnTop free base (stack.declareOuter x) := by
  obtain ⟨above, kept, parts, same, declared⟩ := top
  cases found : stack.outerTarget? x with
  | none =>
    simp only [CallStack.declareOuter, found]
    exact ⟨above, kept, parts, same, declared⟩
  | some up =>
    simp only [CallStack.declareOuter, found]
    refine ⟨above, kept, parts, same, ?_⟩
    intro f member y outer
    rcases List.mem_cons.mp member with rfl | member
    · rw [Bindings.has_set, Bool.or_eq_true, decide_eq_true_eq] at outer
      rcases outer with rfl | outer
      · exact may
      · exact declared stack.current List.mem_cons_self y outer
    · exact declared f (List.mem_cons_of_mem _ member) y outer

theorem OnTop.define (top : OnTop free base stack) (name : String) (f : Function) :
    OnTop free base (stack.define name f) := by
  obtain ⟨above, kept, parts, same, declared⟩ := top
  refine ⟨above, kept, parts, same, fun g member => ?_⟩
  rcases List.mem_cons.mp member with rfl | member
  · exact declared stack.current List.mem_cons_self
  · exact declared g (List.mem_cons_of_mem _ member)

theorem OnTop.enter (top : OnTop free base stack) (parameters : Bindings Value) :
    OnTop free base (stack.enter parameters) := by
  obtain ⟨above, kept, parts, same, declared⟩ := top
  refine ⟨stack.current :: above, kept, by simp [CallStack.enter, parts], same, ?_⟩
  intro f member x outer
  rcases List.mem_cons.mp member with rfl | member
  · simp [CallStack.enter, Bindings.has, Bindings.get?] at outer
  · exact declared f member x outer

theorem OnTop.leave (top : OnTop free base stack) : Covers free base stack.leave := by
  obtain ⟨above, kept, parts, same, declared⟩ := top
  obtain ⟨f, callers⟩ := stack
  cases callers with
  | nil => exact OnTop.covers ⟨above, kept, parts, same, declared⟩
  | cons p rest =>
    exact ⟨above, kept, parts, same, fun f member => declared f (List.mem_cons_of_mem _ member)⟩

/-- One act of a call keeps the frames below it, but for names that the call has declared outer. -/
theorem OnTop.apply (top : OnTop free base stack) (inv : Scoped stack.frames) (act : Act)
    (may : ∀ x, act = .change (.outer x) → free x) : Covers free base (act.apply stack) := by
  cases act with
  | change c =>
    cases c with
    | assign x v => exact (top.assign inv x v).covers
    | outer x => exact (top.declareOuter x (may x rfl)).covers
    | define name f => exact (top.define name f).covers
  | enter parameters => exact (top.enter parameters).covers
  | leave => exact top.leave
  | ask | list => exact top.covers

/-- So do all of its acts together. -/
theorem Covers.replay (covers : Covers free base stack) (inv : Scoped stack.frames)
    (acts : List Act) (may : ∀ x, .change (.outer x) ∈ acts → free x)
    (deeper : ∀ earlier, earlier <+: acts → earlier ≠ acts →
      base.length < (DeskScript.replay stack earlier).frames.length) :
    Covers free base (DeskScript.replay stack acts) := by
  induction acts generalizing stack with
  | nil => exact covers
  | cons act rest ih =>
    -- The call is not over yet, so its frame, and not one that is kept, is the one in progress.
    have top := covers.onTop (deeper [] List.nil_prefix (by simp))
    refine ih (top.apply inv act fun x h => may x (by simp [h])) (inv.apply act)
      (fun x member => may x (List.mem_cons_of_mem act member)) fun earlier initial shorter => ?_
    exact deeper (act :: earlier) (List.prefix_cons_inj act |>.mpr initial)
      (by simpa using shorter)

end Covers

/-- The call with these parameters is not over before the last of the acts that follow. -/
def Ongoing (caller : CallStack) (parameters : Bindings Value) (during : List Act) : Prop :=
  ∀ earlier, earlier <+: during → earlier ≠ during →
    caller.depth < (replay (caller.enter parameters) earlier).depth

/-- From its beginning to its end a call keeps every frame that was there before: its functions, its
names and what it has declared outer, and the value of every variable but those whose name has been
declared outer during the call. -/
theorem call_keeps_frames {caller : CallStack} {parameters : Bindings Value} {during : List Act}
    (occurs : Occurs caller (.enter parameters :: during))
    (ongoing : Ongoing caller parameters during) :
    ∃ above kept, (replay (caller.enter parameters) during).frames = above ++ kept ∧
      KeptAll (fun x => .change (.outer x) ∈ during) caller.frames kept ∧
      ((∀ x, .change (.outer x) ∉ during) → kept = caller.frames) := by
  have inv := occurs.scoped
  have begun : Covers (fun x => .change (.outer x) ∈ during) caller.frames
      (caller.enter parameters) := by
    refine ⟨[(caller.enter parameters).current], caller.frames, rfl, keptAll_refl _ _, ?_⟩
    intro f member x outer
    obtain rfl := List.mem_singleton.mp member
    simp [CallStack.enter, Bindings.has, Bindings.get?] at outer
  obtain ⟨above, kept, parts, same, -⟩ :=
    begun.replay (inv.enter parameters) during (fun _ h => h) fun earlier initial shorter => by
      have := ongoing earlier initial shorter
      simp only [CallStack.length_frames]
      omega
  refine ⟨above, kept, parts, same, fun none => keptAll_eq (same.imp fun f f' hf => ?_)⟩
  exact hf.mono none

/-! ### A function that declares a name outer -/

/-- A word of a script. -/
def word (name : String) : Tree := .leaf ⟨.name, name, none⟩

/-- The body of a function that declares `x` outer, makes it false and calls `g`. -/
def outerBody : Tree :=
  .node .block none
    [.node .outer none [word "x"], .node .store none [word "x", .node .no none []],
      .node .call none [word "g"]]

/-- One frame with a true variable, that function and a function `g` that reads the variable. -/
def outerStack : CallStack :=
  { current :=
      { vars := [("x", .int 1)]
        functions := [("f", ⟨[], outerBody⟩), ("g", ⟨[], .node .block none [word "x"]⟩)] } }

/-- A call of the function. -/
def outerCall : Tree := .node .call none [word "f"]

theorem history_outerCall : history {} outerCall { stack := outerStack } =
    [.enter [], .change (.outer "x"), .change (.assign "x" (.int 0)), .enter [], .leave,
      .leave] := rfl

theorem reachable_outerStack : Reachable { stack := outerStack } := .start rfl rfl

/-- The call of the function, from its first act to its last, gives `x` another value. -/
theorem call_keeps_frames_outerCall :
    let during : List Act := [.change (.outer "x"), .change (.assign "x" (.int 0)), .enter [],
      .leave, .leave]
    Occurs outerStack (.enter [] :: during) ∧ Ongoing outerStack [] during ∧
      ∃ above kept, (replay (outerStack.enter []) during).frames = above ++ kept ∧
        KeptAll (fun x => .change (.outer x) ∈ during) outerStack.frames kept ∧
        ((∀ x, .change (.outer x) ∉ during) → kept = outerStack.frames) := by
  intro during
  have occurs : Occurs outerStack (.enter [] :: during) :=
    ⟨_, {}, outerCall, [], [], reachable_outerStack, history_outerCall, rfl⟩
  have ongoing : Ongoing outerStack [] during := by
    intro earlier initial shorter
    have member := (List.mem_inits _ _).mpr initial
    simp only [during, List.inits, List.map_cons, List.map_nil, List.mem_cons, List.not_mem_nil,
      or_false] at member
    rcases member with rfl | rfl | rfl | rfl | rfl | rfl
    all_goals first | decide | exact absurd rfl shorter
  exact ⟨occurs, ongoing, call_keeps_frames occurs ongoing⟩

end DeskScript
