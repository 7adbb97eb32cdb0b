import DeskScript.Proofs.Calls

/-!
# Names declared outer

A name that a function declares outer is an alias of its caller's variable as long as the function
runs. The functions that it calls start from its own copy of the variable, though, which stays as it
was before the declaration.
-/

namespace DeskScript

variable {callers : List Frame} {x : String} {stack : CallStack}

/-! ### The alias and its caller -/

/-- Whether a frame knows a name: by a declaration or by a variable of its own. -/
def Visible (x : String) (p : Frame) : Prop := p.outer.has x ∨ p.vars.has x

/-- The first of some frames reads a name from a variable further up, and its caller reads the same
value. -/
def Aliased (x : String) : List Frame → Prop
  | [] => False
  | f :: callers => ∃ up target v, f.outer.get? x = some up ∧ callers[up]? = some target ∧
      target.vars.get? x = some v ∧ readIn x (f :: callers) = some v ∧ readIn x callers = some v

/-- Reading a name declared outer gives the value of the variable that the alias leads to. -/
theorem readIn_outer {f target : Frame} {up : Nat}
    (declared : f.outer.get? x = some up) (there : callers[up]? = some target) {v : Value}
    (value : target.vars.get? x = some v) : readIn x (f :: callers) = some v := by
  simp [readIn, CallStack.read?, declared, there, value]

theorem Scoped.aliased {f : Frame}
    (h : Scoped (f :: callers)) (declared : f.outer.has x) : Aliased x (f :: callers) := by
  obtain ⟨up, declared⟩ := (Bindings.has_iff _ x).mp declared
  have linked := h.1 x up declared
  obtain ⟨target, there, bound⟩ := h.2.2.target linked
  obtain ⟨v, value⟩ := (Bindings.has_iff _ x).mp bound
  refine ⟨up, target, v, declared, there, value, readIn_outer declared there value, ?_⟩
  cases callers with
  | nil => exact linked.elim
  | cons p rest =>
    -- The caller owns the variable, or has declared the name too and is one frame nearer to it.
    cases hp : p.outer.get? x with
    | none =>
      simp only [Linked, hp] at linked
      obtain ⟨rfl, -⟩ := linked
      obtain rfl : p = target := by simpa using there
      simpa [readIn, CallStack.read?, hp] using value
    | some further =>
      simp only [Linked, hp] at linked
      subst linked
      exact readIn_outer hp (by simpa using there) value

/-! ### As long as the function runs -/

/-- The frame with so many frames below it has declared a name outer. -/
def Declares (x : String) (below : Nat) (stack : CallStack) : Prop :=
  ∃ above f callers, stack.frames = above ++ f :: callers ∧ callers.length = below ∧ f.outer.has x

/-- A change of the frames takes back no declaration. -/
theorem Scoped.change_declarations (h : Scoped stack.frames) (c : Change) :
    List.Forall₂ (fun f f' : Frame => ∀ x, f.outer.has x → f'.outer.has x) stack.frames
      (stack.change c).frames := by
  have same : ∀ l : List Frame,
      List.Forall₂ (fun f f' : Frame => ∀ x, f.outer.has x → f'.outer.has x) l l :=
    fun _ => List.forall₂_same.mpr fun _ _ _ => id
  cases c with
  | define name f => exact .cons (fun _ => id) (same _)
  | outer y =>
    cases found : stack.outerTarget? y with
    | none =>
      simp only [CallStack.change, CallStack.declareOuter, found]
      exact same _
    | some up =>
      simp only [CallStack.change, CallStack.declareOuter, found]
      refine .cons (fun x declared => ?_) (same _)
      simp [Bindings.has_set, declared]
  | assign y v =>
    cases hy : stack.current.outer.get? y with
    | none =>
      simp only [CallStack.change, CallStack.assign, hy]
      exact .cons (fun _ => id) (same _)
    | some up =>
      obtain ⟨current, kept⟩ := h.assign_outer (fun _ => True) hy trivial v
      refine .cons (fun x declared => ?_) (kept.imp fun f f' hf x declared => ?_)
      · simpa only [CallStack.change, current] using declared
      · exact hf.outer ▸ declared

/-- One act that does not end the function keeps the declaration. -/
theorem Declares.apply {below : Nat}
    (declares : Declares x below stack) (inv : Scoped stack.frames) (act : Act)
    (alive : below ≤ (act.apply stack).depth) : Declares x below (act.apply stack) := by
  obtain ⟨above, f, callers, parts, length, declared⟩ := declares
  cases act with
  | change c =>
    have changed := inv.change_declarations c
    rw [parts] at changed
    obtain ⟨above', _, parts', -, rest⟩ := forall₂_append_left changed
    cases rest with
    | @cons _ f' _ callers' hf kept =>
      exact ⟨above', f', callers', parts', kept.length_eq ▸ length, hf x declared⟩
  | enter parameters =>
    refine ⟨(stack.enter parameters).current :: above, f, callers, ?_, length, declared⟩
    exact congrArg _ parts
  | leave =>
    obtain ⟨current, others⟩ := stack
    cases others with
    | nil => exact ⟨above, f, callers, parts, length, declared⟩
    | cons p rest =>
      cases above with
      | nil =>
        -- The function itself would end.
        have short : rest.length + 1 = below := by
          simpa [CallStack.frames, ← length] using congrArg List.length parts
        simp only [Act.apply, CallStack.leave, CallStack.depth] at alive
        omega
      | cons g above =>
        refine ⟨above, f, callers, ?_, length, declared⟩
        exact congrArg List.tail parts
  | ask | list => exact ⟨above, f, callers, parts, length, declared⟩

theorem Declares.replay {below : Nat}
    (declares : Declares x below stack) (inv : Scoped stack.frames) (acts : List Act)
    (alive : ∀ earlier, earlier <+: acts → below ≤ (replay stack earlier).depth) :
    Declares x below (DeskScript.replay stack acts) := by
  induction acts generalizing stack with
  | nil => exact declares
  | cons act rest ih =>
    have step := declares.apply inv act
      (alive [act] (List.prefix_cons_inj act |>.mpr List.nil_prefix))
    exact ih step (inv.apply act) fun earlier initial =>
      alive (act :: earlier) (List.prefix_cons_inj act |>.mpr initial)

/-- A declaration of a name that the caller knows takes effect. -/
theorem declares_declareOuter {p : Frame}
    (called : stack.callers = p :: callers) (visible : Visible x p) :
    Declares x stack.depth (stack.declareOuter x) := by
  obtain ⟨up, found⟩ : ∃ up, stack.outerTarget? x = some up := by
    cases hp : p.outer.get? x with
    | some further => exact ⟨further + 1, by simp [CallStack.outerTarget?, called, hp]⟩
    | none =>
      have bound : p.vars.has x := visible.resolve_left (by simp [Bindings.has, hp])
      exact ⟨0, by simp [CallStack.outerTarget?, called, hp, List.findIdx?_cons, bound]⟩
  refine ⟨[], (stack.declareOuter x).current, stack.callers, ?_, rfl, ?_⟩
  · simp [CallStack.frames, CallStack.declareOuter, found]
  · simp [CallStack.declareOuter, found, Bindings.has_set]

/-- A name that the caller does not know is bound nowhere further up. -/
theorem Scoped.unbound {p : Frame} (h : Scoped (p :: callers))
    (hidden : ¬Visible x p) {a : Frame} (member : a ∈ p :: callers) : ¬a.vars.has x := by
  intro bound
  apply hidden
  rcases List.mem_cons.mp member with rfl | member
  · exact Or.inr bound
  · exact Or.inr (h.bound member bound)

/-- A function that declares a name outer which its caller knows reads the caller's value until it
ends, whatever is assigned, and reads it from a variable further up that is there. If the caller does
not know the name, no caller binds it and nothing happens. So the search for the variable goes no
further than the nearest caller. -/
theorem outer_aliases_caller {stack : CallStack} {x : String} {during : List Act} {p : Frame}
    {callers : List Frame} (occurs : Occurs stack (.change (.outer x) :: during))
    (called : stack.callers = p :: callers) :
    (Visible x p →
      (∀ earlier, earlier <+: during →
        stack.depth ≤ (replay (stack.change (.outer x)) earlier).depth) →
      ∃ above now, (replay (stack.change (.outer x)) during).frames = above ++ now ∧
        now.length = stack.frames.length ∧ Aliased x now) ∧
    (¬Visible x p →
      (∀ a ∈ stack.callers, ¬a.vars.has x) ∧ stack.change (.outer x) = stack) ∧
    stack.callers.findIdx? (·.vars.has x) = if p.vars.has x then some 0 else none := by
  have inv := occurs.scoped
  have below : Scoped (p :: callers) := called ▸ inv.2.2
  have search := below.search x
  rw [called]
  refine ⟨fun visible alive => ?_, fun hidden => ⟨fun a => below.unbound hidden, ?_⟩, search⟩
  · have begun := declares_declareOuter called visible
    obtain ⟨above, f, rest, parts, length, declared⟩ :=
      begun.replay (inv.declareOuter x) during alive
    have last := (inv.declareOuter x).replay during
    rw [parts] at last
    refine ⟨above, f :: rest, parts, ?_, last.drop.aliased declared⟩
    simp [CallStack.length_frames, length]
  · have own : p.outer.get? x = none := by
      by_contra outer
      exact hidden (Or.inl (Option.isSome_iff_ne_none.mpr outer))
    have unbound : ¬p.vars.has x := below.unbound hidden List.mem_cons_self
    have nothing : stack.outerTarget? x = none := by
      simp only [CallStack.outerTarget?, called, own, search, unbound]
      rfl
    simp only [CallStack.change, CallStack.declareOuter, nothing]

/-- A function that declares `x` outer and makes it false sees its caller's value while `g` runs. -/
theorem outer_aliases_caller_outerCall :
    let inF := outerStack.enter []
    let during : List Act := [.change (.assign "x" (.int 0)), .enter []]
    Occurs inF (.change (.outer "x") :: during) ∧ inF.callers = [outerStack.current] ∧
      Visible "x" outerStack.current ∧
      ∃ above now, (replay (inF.change (.outer "x")) during).frames = above ++ now ∧
        now.length = inF.frames.length ∧ Aliased "x" now := by
  intro inF during
  have occurs : Occurs inF (.change (.outer "x") :: during) :=
    ⟨_, {}, outerCall, [.enter []], [.leave, .leave], reachable_outerStack, history_outerCall, rfl⟩
  refine ⟨occurs, rfl, Or.inr rfl, (outer_aliases_caller occurs rfl).1 (Or.inr rfl) ?_⟩
  intro earlier initial
  have member := (List.mem_inits _ _).mpr initial
  simp only [during, List.inits, List.map_cons, List.map_nil, List.mem_cons, List.not_mem_nil,
    or_false] at member
  rcases member with rfl | rfl | rfl
  all_goals decide

/-! ### What a callee sees -/

/-- A function that is called reads the caller's own copy of a name. This is what the caller reads,
unless the caller has declared the name outer: then it is what the caller reads exactly if its own
copy is equal to the variable that the alias leads to. Either way the name is known in both or in
none. -/
theorem callee_reads_own_copy {caller : CallStack} {parameters : Bindings Value}
    (occurs : Occurs caller [.enter parameters]) {x : String}
    (other : x ∉ parameters.map Prod.fst) :
    (caller.enter parameters).read? x = caller.current.vars.get? x ∧
    (¬caller.current.outer.has x → (caller.enter parameters).read? x = caller.read? x) ∧
    (caller.current.outer.has x → ∃ up target own v,
      caller.current.outer.get? x = some up ∧ caller.callers[up]? = some target ∧
      caller.current.vars.get? x = some own ∧ target.vars.get? x = some v ∧
      (caller.enter parameters).read? x = some own ∧ caller.read? x = some v ∧
      ((caller.enter parameters).read? x = caller.read? x ↔ own = v)) := by
  have inv := occurs.scoped
  have copy : (caller.enter parameters).read? x = caller.current.vars.get? x :=
    Bindings.get?_setAll_of_not_mem _ parameters x other
  refine ⟨copy, fun undeclared => ?_, fun declared => ?_⟩
  · have own : caller.current.outer.get? x = none := by simpa [Bindings.has] using undeclared
    rw [copy]
    simp only [CallStack.read?, own]
  · obtain ⟨up, target, v, outer, there, value, reads, -⟩ := inv.aliased declared
    have bound : target.vars.has x := (Bindings.has_iff _ x).mpr ⟨v, value⟩
    obtain ⟨own, owned⟩ :=
      (Bindings.has_iff _ x).mp (inv.bound (List.mem_of_getElem? there) bound)
    have sees : caller.read? x = some v := reads
    refine ⟨up, target, own, v, outer, there, owned, value, copy.trans owned, sees, ?_⟩
    rw [copy, owned, sees, Option.some.injEq]

/-- The frames when the function that has made `x` false calls `g`. -/
def beforeG : CallStack :=
  replay outerStack [.enter [], .change (.outer "x"), .change (.assign "x" (.int 0))]

theorem occurs_beforeG : Occurs beforeG [.enter []] :=
  ⟨_, {}, outerCall, [.enter [], .change (.outer "x"), .change (.assign "x" (.int 0))],
    [.leave, .leave], reachable_outerStack, history_outerCall, rfl⟩

/-- The function `g` finds `x` true. -/
theorem callee_reads_own_copy_beforeG :
    Occurs beforeG [.enter []] ∧ "x" ∉ ([] : Bindings Value).map Prod.fst ∧
      (beforeG.enter []).read? "x" = some (.int 1) :=
  ⟨occurs_beforeG, List.not_mem_nil, (callee_reads_own_copy occurs_beforeG List.not_mem_nil).1⟩

/-- Its caller finds it false. So a callee does not always start from what its caller reads. -/
theorem callee_view_differs : ¬∀ (caller : CallStack) (parameters : Bindings Value) (x : String),
    Occurs caller [.enter parameters] → x ∉ parameters.map Prod.fst →
      (caller.enter parameters).read? x = caller.read? x := by
  intro same
  have equal : some (Value.int 1) = some (Value.int 0) :=
    same beforeG [] "x" occurs_beforeG List.not_mem_nil
  simp at equal

end DeskScript
