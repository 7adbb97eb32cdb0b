import DeskScript.Proofs.Placed

/-!
# What well-placed scripts ask for

A well-placed tree asks for requests about free values only, it evaluates and calls well-placed trees
only, and it changes the frames in no other way than it may. Its value is free unless it is a signal
that may be sent from the tree, and such a signal is one that the tree sends itself or the value of
one of its parts.
-/

namespace DeskScript

open Syntax

variable {t : Tree}

namespace Task

variable {α β : Type}

/-- A task that asks for nothing that has to do with banned signals, and whose result is as it should
be. The values of trees that it gets are those that came of them. -/
def Tame (banned : SignalKind → Bool) (came : Tree → Value → Prop) (post : α → Prop) :
    Task α → Prop
  | done a => post a
  | fail _ => True
  | perform r next => r.Free banned ∧ ∀ v, r.Answered banned v → (next v).Tame banned came post
  | look next => ∀ store stack, store.Free banned → stack.Clean banned →
    (next store stack).Tame banned came post
  | change c next => c.Clean banned ∧ next.Tame banned came post
  | check _ next => next.Tame banned came post
  | evaluate _ t next => ∃ opened, t.placed banned opened ∧
    ∀ v, v.Allowed banned opened → came t v → (next v).Tame banned came post
  | call parameters body next => (∀ e ∈ parameters, e.2.Free banned) ∧
    ∃ opened, body.placed banned opened ∧
      ∀ v, v.Allowed banned opened → (next v).Tame banned came post

variable {banned opened : SignalKind → Bool} {came : Tree → Value → Prop} {post : α → Prop}

theorem tame_bind {mid : α → Prop} {post : β → Prop} {task : Task α} {f : α → Task β}
    (first : task.Tame banned came mid) (rest : ∀ a, mid a → (f a).Tame banned came post) :
    (task >>= f).Tame banned came post := by
  induction task with
  | done a => exact rest a first
  | fail e => trivial
  | perform r next ih => exact ⟨first.1, fun v answered => ih v (first.2 v answered)⟩
  | look next ih =>
    exact fun store stack free clean => ih store stack (first store stack free clean)
  | change c next ih => exact ⟨first.1, ih first.2⟩
  | check t next ih => exact ih first
  | evaluate quiet t next ih =>
    obtain ⟨opened, placed, later⟩ := first
    exact ⟨opened, placed, fun v allowed isIts => ih v (later v allowed isIts)⟩
  | call parameters body next ih =>
    obtain ⟨free, opened, placed, later⟩ := first
    exact ⟨free, opened, placed, fun v allowed => ih v (later v allowed)⟩

theorem Tame.mono {weaker : α → Prop} {task : Task α} (tame : task.Tame banned came post)
    (implies : ∀ a, post a → weaker a) : task.Tame banned came weaker := by
  induction task with
  | done a => exact implies a tame
  | fail e => trivial
  | perform r next ih => exact ⟨tame.1, fun v answered => ih v (tame.2 v answered)⟩
  | look next ih => exact fun store stack free clean => ih store stack (tame store stack free clean)
  | change c next ih => exact ⟨tame.1, ih tame.2⟩
  | check t next ih => exact ih tame
  | evaluate quiet t next ih =>
    obtain ⟨opened, placed, later⟩ := tame
    exact ⟨opened, placed, fun v allowed isIts => ih v (later v allowed isIts)⟩
  | call parameters body next ih =>
    obtain ⟨free, opened, placed, later⟩ := tame
    exact ⟨free, opened, placed, fun v allowed => ih v (later v allowed)⟩

theorem tame_value (placed : t.placed banned opened) (quiet : Bool) :
    (value t quiet).Tame banned came fun v => v.Allowed banned opened ∧ came t v :=
  ⟨opened, placed, fun _ allowed isIts => ⟨allowed, isIts⟩⟩

theorem tame_asks {r : Request} {post : Value → Prop} (free : r.Free banned)
    (gives : ∀ v, r.Answered banned v → post v) : (request r).Tame banned came post := ⟨free, gives⟩

theorem tame_passes {quiet : Bool} {post : Value → Prop} (placed : t.placed banned opened)
    (gives : ∀ v, v.Allowed banned opened ∧ came t v → post v) :
    (value t quiet).Tame banned came post :=
  ⟨opened, placed, fun v allowed isIts => gives v ⟨allowed, isIts⟩⟩

/-- A task whose result holds no banned signal either. -/
def Clean [Contents α] (banned : SignalKind → Bool) (came : Tree → Value → Prop) (task : Task α) : Prop :=
  task.Tame banned came (Contents.Free banned)

/-- What comes of a clean task can be worked with. -/
theorem Clean.andThen [Contents β] {task : Task β} {f : β → Task α} {post : α → Prop} (first : task.Clean banned came)
    (rest : ∀ b, Contents.Free banned b → (f b).Tame banned came post) :
    (task >>= f).Tame banned came post :=
  tame_bind first rest

variable [Contents α]

@[grind ←] theorem Clean.bind [Contents β] {task : Task β} {f : β → Task α} (first : task.Clean banned came)
    (rest : ∀ b, Contents.Free banned b → (f b).Clean banned came) : (task >>= f).Clean banned came :=
  tame_bind first rest

@[grind =] theorem clean_pure (a : α) : (pure a : Task α).Clean banned came ↔ Contents.Free banned a := .rfl

@[grind ←] theorem clean_fail (e : Error) : (fail e : Task α).Clean banned came := trivial

@[grind ←] theorem clean_lift {x : Except Error α} (free : Contents.Free banned x) :
    (liftM x : Task α).Clean banned came := by
  cases x with
  | error e => trivial
  | ok a => exact free a rfl

@[grind ←] theorem clean_request {r : Request} (free : r.Free banned)
    (plain : ∀ v, r.Answered banned v → v.Free banned) : (request r).Clean banned came := ⟨free, plain⟩

/-- A tree that is computed with has a free value. -/
@[grind ←] theorem clean_value (placed : t.placed banned (closed banned)) (quiet : Bool) :
    (value t quiet).Clean banned came :=
  tame_passes placed fun _ gives => gives.1.closed_free

@[grind ←] theorem clean_changed {c : Change} (clean : c.Clean banned) : (changed c).Clean banned came :=
  ⟨clean, trivial⟩

@[grind ←] theorem clean_truth (v : Value) : (truth v).Clean banned came := fun _ _ _ _ => trivial

@[grind ←] theorem clean_mapM {items : List β} {f : β → Task α} (each : ∀ b ∈ items, (f b).Clean banned came) :
    (items.mapM f).Clean banned came :=
  mapM_keeps (fun _ all => all) fun b member _ rest => Clean.bind (each b member) rest

theorem tame_store : store.Tame banned came (Store.Free banned) := fun _ _ free _ => free

theorem tame_stack : stack.Tame banned came (CallStack.Clean banned) := fun _ _ _ clean => clean

end Task

namespace Eval

variable {banned opened : SignalKind → Bool} {came : Tree → Value → Prop} {children : List Tree}
  {label : Label} {v : Value}

/-- What a node with a label makes of itself, whatever it is part of. -/
def Outcome (banned : SignalKind → Bool) : Label → Value → Prop
  | .loop, v => v = .int 0 ∨ ∃ id payload, v = .signal id .giveBack payload
  | .builtin .foreachTick, v => v = .null
  | .call, v => v.Free banned
  | _, _ => True

/-- What is known of the value of a node. -/
structure Given (banned opened : SignalKind → Bool) (came : Tree → Value → Prop) (label : Label)
    (children : List Tree) (v : Value) : Prop where
  allowed : v.Allowed banned opened
  outcome : Outcome banned label v
  /-- A banned signal is sent by the node itself, or it comes from a part. -/
  source : v.Free banned ∨ (∃ id kind payload, label.sends? = some kind ∧
    v = .signal id kind payload) ∨ label ≠ .define ∧ ∃ t ∈ children, came t v

theorem given_free (outcome : Outcome banned label v) (free : v.Free banned) :
    Given banned opened came label children v :=
  ⟨Or.inl free, outcome, Or.inl free⟩

/-- A value that is passed on from a part. -/
theorem given_passed (outcome : Outcome banned label v) (inside : label ≠ .define)
    (member : t ∈ children) (gives : v.Allowed banned opened ∧ came t v) :
    Given banned opened came label children v :=
  ⟨gives.1, outcome, Or.inr (Or.inr ⟨inside, t, member, gives.2⟩)⟩

theorem clean_leaf (l : Leaf) : (leaf l).Clean banned came := by
  have read : (readVariable l.text).Clean banned came := by
    refine Task.tame_bind Task.tame_stack fun stack clean => ?_
    cases found : stack.read? l.text with
    | none => trivial
    | some v => exact clean.read? found
  unfold leaf
  grind [number_atom, Request.Free, Request.Answered]

@[grind ←] theorem clean_strange {α : Type} [Contents α] : (strange : Task α).Clean banned came := trivial

theorem tame_block {trees : List Tree} (placed : ∀ t ∈ trees, t.placed banned opened) {last : Value}
    (free : last.Free banned) : (block last trees).Tame banned came fun v =>
      v.Free banned ∨ ∃ t ∈ trees, v.Allowed banned opened ∧ came t v := by
  induction trees generalizing last with
  | nil => exact Or.inl free
  | cons t rest ih =>
    refine ⟨opened, placed t List.mem_cons_self, fun v allowed isIts => ?_⟩
    change (if isSignal v then pure v else block v rest : Task Value).Tame banned came _
    split
    · exact Or.inr ⟨t, List.mem_cons_self, allowed, isIts⟩
    next none =>
      have isFree := allowed.free_of_isSignal (Bool.eq_false_iff.mpr none)
      refine (ih (fun t member => placed t (List.mem_cons_of_mem _ member)) isFree).mono ?_
      exact fun w => Or.imp_right fun ⟨t', there, gives⟩ => ⟨t', List.mem_cons_of_mem _ there, gives⟩

theorem free_spread {s : Store} (inv : s.Free banned) {values : List Value}
    (free : ∀ v ∈ values, v.Free banned) : ∀ v ∈ spread s values, v.Free banned := by
  intro v member
  obtain ⟨w, there, inside⟩ := List.mem_flatMap.mp member
  have isFree := free w there
  split at inside
  · exact Value.free_tuple_iff.mp isFree v inside
  · exact inv.get _ v inside
  · exact List.mem_singleton.mp inside ▸ isFree

@[grind ←] theorem clean_assign (names : List String) {values : List Value}
    (free : ∀ v ∈ values, v.Free banned) : (assign names values).Clean banned came := by
  have all : ∀ entries : List (String × Value), (∀ e ∈ entries, e.2.Free banned) →
      (assignAll entries).Clean banned came := by
    intro entries free
    induction entries with
    | nil => trivial
    | cons e rest ih =>
      exact ⟨free e List.mem_cons_self, ih fun e member => free e (List.mem_cons_of_mem _ member)⟩
  refine Task.tame_bind Task.tame_store fun s inv => ?_
  have gives : Contents.Free banned (assigned s names values) := by
    intro vs ok
    unfold assigned at ok
    split at ok
    · simp only at ok
      split at ok <;> cases ok
      exact free_spread inv free
    · split at ok <;> cases ok
      exact free
  refine Task.Clean.bind (Task.clean_lift gives) fun vs inside => all _ fun e member => ?_
  exact inside e.2 (List.of_mem_zip member).2

theorem clean_define (name : String) {rest : List Tree}
    (placed : ∀ t ∈ rest, t.placed banned (inFunction banned)) : (define name rest).Clean banned came := by
  unfold define
  split
  next => trivial
  next parameters body found =>
    exact ⟨placed body (definition_body found), .atom rfl⟩

theorem tame_function (name : String) (missing : ScriptFault) :
    (function name missing).Tame banned came fun f => f.body.placed banned (inFunction banned) := by
  refine Task.tame_bind Task.tame_stack fun stack clean => ?_
  cases found : stack.current.functions.get? name with
  | none => trivial
  | some f => exact clean.current.2 (name, f) (Bindings.mem_of_get? found)

/-- A call opens the only banned signal that a function may send. -/
theorem free_result {s : Store} (inv : s.Free banned)
    (allowed : v.Allowed banned (inFunction banned)) : (result s v).Free banned := by
  unfold result
  split
  next id payload =>
    have carried : payload.Free banned := by
      rcases allowed with free | ⟨_, _, _, same, -, free⟩
      · exact (Value.free_signal_iff.mp free).2
      · cases same
        exact free
    split
    next item only => exact inv.carried carried item (by simp [only])
    next => exact carried
  next => exact .atom rfl
  next other _ =>
    rcases allowed with free | ⟨id, kind, payload, rfl, isOpen, free⟩
    · exact free
    · cases kind with
      | giveBack => exact absurd rfl (other id payload)
      | breakLoop | continueLoop => exact .signal (by simpa [inFunction, closed] using isOpen) free

theorem clean_call (name : String) {args : List Value} (free : ∀ v ∈ args, v.Free banned) :
    (call name args).Clean banned came := by
  refine Task.tame_bind (tame_function name _) fun f placed => ?_
  split
  · trivial
  · refine ⟨fun e member => free e.2 (List.of_mem_zip member).2, _, placed, fun v allowed => ?_⟩
    exact fun s _ inv _ => free_result inv allowed

theorem clean_argumentValues {args : Option Tree}
    (placed : ∀ t ∈ args, t.placed banned (closed banned)) : (argumentValues args).Clean banned came := by
  cases args with
  | none => exact nofun
  | some t =>
    refine Task.Clean.bind (Task.clean_value (placed t rfl) false) fun v free => ?_
    refine Task.tame_bind Task.tame_store fun s inv => ?_
    cases found : s.items? v with
    | none => exact nofun
    | some items => exact inv.items? free found

theorem tame_repeatUntil {α : Type} {post : α → Prop} {body : Task (Option α)}
    (tame : body.Tame banned came fun r => ∀ a, r = some a → post a) (n : Nat) :
    (repeatUntil body n).Tame banned came post := by
  induction n with
  | zero => trivial
  | succ n ih =>
    refine Task.tame_bind tame fun r gives => ?_
    cases r with
    | none => exact ih
    | some a => exact gives a rfl

/-- A round ends a loop with zero or with a signal to give something back, which is the value of the
loop's body. -/
theorem tame_round {condition body : Tree} (test : condition.placed banned (closed banned))
    (placed : body.placed banned (inLoop opened)) :
    (round condition body).Tame banned came fun r => ∀ v, r = some v →
      v = .int 0 ∨ (∃ id payload, v = .signal id .giveBack payload) ∧ v.Allowed banned opened ∧
        came body v := by
  refine Task.Clean.andThen (Task.clean_value test false) fun c _ => ?_
  split
  · refine Task.tame_bind (Task.tame_value placed false) fun v ⟨allowed, isIts⟩ => ?_
    split
    · exact fun w same => Or.inl (Option.some.inj same).symm
    next id payload _ =>
      refine fun w same => Or.inr ?_
      obtain rfl := Option.some.inj same
      refine ⟨⟨id, payload, rfl⟩, ?_, isIts⟩
      rcases allowed with free | ⟨_, _, _, same, isOpen, free⟩
      · exact Or.inl free
      · cases same
        exact Or.inr ⟨id, _, payload, rfl, isOpen, free⟩
    · exact nofun
  · exact fun w same => Or.inl (Option.some.inj same).symm

theorem tame_tick (provider name : String) :
    (tick provider name).Tame banned came fun r => ∀ v, r = some v → v = .null := by
  refine Task.tame_bind (tame_function provider _) fun p placed => ?_
  refine Task.tame_bind (Task.tame_value placed false) fun v _ => ?_
  split
  · exact fun w same => (Option.some.inj same).symm
  · refine Task.tame_bind (tame_function name _) fun f placed => ?_
    exact Task.tame_bind (Task.tame_value placed false) fun w _ => nofun

/-- What a node asks for. -/
theorem tame_node {span : Option Span}
    (placed : (Syntax.Tree.node label span children).placed banned opened) :
    (node label children).Tame banned came (Given banned opened came label children) := by
  obtain ⟨sent, parts⟩ := placed_node.mp placed
  cases label with
  | importFile | null | yes | no | outer | parameters | args | items | tuple | list | index | store
  | both | either | add | subtract | multiply | divide | modulo | greater | less | greaterEq | lessEq
  | equal | notEqual | negate =>
    have inside : ∀ t ∈ children, t.placed banned (closed banned) := placedParts_same.mp parts
    clear placed sent parts
    suffices clean : (node _ children).Clean banned came from
      Task.Tame.mono clean fun v => given_free trivial
    simp only [node]
    repeat' first
      | with_reducible refine Task.Clean.bind ?_ fun _ _ => ?_
      | split
    all_goals grind -ring -linarith [Request.Free, Request.Answered, Change.Clean]
  | breakLoop | continueLoop =>
    refine Task.tame_asks (free_ofItems (by simp)) fun v made => ?_
    obtain ⟨id, same⟩ := made
    exact ⟨Or.inr ⟨id, _, _, same, sent _ rfl, free_ofItems (by simp)⟩, trivial,
      Or.inr (Or.inl ⟨id, _, _, rfl, same⟩)⟩
  | block =>
    refine (tame_block (placedParts_same.mp parts) (.atom rfl)).mono fun v gives => ?_
    rcases gives with free | ⟨t, member, gives⟩
    · exact given_free trivial free
    · exact given_passed trivial (by simp) member gives
  | giveBack =>
    simp only [node]
    split
    next e =>
      refine Task.Clean.andThen (Task.clean_value (placedParts_same.mp parts e (by simp)) false) fun v free => ?_
      refine Task.tame_asks free fun w made => ?_
      obtain ⟨id, same⟩ := made
      exact ⟨Or.inr ⟨id, _, _, same, sent _ rfl, free⟩, trivial, Or.inr (Or.inl ⟨id, _, _, rfl, same⟩)⟩
    next => trivial
  | define =>
    simp only [node]
    split
    next name rest =>
      refine (clean_define _ fun t member => ?_).mono fun _ => given_free trivial
      exact placedParts_same.mp parts t (List.mem_cons_of_mem _ member)
    next => trivial
  | call =>
    simp only [node]
    split
    next => trivial
    next name args found =>
      refine Task.Clean.andThen (clean_argumentValues fun t member => ?_) fun values free => ?_
      · exact placedParts_same.mp parts t (callParts_mem found t member)
      · exact (clean_call name free).mono fun v isFree => given_free isFree isFree
  | loop =>
    simp only [node]
    split
    next condition body =>
      obtain ⟨test, others⟩ := placedParts_cons.mp parts
      refine (tame_repeatUntil (tame_round test (others body (by simp))) _).mono fun v gives => ?_
      rcases gives with rfl | ⟨signal, gives⟩
      · exact given_free (Or.inl rfl) (.atom rfl)
      · exact given_passed (Or.inr signal) (by simp) (by simp) gives
    next => trivial
  | choice =>
    have passed {t : Tree} (member : t ∈ children) (placed : t.placed banned opened) :
        (Task.value t).Tame banned came (Given banned opened came .choice children) :=
      Task.tame_passes placed fun v gives => given_passed trivial (by simp) member gives
    simp only [node]
    split
    next condition yes =>
      obtain ⟨test, others⟩ := placedParts_cons.mp parts
      refine Task.Clean.andThen (Task.clean_value test false) fun v _ => ?_
      refine Task.Clean.andThen (Task.clean_truth v) fun c _ => ?_
      split
      · exact passed (by simp) (others yes (by simp))
      · exact given_free trivial (.atom rfl)
    next condition yes no =>
      obtain ⟨test, others⟩ := placedParts_cons.mp parts
      refine Task.Clean.andThen (Task.clean_value test false) fun v _ => ?_
      refine Task.Clean.andThen (Task.clean_truth v) fun c _ => ?_
      split
      · exact passed (by simp) (others yes (by simp))
      · exact passed (by simp) (others no (by simp))
    next => trivial
  | builtin b =>
    unfold node
    split
    all_goals try contradiction
    next same =>
      obtain rfl : b = .foreachTick := Label.builtin.inj same
      split
      next =>
        refine (tame_repeatUntil (tame_tick _ _) _).mono fun v null => ?_
        exact given_free null (null ▸ .atom rfl)
      next => trivial
    next other =>
      have outcome : ∀ v, Outcome banned (.builtin b) v := by
        intro v
        unfold Outcome
        split
        all_goals simp_all
      split
      next => exact Task.tame_asks trivial fun v => given_free (outcome v)
      next =>
        split
        next t =>
          refine Task.Clean.andThen (Task.clean_value (placedParts_same.mp parts t (by simp)) _) fun v free => ?_
          exact Task.tame_asks free fun w => given_free (outcome w)
        next => trivial
  | expression | start | builtinCall | number | string | var | other =>
    simp only [node]
    split
    next t =>
      exact Task.tame_passes (placedParts_same.mp parts t (by simp)) fun v gives =>
        given_passed trivial (by simp) (by simp) gives
    next => trivial

/-- What is known of the value of a tree. -/
def GivenBy (banned opened : SignalKind → Bool) (came : Tree → Value → Prop) : Tree → Value → Prop
  | .node label _ children, v => Given banned opened came label children v
  | _, v => v.Free banned

theorem tame_task (placed : t.placed banned opened) :
    (task t).Tame banned came (GivenBy banned opened came t) := by
  cases t with
  | node label span children => exact tame_node placed
  | leaf l => exact clean_leaf l
  | datum d => trivial

end Eval

end DeskScript
