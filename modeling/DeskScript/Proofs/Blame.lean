import DeskScript.Proofs.Fitting
import DeskScript.Proofs.Happenings
import DeskScript.Proofs.Moments

/-!
# Who is to blame

The errors that blame a tree are for trees that are none of the language. A run of a parsed script,
whatever scripts have been run before it, meets one tree only that the evaluator has no case for: a
return without a value. Its error is passed on from one evaluation to the one around it, and there
is no other way to fail with such an error.
-/

namespace DeskScript

open Syntax

/-- The error of a return without a value. -/
def Error.nothingGiven : Error := .script (.unknownNode "<class 'lark.tree.Tree'>")

namespace Happening

/-- It ended with an error. -/
def Fails (h : Happening) (e : Error) : Prop := ∃ s, h.ended = .error e s

/-- A return without a value was executed, and failed. -/
def GivesNothing : Happening → Prop
  | evaluated t before ended => t.givesNothing ∧ ended = .error .nothingGiven before
  | performed .. => False

/-- What was evaluated is a tree of the language or a word in it. -/
def Fit : Happening → Prop
  | evaluated t _ _ => t.Fit
  | performed .. => True

/-- A call of one of the built-ins that change a list was evaluated. -/
def CallsChange : Happening → Prop
  | evaluated (.node (.builtin b) _ _) _ _ => Builtins.changesList b
  | _ => False

end Happening

/-- Every error in a log that blames a tree is that of a return without a value, or what happened just
before failed with it. -/
def Explained (log : List Happening) : Prop :=
  ∀ i h e, log[i]? = some h → h.Fails e → e.blamesTree →
    h.GivesNothing ∨ ∃ j h', i = j + 1 ∧ log[j]? = some h' ∧ h'.Fails e

/-- Every request in a log that changes a list is one of the given, or comes from the call of a
built-in for it. -/
def Announced (own : Request → Prop) (log : List Happening) : Prop :=
  ∀ r before ended, .performed r before ended ∈ log → r.changesList →
    own r ∨ ∃ h ∈ log, h.CallsChange

variable {h : Happening} {e : Error}

section Logs

variable {own : Request → Prop} {log log' : List Happening}

theorem explained_nil : Explained [] := by
  intro i h e found
  simp at found

/-- The first entry of a second log may also be explained by the last one of the first. -/
theorem Explained.join (first : Explained log)
    (second : ∀ i h e, log'[i]? = some h → h.Fails e → e.blamesTree →
      h.GivesNothing ∨ (∃ j h', i = j + 1 ∧ log'[j]? = some h' ∧ h'.Fails e) ∨
        i = 0 ∧ ∃ h', log.getLast? = some h' ∧ h'.Fails e) : Explained (log ++ log') := by
  intro i h e found fails blames
  by_cases inside : i < log.length
  · rw [List.getElem?_append_left inside] at found
    rcases first i h e found fails blames with nothing | ⟨j, h', next, there, passed⟩
    · exact Or.inl nothing
    · refine Or.inr ⟨j, h', next, ?_, passed⟩
      rwa [List.getElem?_append_left (by omega)]
  · rw [List.getElem?_append_right (by omega)] at found
    rcases second _ h e found fails blames with
      nothing | ⟨j, h', next, there, passed⟩ | ⟨start, h', there, passed⟩
    · exact Or.inl nothing
    · refine Or.inr ⟨log.length + j, h', by omega, ?_, passed⟩
      rw [List.getElem?_append_right (by omega), Nat.add_sub_cancel_left]
      exact there
    · rw [List.getLast?_eq_getElem?] at there
      have last := (List.getElem?_eq_some_iff.mp there).1
      refine Or.inr ⟨log.length - 1, h', by omega, ?_, passed⟩
      rwa [List.getElem?_append_left last]

theorem Explained.append (first : Explained log) (second : Explained log') :
    Explained (log ++ log') :=
  first.join fun i h e found fails blames =>
    (second i h e found fails blames).imp_right Or.inl

theorem Explained.concat (before : Explained log)
    (last : ∀ e, h.Fails e → e.blamesTree → h.GivesNothing ∨ ∃ h', log.getLast? = some h' ∧ h'.Fails e) :
    Explained (log ++ [h]) := by
  refine before.join fun i h' e found fails blames => ?_
  obtain ⟨rfl, rfl⟩ : i = 0 ∧ h = h' := by
    cases i with
    | zero => simpa using found
    | succ i => simp at found
  exact (last e fails blames).imp_right fun passed => Or.inr ⟨rfl, passed⟩

theorem announced_nil : Announced own [] := by
  intro r before ended member
  simp at member

theorem Announced.append (first : Announced own log) (second : Announced own log') :
    Announced own (log ++ log') := by
  intro r before ended member changes
  rcases List.mem_append.mp member with member | member
  · refine (first r before ended member changes).imp_right ?_
    rintro ⟨h, there, calls⟩
    exact ⟨h, List.mem_append_left _ there, calls⟩
  · refine (second r before ended member changes).imp_right ?_
    rintro ⟨h, there, calls⟩
    exact ⟨h, List.mem_append_right _ there, calls⟩

end Logs

/-- From a state on, a recorded step accounts for what it does: it evaluates trees of the language
only, its log explains all blame and announces all changes of lists, what it fails with is what
happened last failed with, and the functions of all frames keep having blocks for bodies. -/
structure Accounts {α : Type} (own : Request → Prop) (x : Logged Happening α) (s : State) : Prop where
  fit : ∀ h ∈ (x s).1, h.Fit
  explained : Explained (x s).1
  announced : Announced own (x s).1
  failed : ∀ e s', (x s).2 = .error e s' → e.blamesTree →
    ∃ h, (x s).1.getLast? = some h ∧ h.Fails e
  blocks : (endState (x s).2).stack.Bodies Tree.IsBlock

/-- A step that leaves the frames alone and blames no tree. -/
structure Blameless {α : Type} (x : Interp α) : Prop where
  frames : KeepsFrames x
  innocent : ∀ s e s', x s = .error e s' → e.blamesTree = false

section Blameless

variable {α β : Type}

theorem blameless_pure (a : α) : Blameless (pure a) :=
  ⟨keepsFrames_pure a, by rintro s e s' ⟨⟩⟩

theorem blameless_throw (innocent : e.blamesTree = false) : Blameless (throw e : Interp α) :=
  ⟨keepsFrames_throw e, by rintro s _ s' ⟨⟩; exact innocent⟩

theorem blameless_ofOp {op : Op α} (mild : op.Mild (Bench.Extends {})) : Blameless (Interp.ofOp op) := by
  refine ⟨keepsFrames_ofOp op, fun s e s' failed => ?_⟩
  have start : Bench.Extends {} s.machine.bench := fun _ there => absurd there (Nat.not_lt_zero _)
  obtain ⟨result, bench, c, ran, -, innocent⟩ := mild.run start s.console
  rw [Interp.ofOp_apply, ran] at failed
  cases result with
  | ok a => cases failed
  | error e' =>
    cases failed
    exact innocent e rfl

theorem Blameless.bind {x : Interp α} {f : α → Interp β} (first : Blameless x)
    (rest : ∀ a, Blameless (f a)) : Blameless (x >>= f) := by
  refine ⟨@Interp.Within.bind _ _ (fun s s' => s'.stack = s.stack) _ _ first.frames
    (fun first second => second.trans first) fun a => (rest a).frames, fun s e s' failed => ?_⟩
  simp only [Bind.bind, EStateM.bind] at failed
  cases ran : x s with
  | ok a s₁ =>
    rw [ran] at failed
    exact (rest a).innocent s₁ e s' failed
  | error e₁ s₁ =>
    rw [ran] at failed
    cases failed
    exact first.innocent s e s' ran

theorem blameless_action {a : Action α} (mild : a.Mild) : Blameless (liftM a : Interp α) :=
  blameless_ofOp (Op.obeys_action mild (fun _ _ => trivial) fun _ _ holds _ => holds)

theorem blameless_say (s : String) : Blameless (Eval.say s) :=
  blameless_action (Action.mild_sayAs _ _)

theorem blameless_listMemory : Blameless Eval.listMemory := by
  refine ⟨keepsFrames_listMemory, fun s e s' failed => ?_⟩
  rw [Eval.listMemory_apply] at failed
  have listed : Innocent (Eval.listing s.machine.store s.stack.current) := by
    unfold Eval.listing
    grind
  have lines : ∀ lines : List String, Blameless (lines.forM Eval.say) := by
    intro lines
    induction lines with
    | nil => exact blameless_pure _
    | cons line rest ih => exact (blameless_say line).bind fun _ => ih
  cases found : Eval.listing s.machine.store s.stack.current with
  | ok texts =>
    rw [found] at failed
    exact (lines texts).innocent s e s' failed
  | error e' =>
    rw [found] at failed listed
    cases failed
    exact listed

end Blameless

section Accounts

variable {α β : Type} {own : Request → Prop} {s : State}

theorem accounts_still {x : Interp α} (blameless : Blameless x)
    (blocks : s.stack.Bodies Tree.IsBlock) : Accounts own (.still x) s where
  fit := by simp [Logged.still]
  explained := explained_nil
  announced := announced_nil
  failed e s' ended blames := by simp [blameless.innocent s e s' ended] at blames
  blocks := by
    have same := blameless.frames s
    change (endState (x s)).stack.Bodies _
    rwa [same]

/-- Whether a step accounts for what it does from a state on depends on what it does there. -/
theorem Accounts.congr {x y : Logged Happening α} (accounts : Accounts own y s)
    (same : x s = y s) : Accounts own x s := by
  obtain ⟨fit, explained, announced, failed, blocks⟩ := accounts
  rw [← same] at fit explained announced failed blocks
  exact ⟨fit, explained, announced, failed, blocks⟩

theorem accounts_andThen {x : Logged Happening α} {f : α → Logged Happening β}
    (first : Accounts own x s) (rest : ∀ a s', s'.stack.Bodies Tree.IsBlock → Accounts own (f a) s') :
    Accounts own (x.andThen f) s := by
  obtain ⟨fit, explained, announced, failed, blocks⟩ := first
  rcases ran : x s with ⟨log, ⟨a, s'⟩ | ⟨e, s'⟩⟩ <;> rw [ran] at fit explained announced failed blocks
  · have later := rest a s' blocks
    have same := Logged.andThen_ok (f := f) ran
    refine ⟨?_, ?_, ?_, ?_, ?_⟩ <;> rw [same]
    · exact List.forall_mem_append.mpr ⟨fit, later.fit⟩
    · exact explained.append later.explained
    · exact announced.append later.announced
    · intro e s'' ended blames
      obtain ⟨h, last, fails⟩ := later.failed e s'' ended blames
      exact ⟨h, by simp [last], fails⟩
    · exact later.blocks
  · have same := Logged.andThen_error (f := f) ran
    refine ⟨?_, ?_, ?_, ?_, ?_⟩ <;> rw [same]
    · exact fit
    · exact explained
    · exact announced
    · intro e' s'' ended blames
      cases ended
      exact failed e s' rfl blames
    · exact blocks

theorem accounts_inFrame {parameters : Bindings Value} {body : Logged Happening Value}
    (inside : Accounts own body { s with stack := s.stack.enter parameters }) :
    Accounts own (body.inFrame parameters) s := by
  obtain ⟨fit, explained, announced, failed, blocks⟩ := inside
  rcases ran : body { s with stack := s.stack.enter parameters } with ⟨log, ⟨v, s'⟩ | ⟨e, s'⟩⟩ <;>
    rw [ran] at fit explained announced failed blocks
  · refine ⟨?_, ?_, ?_, ?_, ?_⟩ <;> simp only [Logged.inFrame, ran]
    · exact fit
    · exact explained
    · exact announced
    · rintro e s'' ⟨⟩
    · exact blocks.leave
  · refine ⟨?_, ?_, ?_, ?_, ?_⟩ <;> simp only [Logged.inFrame, ran]
    · exact fit
    · exact explained
    · exact announced
    · rintro _ _ ⟨⟩ blames
      exact failed e s' rfl blames
    · exact blocks.leave

theorem accounts_outcome {x : Logged Happening α} (inside : Accounts own x s) :
    Accounts own x.outcome s := by
  obtain ⟨fit, explained, announced, failed, blocks⟩ := inside
  rcases ran : x s with ⟨log, ⟨v, s'⟩ | ⟨e, s'⟩⟩ <;> rw [ran] at fit explained announced failed blocks
  all_goals
    refine ⟨?_, ?_, ?_, ?_, ?_⟩ <;> simp only [Logged.outcome, ran]
    · exact fit
    · exact explained
    · exact announced
    · rintro _ _ ⟨⟩
    · exact blocks

/-- A request is carried out. -/
theorem accounts_perform {r : Request} (announced : r.changesList → own r)
    (blocks : s.stack.Bodies Tree.IsBlock) :
    Accounts own ((Logged.still r.carryOut).closing (.performed r)) s := by
  have blameless := blameless_ofOp (Request.mild_carryOut (r := r) fun _ => rfl)
  refine ⟨?_, ?_, ?_, ?_, ?_⟩
  · simp [Logged.closing, Logged.still, Happening.Fit]
  · refine explained_nil.concat ?_
    rintro e ⟨s', ended⟩ blames
    simp [blameless.innocent s e s' ended] at blames
  · intro r' before ended member changes
    obtain ⟨rfl, -⟩ : r' = r ∧ _ := by simpa [Logged.closing, Logged.still] using member
    exact Or.inl (announced changes)
  · intro e s' ended blames
    simp [blameless.innocent s e s' ended] at blames
  · have same := blameless.frames s
    change (endState (Interp.ofOp r.carryOut s)).stack.Bodies _
    rwa [same]

variable {below : RecordedEvaluate}
  (accounts : ∀ mode t s, t.Fit → s.stack.Bodies Tree.IsBlock →
    Accounts (fun _ => False) (below mode t) s)

theorem Accounts.mono {x : Logged Happening α} (nothing : Accounts (fun _ => False) x s) :
    Accounts own x s where
  fit := nothing.fit
  explained := nothing.explained
  announced r before ended member changes :=
    Or.inr ((nothing.announced r before ended member changes).resolve_left id)
  failed := nothing.failed
  blocks := nothing.blocks

include accounts

theorem Pause.accounts_record (mode : Mode) {pause : Pause α} (parsed : pause.Parsed)
    (blocks : s.stack.Bodies Tree.IsBlock) : Accounts own (pause.record below mode) s := by
  induction pause generalizing s with
  | done a => exact accounts_still (blameless_pure a) blocks
  | fail e => exact accounts_still (blameless_throw parsed) blocks
  | say text next ih =>
    exact accounts_andThen (accounts_still (blameless_say text) blocks) fun _ _ => ih parsed
  | ask next ih =>
    refine accounts_andThen (accounts_still (blameless_action ?_) blocks) fun line _ =>
      ih line (parsed line)
    exact Action.mild_askAs _ _
  | look next ih => exact (ih _ (parsed _) blocks).congr rfl
  | set d next ih =>
    refine accounts_andThen (accounts_still ⟨fun _ => rfl, ?_⟩ blocks) fun _ _ => ih parsed
    rintro s e s' ⟨⟩
  | memory next ih =>
    exact accounts_andThen (accounts_still blameless_listMemory blocks) fun _ _ => ih parsed
  | attempt t next ih =>
    obtain ⟨⟨source, read⟩, later⟩ := parsed
    refine accounts_andThen (accounts_outcome (accounts_andThen ?_ fun v s' blocks' => ?_))
      fun r _ => ih r (later r)
    · exact (accounts _ t s (formed_of_parse read).fit blocks).mono
    · exact accounts_still (blameless_ofOp (Op.Guards.mild (Op.clean_shown v))) blocks'

theorem Eval.accounts_recordCheck (mode : Mode) (t : Tree)
    (blocks : s.stack.Bodies Tree.IsBlock) : Accounts own (Eval.recordCheck below mode t) s := by
  by_cases debug : mode.debug
  · cases line : statementLine t with
    | ok mark =>
      have parsed := parsed_checkMark mode.canEvaluate s.stack.depth mark
      refine (Pause.accounts_record accounts mode parsed blocks).congr ?_
      simp only [recordCheck, debug, line, if_true]
    | error e =>
      have innocent : e.blamesTree = false := by
        cases t <;> cases line
        · rfl
        · rfl
      refine (accounts_still (blameless_throw innocent) blocks).congr ?_
      simp only [recordCheck, debug, line, if_true]
      rfl
  · refine (accounts_still (blameless_pure ()) blocks).congr ?_
    simp only [recordCheck, debug]
    rfl

theorem Task.accounts_record (mode : Mode) {task : Task α} (fits : task.Fits own fun _ => True)
    (blocks : s.stack.Bodies Tree.IsBlock) : Accounts own (task.record below mode) s := by
  induction task generalizing s with
  | done a => exact accounts_still (blameless_pure a) blocks
  | fail e => exact accounts_still (blameless_throw fits) blocks
  | perform r next ih =>
    exact accounts_andThen (accounts_perform fits.1 blocks) fun v _ => ih v (fits.2 v)
  | look next ih => exact (ih _ _ (fits _ _ blocks) blocks).congr rfl
  | change c next ih =>
    obtain ⟨fit, later⟩ := fits
    have changed : Accounts own (.still (Interp.modifyStack (·.change c))) s := by
      refine ⟨by simp [Logged.still], explained_nil, announced_nil, ?_, blocks.change ?_⟩
      · rintro e s' ⟨⟩
      · rintro name f rfl
        exact fit
    exact accounts_andThen changed fun _ _ => ih later
  | check t next ih =>
    exact accounts_andThen (Eval.accounts_recordCheck accounts mode t blocks) fun _ _ => ih fits
  | evaluate quiet t next ih =>
    exact accounts_andThen (accounts _ t s fits.1 blocks).mono fun v _ => ih v (fits.2 v)
  | call parameters body next ih =>
    refine accounts_andThen (accounts_inFrame ?_) fun v _ => ih v (fits.2 v)
    exact (accounts mode body _ fits.1.fit (blocks.enter parameters)).mono

end Accounts

/-- An evaluation of a tree of the language accounts for all that it does. -/
theorem accounts_recordAt (n : Nat) (mode : Mode) {t : Tree} (fit : t.Fit) {s : State}
    (blocks : s.stack.Bodies Tree.IsBlock) : Accounts (fun _ => False) (recordAt n mode t) s := by
  induction n generalizing mode t s with
  | zero => exact accounts_still (blameless_throw rfl) blocks
  | succ n ih =>
    by_cases nothing : t.givesNothing
    · obtain ⟨span, rfl⟩ : ∃ span, t = .node .giveBack span [] := by
        unfold Tree.givesNothing at nothing
        split at nothing
        next span => exact ⟨span, rfl⟩
        next => cases nothing
      -- The evaluator has no case for it, so nothing happens but that it fails.
      refine ⟨?_, ?_, ?_, ?_, blocks⟩
      · exact List.forall_mem_append.mpr ⟨by simp [Eval.task, Eval.node, Eval.strange, Task.record,
          Logged.still], List.forall_mem_singleton.mpr fit⟩
      · exact explained_nil.concat fun e fails blames => Or.inl ⟨rfl, rfl⟩
      · intro r before ended member
        simp [recordAt, Logged.closing, Eval.task, Eval.node, Eval.strange, Task.record, Logged.still]
          at member
      · rintro e s' ⟨⟩ blames
        exact ⟨_, rfl, s, rfl⟩
    · have inside := Task.accounts_record (fun mode t s fit => ih mode fit) mode
        (Eval.fits_task fit (by simpa using nothing)) blocks
      obtain ⟨fits, explained, announced, failed, kept⟩ := inside
      refine ⟨?_, ?_, ?_, ?_, kept⟩
      · exact List.forall_mem_append.mpr ⟨fits, List.forall_mem_singleton.mpr fit⟩
      · refine explained.concat ?_
        rintro e ⟨s', ended⟩ blames
        exact Or.inr (failed e s' ended blames)
      · intro r before ended member changes
        have inner : .performed r before ended ∈ ((Eval.task t).record (recordAt n) mode s).1 := by
          simpa [recordAt, Logged.closing] using member
        rcases announced r before ended inner changes with ⟨b, v, span, children, rfl, rfl⟩ | ⟨h, there, calls⟩
        · refine Or.inr ⟨_, List.mem_append_right _ (List.mem_singleton.mpr rfl), ?_⟩
          exact changes
        · exact Or.inr ⟨h, List.mem_append_left _ there, calls⟩
      · intro e s' ended blames
        exact ⟨_, List.getLast?_concat, s', ended⟩

/-- All functions of scripts have blocks for bodies. -/
theorem Scripted.blocks {s : State} (scripted : Scripted s) : s.stack.Bodies Tree.IsBlock := by
  induction scripted with
  | start fresh =>
    intro frame member e there
    simp [fresh frame member] at there
  | @run s _ source t parsed mode ih =>
    have accounts := accounts_recordAt nestingLimit mode (formed_of_parse parsed).fit ih
    have kept := accounts.blocks
    rwa [record_eval] at kept
  | pause _ same ih => rwa [same]

theorem Happening.GivesNothing.error (nothing : h.GivesNothing) (fails : h.Fails e) :
    e = .nothingGiven := by
  obtain ⟨s', ended⟩ := fails
  cases h with
  | evaluated t before r =>
    obtain ⟨-, rfl⟩ := nothing
    cases ended
    rfl
  | performed r before ended => cases nothing

/-- Blame that is explained goes back to a return without a value. -/
theorem Explained.source {log : List Happening} (explained : Explained log) {i : Nat}
    (found : log[i]? = some h) (fails : h.Fails e) (blames : e.blamesTree) :
    e = .nothingGiven ∧ ∃ h ∈ log, h.GivesNothing := by
  induction i using Nat.strongRecOn generalizing h with
  | ind i ih =>
    rcases explained i h e found fails blames with nothing | ⟨j, h', next, there, passed⟩
    · exact ⟨nothing.error fails, h, List.mem_of_getElem? found, nothing⟩
    · exact ih j (by omega) there passed

/-! ### Errors without the debugger -/

/-- A step that fails with whatever fails on the way. -/
def Fatal {α : Type} (x : Logged Happening α) : Prop :=
  ∀ s, ∀ h ∈ (x s).1, ∀ e, h.Fails e → ∃ s', (x s).2 = .error e s'

section Fatal

variable {α β : Type}

theorem fatal_still (x : Interp α) : Fatal (.still x) := by
  intro s h member
  simp [Logged.still] at member

theorem fatal_andThen {x : Logged Happening α} {f : α → Logged Happening β} (first : Fatal x)
    (rest : ∀ a, Fatal (f a)) : Fatal (x.andThen f) := by
  intro s h member e fails
  have before := first s
  rcases ran : x s with ⟨log, ⟨a, s'⟩ | ⟨e', s'⟩⟩ <;> rw [ran] at before
  · rw [Logged.andThen_ok ran] at member ⊢
    rcases List.mem_append.mp member with member | member
    · obtain ⟨_, ended⟩ := before h member e fails
      cases ended
    · exact rest a s' h member e fails
  · rw [Logged.andThen_error ran] at member ⊢
    obtain ⟨_, ended⟩ := before h member e fails
    cases ended
    exact ⟨s', rfl⟩

theorem fatal_inFrame (parameters : Bindings Value) {body : Logged Happening Value}
    (inside : Fatal body) : Fatal (body.inFrame parameters) := by
  intro s h member e fails
  have before := inside { s with stack := s.stack.enter parameters }
  rcases ran : body { s with stack := s.stack.enter parameters } with ⟨log, ⟨v, s'⟩ | ⟨e', s'⟩⟩ <;>
    rw [ran] at before <;> simp only [Logged.inFrame, ran] at member ⊢
  · obtain ⟨_, ended⟩ := before h member e fails
    cases ended
  · obtain ⟨_, ended⟩ := before h member e fails
    cases ended
    exact ⟨_, rfl⟩

theorem fatal_closing {x : Logged Happening Value}
    {entry : State → EStateM.Result Error State Value → Happening}
    (ends : ∀ s r, (entry s r).ended = r) (inside : Fatal x) : Fatal (x.closing entry) := by
  intro s h member e fails
  rcases List.mem_append.mp member with member | member
  · exact inside s h member e fails
  · obtain rfl := List.mem_singleton.mp member
    obtain ⟨s', ended⟩ := fails
    exact ⟨s', (ends s _).symm.trans ended⟩

theorem Task.fatal_record {below : RecordedEvaluate} {mode : Mode} (off : mode.debug = false)
    (fatal : ∀ t, Fatal (below mode t)) (task : Task α) : Fatal (task.record below mode) := by
  induction task with
  | done a => exact fatal_still _
  | fail e => exact fatal_still _
  | perform r next ih =>
    exact fatal_andThen (fatal_closing (fun _ _ => rfl) (fatal_still _)) ih
  | look next ih => exact fun s => ih _ _ s
  | change c next ih => exact fatal_andThen (fatal_still _) fun _ => ih
  | check t next ih =>
    refine fatal_andThen (fun s h member => ?_) fun _ => ih
    simp [Eval.recordCheck, off] at member
  | evaluate quiet t next ih =>
    refine fatal_andThen ?_ ih
    rw [Mode.quiet_off off]
    exact fatal t
  | call parameters body next ih =>
    exact fatal_andThen (fatal_inFrame parameters (fatal body)) ih

theorem fatal_recordAt {mode : Mode} (off : mode.debug = false) (n : Nat) (t : Tree) :
    Fatal (recordAt n mode t) := by
  induction n generalizing t with
  | zero => exact fatal_still _
  | succ n ih => exact fatal_closing (fun _ _ => rfl) (Task.fatal_record off ih (Eval.task t))

end Fatal

/-- A run of a parsed script, after any scripts, blames no tree but a return without a value. Where an
evaluation or a request fails with such an error, it is the evaluation of such a return, or it
passes on the error of what happened just before it; and every evaluation of such a return fails
with that error. So a run that fails with an error of this kind has executed one, and without the
debugger, whose prompt only reports errors, a run that has executed one fails with its error. -/
theorem blames_empty_return_only {source : String} {t : Tree} (parsed : parse source = .ok t)
    (mode : Mode) {s : State} (scripted : Scripted s) :
    (∀ i h e, (happenings mode t s)[i]? = some h → h.Fails e → e.blamesTree →
      e = .nothingGiven ∧ (h.GivesNothing ∨
        ∃ j h', i = j + 1 ∧ (happenings mode t s)[j]? = some h' ∧ h'.Fails e)) ∧
    (∀ span before ended, .evaluated (.node .giveBack span []) before ended ∈ happenings mode t s →
      ended = .error .nothingGiven before) ∧
    (∀ e s', eval mode t s = .error e s' → e.blamesTree →
      e = .nothingGiven ∧ ∃ h ∈ happenings mode t s, h.GivesNothing) ∧
    (mode.debug = false → (∃ h ∈ happenings mode t s, h.GivesNothing) →
      ∃ s', eval mode t s = .error .nothingGiven s') := by
  have accounts := accounts_recordAt nestingLimit mode (formed_of_parse parsed).fit scripted.blocks
  obtain ⟨-, explained, -, failed, -⟩ := accounts
  rw [record_eval] at explained failed
  refine ⟨?_, ?_, ?_, ?_⟩
  · intro i h e found fails blames
    exact ⟨(explained.source found fails blames).1, explained i h e found fails blames⟩
  · intro span before ended member
    obtain ⟨n, mode', same⟩ := real_of_mem_happenings member
    rw [same]
    rfl
  · intro e s' ended blames
    obtain ⟨h, last, fails⟩ := failed e s' ended blames
    rw [List.getLast?_eq_getElem?] at last
    exact explained.source last fails blames
  · rintro off ⟨h, member, nothing⟩
    have fatal := fatal_recordAt off nestingLimit t s h
    rw [record_eval] at fatal
    obtain ⟨t', before, ended⟩ | _ := h
    · exact fatal member _ ⟨before, nothing.2⟩
    · cases nothing

/-- The return is reached in a call, from the last statement of the script. -/
theorem blames_empty_return_only_called : ∃ t, parse "fn f() \x7b return; \x7d f();" = .ok t ∧
    Scripted {} ∧ (∃ h ∈ happenings {} t {}, h.GivesNothing) ∧
    ∃ s', eval {} t {} = .error .nothingGiven s' := by
  obtain ⟨t, parsed, e, s', ended, blames⟩ : ∃ t, parse "fn f() \x7b return; \x7d f();" = .ok t ∧
      ∃ e s', eval {} t {} = .error e s' ∧ e.blamesTree := by decide +kernel
  have scripted : Scripted {} := .start (by simp [CallStack.frames])
  obtain ⟨-, -, source, -⟩ := blames_empty_return_only parsed {} scripted
  obtain ⟨rfl, executed⟩ := source e s' ended blames
  exact ⟨t, parsed, scripted, executed, s', ended⟩

end DeskScript
