import DeskScript.Proofs.Checkable
import DeskScript.Proofs.History

/-!
# Pauses

What a check of the debugger can do to a run. Unless something is evaluated at the prompt, it talks
at the console and does nothing else. It stops the run only where the input ends at the prompt, or
where a frame that is to be listed holds values that cannot be shown.
-/

namespace DeskScript

variable {e : Error} {α β : Type} {s : State}

open Syntax

/-! ### Listing a frame -/

/-- A value lies in another one, or is it. -/
inductive Store.Holds (s : Store) : Value → Value → Prop
  | self (v : Value) : Holds s v v
  | tuple {id : Nat} {items : List Value} {item v : Value} (member : item ∈ items)
      (inner : Holds s item v) : Holds s (.tuple id items) v
  | list {cell : Nat} {item v : Value} (member : item ∈ s.get cell)
      (inner : Holds s item v) : Holds s (.list cell) v
  | set {items : List Value} {item v : Value} (member : item ∈ items)
      (inner : Holds s item v) : Holds s (.set items) v
  | key {id : Nat} {entries : List (Value × Value)} {e : Value × Value} {v : Value}
      (member : e ∈ entries) (inner : Holds s e.1 v) : Holds s (.dict id entries) v
  | value {id : Nat} {entries : List (Value × Value)} {e : Value × Value} {v : Value}
      (member : e ∈ entries) (inner : Holds s e.2 v) : Holds s (.dict id entries) v

/-- A value in which every whole number is short enough to be shown. -/
def Store.Short (s : Store) (v : Value) : Prop :=
  ∀ i, s.Holds v (.int i) → i.natAbs < Number.tenTo Number.digitLimit

theorem bind_error {x : Except Error α} {f : α → Except Error β}
    (failed : (x >>= f) = .error e) : x = .error e ∨ ∃ a, x = .ok a ∧ f a = .error e := by
  cases x with
  | error e' => cases failed; exact Or.inl rfl
  | ok a => exact Or.inr ⟨a, rfl, failed⟩

/-- The error of steps that are made one after the other is the error of one of them. -/
theorem mapM_error {f : α → Except Error β} {l : List α}
    (failed : l.mapM f = .error e) : ∃ a ∈ l, f a = .error e := by
  induction l with
  | nil => cases failed
  | cons a rest ih =>
    rw [List.mapM_cons] at failed
    rcases bind_error failed with first | ⟨b, -, failed⟩
    · exact ⟨a, List.mem_cons_self, first⟩
    · rcases bind_error failed with later | ⟨bs, -, failed⟩
      · obtain ⟨a', member, same⟩ := ih later
        exact ⟨a', List.mem_cons_of_mem a member, same⟩
      · cases failed

theorem mapM_pure_error {α β γ : Type} {f : α → Except Error β} {g : List β → γ} {l : List α}
    (failed : (do return g (← l.mapM f) : Except Error γ) = .error e) :
    ∃ a ∈ l, f a = .error e := by
  rcases bind_error failed with failed | ⟨_, -, failed⟩
  · exact mapM_error failed
  · cases failed

/-- A value that cannot be shown is nested too deeply, or holds too long a whole number. -/
theorem Store.quotedAt_fails {s : Store} {fuel : Nat} {path : List (Kind × Nat)} {v : Value}
    (failed : s.quotedAt fuel path v = .error e) :
    e = .nesting ∨ e = .value .tooManyDigits ∧
      ∃ i, s.Holds v (.int i) ∧ Number.tenTo Number.digitLimit ≤ i.natAbs := by
  induction fuel generalizing path v e with
  | zero => cases failed; exact Or.inl rfl
  | succ fuel ih =>
    -- Only what holds other values, and whole numbers, can fail to be shown.
    cases v with
    | int i =>
      simp only [quotedAt, intText] at failed
      split at failed
      next long => cases failed; exact Or.inr ⟨rfl, i, .self _, long⟩
      next => cases failed
    | tuple id items =>
      simp only [quotedAt] at failed
      split at failed
      next => cases failed
      next =>
        obtain ⟨item, member, failed⟩ := mapM_pure_error failed
        exact (ih failed).imp_right fun ⟨same, i, held, long⟩ => ⟨same, i, .tuple member held, long⟩
    | list cell =>
      simp only [quotedAt] at failed
      split at failed
      next => cases failed
      next =>
        obtain ⟨item, member, failed⟩ := mapM_pure_error failed
        exact (ih failed).imp_right fun ⟨same, i, held, long⟩ => ⟨same, i, .list member held, long⟩
    | set items =>
      simp only [quotedAt] at failed
      obtain ⟨item, member, failed⟩ := mapM_pure_error failed
      exact (ih failed).imp_right fun ⟨same, i, held, long⟩ => ⟨same, i, .set member held, long⟩
    | dict id entries =>
      simp only [quotedAt] at failed
      split at failed
      next => cases failed
      next =>
        obtain ⟨entry, member, failed⟩ := mapM_pure_error failed
        rcases bind_error failed with failed | ⟨_, -, failed⟩
        · exact (ih failed).imp_right fun ⟨same, i, held, long⟩ => ⟨same, i, .key member held, long⟩
        · rcases bind_error failed with failed | ⟨_, -, failed⟩
          · exact (ih failed).imp_right fun ⟨same, i, held, long⟩ =>
              ⟨same, i, .value member held, long⟩
          · cases failed
    | null | bool | float | nan | complex | text | bytes | ellipsis | signal => cases failed

/-- Short values can be shown, unless they are nested too deeply. -/
theorem Store.quotedAt_error {s : Store} {fuel : Nat} {path : List (Kind × Nat)} {v : Value}
    (short : s.Short v) (failed : s.quotedAt fuel path v = .error e) :
    e = .nesting := by
  rcases quotedAt_fails failed with deep | ⟨-, i, held, long⟩
  · exact deep
  · exact absurd (short i held) (Nat.not_lt.mpr long)

/-- A frame with short values can be listed, unless they are nested too deeply. -/
theorem Eval.listing_error {store : Store} {frame : Frame}
    (short : ∀ entry ∈ frame.vars, store.Short entry.2)
    (failed : Eval.listing store frame = .error e) : e = .nesting := by
  obtain ⟨entry, member, failed⟩ := mapM_pure_error failed
  rcases bind_error failed with failed | ⟨_, -, failed⟩
  · exact Store.quotedAt_error (short entry member) failed
  · cases failed

/-! ### The state of the debugger -/

namespace Debugger

/-- Stepping over and out come with a depth. -/
def Ready (d : Debugger) : Prop := d.mode = .next ∨ d.mode = .out → d.targetDepth.isSome

/-- A debugger that is ready can check every statement, and stays ready. -/
theorem Ready.check {d : Debugger} (ready : d.Ready) (line depth : Int) (mark : LineMark) :
    ∃ reason d', d.check line depth mark = .ok (reason, d') ∧ d'.Ready := by
  by_cases stop : line ∈ d.breakpoints
  · exact ⟨some .breakpoint, _, if_pos stop, ready⟩
  · obtain ⟨reason, wants⟩ : ∃ reason, d.wants line depth = .ok reason := by
      cases mode : d.mode with
      | run => exact ⟨_, by simp only [wants, mode]; rfl⟩
      | step => exact ⟨_, by simp only [wants, mode]; rfl⟩
      | next =>
        obtain ⟨target, h⟩ := Option.isSome_iff_exists.mp (ready (Or.inl mode))
        exact ⟨_, by simp only [wants, mode, Debugger.target, h]; rfl⟩
      | out =>
        obtain ⟨target, h⟩ := Option.isSome_iff_exists.mp (ready (Or.inr mode))
        exact ⟨_, by simp only [wants, mode, Debugger.target, h]; rfl⟩
    simp only [Debugger.check, if_neg stop, wants]
    cases reason with
    | none => exact ⟨none, _, rfl, ready⟩
    | some reason => exact ⟨some reason, _, rfl, by simp [Ready]⟩

theorem ready_of_obey {d d' : Debugger} {depth : Int} {c : DebugCommand}
    (obeyed : d.obey? depth c = some d') : d'.Ready := by
  cases c <;> simp only [obey?, Option.some.injEq, reduceCtorEq] at obeyed <;> subst obeyed <;>
    simp [Ready]

end Debugger

/-! ### At the console -/

/-- A reply that is a plain line, and no command to evaluate something. -/
structure Reply.Plain (r : Reply) : Prop where
  cursor : r.cursor = none
  interrupt : r.interrupt = false
  line : ∀ text, Eval.command r.line ≠ .evaluate text

/-- A state in which only plain lines wait at the console and the debugger is ready. -/
structure State.Debuggable (s : State) : Prop where
  plain : ∀ r ∈ s.console.replies, r.Plain
  ready : s.debugger.Ready

/-- Two states between which the debugger has talked at the console and nothing else has happened. -/
structure Talked (s s' : State) : Prop where
  bench : s'.machine.bench = s.machine.bench
  stack : s'.stack = s.stack
  heard : s'.console.heard = s.console.heard
  replies : s'.console.replies <:+ s.console.replies
  ready : s.debugger.Ready → s'.debugger.Ready

theorem Talked.refl (s : State) : Talked s s := ⟨rfl, rfl, rfl, List.suffix_rfl, id⟩

theorem Talked.trans {s s' s'' : State} (first : Talked s s') (second : Talked s' s'') :
    Talked s s'' :=
  ⟨second.bench.trans first.bench, second.stack.trans first.stack,
    second.heard.trans first.heard, second.replies.trans first.replies,
    fun ready => second.ready (first.ready ready)⟩

theorem Talked.debuggable {s s' : State} (talked : Talked s s') (h : s.Debuggable) :
    s'.Debuggable :=
  ⟨fun r member => h.plain r (talked.replies.mem member), talked.ready h.ready⟩

/-- The input has ended at the prompt of the debugger. -/
def AtPrompt {α : Type} (r : EStateM.Result Error State α) : Prop :=
  ∃ s, r = .error .endOfInput s ∧ s.console.replies = [] ∧
    s.console.printed.back? = some (.debugger, "(dbg) ")

/-- How a check can end: at the prompt, where values are nested too deeply, or with the run as it
was. -/
def Calm (s : State) (r : EStateM.Result Error State Unit) : Prop :=
  AtPrompt r ∨ (∃ s', r = .error .nesting s') ∨ ∃ s', r = .ok () s' ∧ Talked s s'

theorem Calm.after {s s' : State} {r : EStateM.Result Error State Unit} (talked : Talked s s')
    (calm : Calm s' r) : Calm s r := by
  rcases calm with stop | deep | ⟨s'', rfl, more⟩
  · exact Or.inl stop
  · exact Or.inr (Or.inl deep)
  · exact Or.inr (Or.inr ⟨s'', rfl, talked.trans more⟩)

/-- Acts in which the debugger lists only frames with short values. -/
def Listable (acts : List Act) : Prop :=
  ∀ store frame, .list store frame ∈ acts → ∀ entry ∈ frame.vars, store.Short entry.2

theorem Watched.andThen_still {x : Interp α} {f : α → Watched β} {s s' : State} {a : α}
    (ok : x s = .ok a s') : (Watched.still x).andThen f s = f a s' :=
  andThen_ok ok

theorem Watched.andThen_atPrompt {x : Interp α} {f : α → Watched β}
    (stop : AtPrompt (x s)) : AtPrompt ((Watched.still x).andThen f s).2 := by
  obtain ⟨s', ended, last⟩ := stop
  exact ⟨s', congrArg Prod.snd (andThen_error ended), last⟩

theorem say_talked (t : String) (s : State) : ∃ s', Eval.say t s = .ok () s' ∧ Talked s s' ∧
    s'.debugger = s.debugger ∧ s'.console.replies = s.console.replies := by
  obtain ⟨⟨⟨desk, console⟩, store, templates⟩, stack, debugger⟩ := s
  refine ⟨_, rfl, ⟨rfl, rfl, ?_, List.suffix_rfl, id⟩, rfl, rfl⟩
  exact Console.heard_say_debugger console _

theorem sayAll_talked (lines : List String) (s : State) : ∃ s', lines.forM Eval.say s = .ok () s' ∧
    Talked s s' ∧ s'.console.replies = s.console.replies := by
  induction lines generalizing s with
  | nil => exact ⟨s, rfl, .refl s, rfl⟩
  | cons line rest ih =>
    obtain ⟨s₁, first, talked₁, -, same₁⟩ := say_talked line s
    obtain ⟨s₂, later, talked₂, same₂⟩ := ih s₁
    refine ⟨s₂, ?_, talked₁.trans talked₂, same₂.trans same₁⟩
    change (Eval.say line >>= fun _ => rest.forM Eval.say) s = _
    simp only [bind, EStateM.bind, first]
    exact later

/-- Asks for a line at the prompt. -/
def askAtPrompt : Interp String := (Action.askAs .debugger "(dbg) " : Action String)

theorem askAtPrompt_nil (empty : s.console.replies = []) :
    AtPrompt (askAtPrompt s) := by
  obtain ⟨⟨⟨desk, replies, printed⟩, store, templates⟩, stack, debugger⟩ := s
  obtain rfl : replies = [] := empty
  exact ⟨_, rfl, rfl, by simp [State.console]⟩

theorem askAtPrompt_cons {r : Reply} {rest : List Reply}
    (waiting : s.console.replies = r :: rest) (plain : r.Plain) : ∃ s',
    askAtPrompt s = .ok r.line s' ∧ Talked s s' ∧ s'.console.replies = rest := by
  obtain ⟨⟨⟨desk, replies, printed⟩, store, templates⟩, stack, debugger⟩ := s
  obtain rfl : replies = r :: rest := waiting
  obtain ⟨cursor, interrupt, line⟩ := r
  obtain rfl : cursor = none := plain.cursor
  obtain rfl : interrupt = false := plain.interrupt
  refine ⟨_, rfl, ⟨rfl, rfl, ?_, List.suffix_cons _ _, id⟩, rfl⟩
  exact Console.heard_say_debugger ⟨_, printed⟩ _

/-- Listing a frame whose values are short. -/
theorem listMemory_calm (short : ∀ entry ∈ s.stack.current.vars,
    s.machine.store.Short entry.2) : (∃ s', Eval.listMemory s = .error .nesting s') ∨
      ∃ s', Eval.listMemory s = .ok () s' ∧ Talked s s' ∧
        s'.console.replies = s.console.replies := by
  rw [Eval.listMemory_apply]
  cases listed : Eval.listing s.machine.store s.stack.current with
  | error e =>
    obtain rfl := Eval.listing_error short listed
    exact Or.inl ⟨s, rfl⟩
  | ok lines => exact Or.inr (sayAll_talked lines s)

/-! ### Checking a statement -/

section Check

variable {below : WatchedEvaluate} {mode : Mode} {canEvaluate : Bool} {depth : Int}

/-- An answer to a plain line, if what comes after it is calm. -/
theorem answer_calm {again : Pause Unit} {line : String} {s : State}
    (plain : ∀ text, Eval.command line ≠ .evaluate text)
    (rest : ∀ s', Talked s s' → s'.console.replies = s.console.replies →
      Listable (again.watch below mode s').1 → Calm s' (again.watch below mode s').2)
    (listable : Listable ((Eval.answer canEvaluate depth again line).watch below mode s).1) :
    Calm s ((Eval.answer canEvaluate depth again line).watch below mode s).2 := by
  simp only [Eval.answer, Pause.watch] at listable ⊢
  cases obeyed : s.debugger.obey? depth (Eval.command line) with
  | some d =>
    refine Or.inr (Or.inr ⟨{ s with debugger := d }, ?_, rfl, rfl, rfl, List.suffix_rfl, ?_⟩)
    · simp only [Pause.watch]
      rfl
    · exact fun _ => Debugger.ready_of_obey obeyed
  | none =>
    simp only [obeyed] at listable ⊢
    cases c : Eval.command line with
    | evaluate text => exact absurd c (plain text)
    | resume | step | next | out => simp [c, Debugger.obey?] at obeyed
    | unknown =>
      simp only [c] at listable ⊢
      exact rest s (.refl s) rfl listable
    | memory =>
      simp only [c] at listable ⊢
      change Listable (.list s.machine.store s.stack.current ::
        (((Watched.still Eval.listMemory).andThen fun _ => again.watch below mode) s).1) at listable
      change Calm s (((Watched.still Eval.listMemory).andThen fun _ => again.watch below mode) s).2
      have short := listable _ _ List.mem_cons_self
      rcases listMemory_calm short with ⟨s', deep⟩ | ⟨s', listed, talked, same⟩
      · exact Or.inr (Or.inl ⟨s', congrArg Prod.snd (Watched.andThen_error deep)⟩)
      · rw [Watched.andThen_still listed] at listable ⊢
        refine (rest s' talked same fun store frame member => ?_).after talked
        exact listable store frame (List.mem_cons_of_mem _ member)

/-- Each command takes a line, so the lines that wait at the console are enough for the pause. -/
theorem prompt_calm (fuel : Nat) (s : State) (h : s.Debuggable)
    (enough : s.console.replies.length < fuel)
    (listable : Listable ((Eval.prompt canEvaluate depth fuel).watch below mode s).1) :
    Calm s ((Eval.prompt canEvaluate depth fuel).watch below mode s).2 := by
  induction fuel generalizing s with
  | zero => omega
  | succ fuel ih =>
    cases waiting : s.console.replies with
    | nil => exact Or.inl (Watched.andThen_atPrompt (askAtPrompt_nil waiting))
    | cons r rest =>
      obtain ⟨s₁, asked, talked, left⟩ := askAtPrompt_cons waiting (h.plain r (by simp [waiting]))
      have turn : (Eval.prompt canEvaluate depth (fuel + 1)).watch below mode s =
          (Eval.answer canEvaluate depth (Eval.prompt canEvaluate depth fuel) r.line).watch below
            mode s₁ := Watched.andThen_still asked
      rw [turn] at listable ⊢
      refine (answer_calm (h.plain r (by simp [waiting])).line (fun s' later same => ?_)
        listable).after talked
      refine ih s' (later.debuggable (talked.debuggable h)) ?_
      rw [same, left]
      simpa [waiting] using enough

/-- A line is printed, if what comes after it is calm. -/
theorem print_calm {t : String} {next : Unit → Pause Unit} {s : State}
    (rest : ∀ s', Talked s s' → s'.debugger = s.debugger →
      s'.console.replies = s.console.replies →
      Listable ((next ()).watch below mode s').1 → Calm s' ((next ()).watch below mode s').2)
    (listable : Listable ((Pause.print t >>= next).watch below mode s).1) :
    Calm s ((Pause.print t >>= next).watch below mode s).2 := by
  obtain ⟨s', said, talked, debugger, replies⟩ := say_talked t s
  have same : (Pause.print t >>= next).watch below mode s = (next ()).watch below mode s' :=
    Watched.andThen_still said
  rw [same] at listable ⊢
  exact (rest s' talked debugger replies listable).after talked

theorem pause_calm (fuel : Nat) (line : Int) (shown : String) (reason : PauseReason) (s : State)
    (h : s.Debuggable) (enough : s.console.replies.length < fuel)
    (listable : Listable ((Eval.pause canEvaluate depth fuel line shown reason).watch below mode
      s).1) :
    Calm s ((Eval.pause canEvaluate depth fuel line shown reason).watch below mode s).2 := by
  cases reason with
  | breakpoint =>
    refine print_calm (fun s₁ talked₁ _ replies₁ => ?_) listable
    refine print_calm fun s₂ talked₂ _ replies₂ => ?_
    refine prompt_calm fuel s₂ (talked₂.debuggable (talked₁.debuggable h)) ?_
    rwa [replies₂, replies₁]
  | step | next | out =>
    refine print_calm (fun s₁ talked₁ _ replies₁ => ?_) listable
    refine prompt_calm fuel s₁ (talked₁.debuggable h) ?_
    rwa [replies₁]

theorem Talked.setDebugger (s : State) {d : Debugger} (ready : d.Ready) :
    Talked s { s with debugger := d } :=
  ⟨rfl, rfl, rfl, List.suffix_rfl, fun _ => ready⟩

theorem checkMark_calm (line : Int) (s : State) (h : s.Debuggable)
    (listable : Listable ((Eval.checkMark canEvaluate depth (some (.number line))).watch below mode
      s).1) :
    Calm s ((Eval.checkMark canEvaluate depth (some (.number line))).watch below mode s).2 := by
  obtain ⟨reason, d, checked, ready⟩ := h.ready.check line depth (.number line)
  refine print_calm (fun s₁ talked₁ _ replies₁ listable₁ => ?_) listable
  have talked₂ := Talked.setDebugger s₁ ready
  -- The debugger is consulted in the state before the line was printed.
  let go := Eval.proceed (Eval.pause canEvaluate depth (s.console.replies.length + 1) line
    (toString line))
  have same : (go (reason, d)).watch below mode s₁ =
      ((liftM (s.debugger.check line depth (.number line)) >>= go : Pause Unit).watch below mode
        s₁) := by rw [checked]; rfl
  change Listable ((liftM (s.debugger.check line depth (.number line)) >>= go : Pause Unit).watch
    below mode s₁).1 at listable₁
  change Calm s₁ ((liftM (s.debugger.check line depth (.number line)) >>= go : Pause Unit).watch
    below mode s₁).2
  rw [← same] at listable₁ ⊢
  cases reason with
  | none => exact Or.inr (Or.inr ⟨_, rfl, talked₂⟩)
  | some reason =>
    refine (pause_calm _ line _ reason { s₁ with debugger := d } ?_ ?_ listable₁).after talked₂
    · exact talked₂.debuggable (talked₁.debuggable h)
    · exact replies₁ ▸ Nat.lt_succ_self _

/-- A check of a node keeps the run as it was, or stops it at the prompt. -/
theorem check_calm {t : Tree} (node : t.isNode) (s : State) (h : s.Debuggable)
    (listable : Listable (Eval.watchCheck below mode t s).1) :
    Calm s (Eval.watchCheck below mode t s).2 := by
  unfold Eval.watchCheck at listable ⊢
  by_cases debug : mode.debug
  · rw [if_pos debug] at listable ⊢
    cases t with
    | node label span children =>
      cases span with
      | none =>
        obtain ⟨s', said, talked, -⟩ := say_talked _ s
        exact Or.inr (Or.inr ⟨s', congrArg Prod.snd (Watched.andThen_still said), talked⟩)
      | some span => exact checkMark_calm _ s h listable
    | leaf | datum => simp [Tree.isNode] at node
  · rw [if_neg debug]
    exact Or.inr (Or.inr ⟨s, rfl, .refl s⟩)

end Check

end DeskScript
