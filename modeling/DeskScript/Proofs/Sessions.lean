import DeskScript.Proofs.Lines
import DeskScript.Proofs.Logged
import Mathlib

/-!
# Sessions

An interactive session runs the lines that it has collected whenever they are complete. If every line
is a script by itself, no line is lost and none is run twice, and the session does to variables,
functions, files and devices what a run of the lines from a file does.
-/

namespace DeskScript

variable {s s' : State}

open Syntax

/-! ### Statements one after the other -/

/-- The statements of a script, in two levels below it, after this value. -/
def watchBlock (last : Value) (trees : List Tree) : Watched Value :=
  (Eval.block last trees).watch (watchAt (nestingLimit - 2)) {}

/-- Statements run through from one state to another: each has a value that is no signal, and none of
them asks for a line. -/
inductive Completes : List Tree → State → State → Prop
  | nil (s : State) : Completes [] s s
  | cons {t : Tree} {rest : List Tree} {s s₁ s₂ : State} {v : Value}
      (silent : .ask ∉ (watchAt (nestingLimit - 2) {} t s).1)
      (ok : (watchAt (nestingLimit - 2) {} t s).2 = .ok v s₁) (plain : Eval.isSignal v = false)
      (after : Completes rest s₁ s₂) : Completes (t :: rest) s s₂

theorem Completes.append {first second : List Tree} {s s₂ : State}
    (completes : Completes (first ++ second) s s₂) :
    ∃ s₁, Completes first s s₁ ∧ Completes second s₁ s₂ := by
  induction first generalizing s with
  | nil => exact ⟨s, .nil s, completes⟩
  | cons t rest ih =>
    cases completes with
    | cons silent ok plain after =>
      obtain ⟨s₁, front, back⟩ := ih after
      exact ⟨s₁, .cons silent ok plain front, back⟩

theorem Watched.andThen_eq_ok {α β : Type} {x : Watched α} {f : α → Watched β} {b : β}
    (ok : (x.andThen f s).2 = .ok b s') :
    ∃ a s₁, (x s).2 = .ok a s₁ ∧ (f a s₁).2 = .ok b s' ∧
      (x.andThen f s).1 = (x s).1 ++ (f a s₁).1 := by
  cases first : (x s).2 with
  | ok a s₁ =>
    rw [andThen_ok first] at ok ⊢
    exact ⟨a, s₁, rfl, ok, rfl⟩
  | error e s₁ =>
    rw [andThen_error first] at ok
    cases ok

theorem watchBlock_cons (last : Value) (t : Tree) (rest : List Tree) :
    watchBlock last (t :: rest) = (watchAt (nestingLimit - 2) {} t).andThen fun v =>
      if Eval.isSignal v then .still (pure v) else watchBlock v rest := by
  have next : ∀ v : Value, Task.watch (watchAt (nestingLimit - 2)) {}
      (if Eval.isSignal v then pure v else Eval.block v rest) =
        if Eval.isSignal v then .still (pure v) else watchBlock v rest := by
    intro v
    cases Eval.isSignal v <;> rfl
  have run : watchBlock last (t :: rest) = (watchAt (nestingLimit - 2) {} t).andThen fun v =>
      Task.watch (watchAt (nestingLimit - 2)) {}
        (if Eval.isSignal v then pure v else Eval.block v rest) := rfl
  rw [run, funext next]

theorem watch_script (extent : Option Span) (trees : List Tree) :
    watch {} (.script extent trees) = watchBlock (.int 0) trees := by
  have unfold : watch {} (.script extent trees) =
      (watchBlock (.int 0) trees).andThen fun v => .still (pure v) := rfl
  funext s
  rw [unfold]
  cases run : (watchBlock (.int 0) trees s).2 with
  | ok v s' =>
    rw [Watched.andThen_ok run]
    exact Prod.ext (List.append_nil _) run.symm
  | error e s' =>
    rw [Watched.andThen_error run]
    exact Prod.ext rfl run.symm

/-- A script whose value is no signal has run through. -/
theorem completes_of_block {last v : Value} {trees : List Tree}
    (silent : .ask ∉ (watchBlock last trees s).1) (ok : (watchBlock last trees s).2 = .ok v s')
    (plain : Eval.isSignal v = false) : Completes trees s s' := by
  induction trees generalizing last s with
  | nil =>
    cases ok
    exact .nil _
  | cons t rest ih =>
    rw [watchBlock_cons] at silent ok
    obtain ⟨w, s₁, first, second, acts⟩ := Watched.andThen_eq_ok ok
    rw [acts, List.mem_append, not_or] at silent
    cases signal : Eval.isSignal w with
    | true =>
      rw [signal, if_pos rfl] at second
      cases second
      rw [signal] at plain
      cases plain
    | false =>
      rw [signal, if_neg Bool.false_ne_true] at second silent
      exact .cons silent.1 first signal (ih silent.2 second)

theorem Completes.block {trees : List Tree} (completes : Completes trees s s')
    (last : Value) : ∃ v, (watchBlock last trees s).2 = .ok v s' := by
  induction completes generalizing last with
  | nil s => exact ⟨last, rfl⟩
  | cons silent ok plain after ih =>
    rw [watchBlock_cons, Watched.andThen_ok ok, plain]
    exact ih _

/-! ### States side by side -/

/-- What the script has printed. -/
def Console.spoken (c : Console) : List (Speaker × String) := c.printed.toList.filter (·.1 = .script)

theorem Console.spoken_sayAll (c : Console) (texts : List (Speaker × String)) :
    (c.sayAll texts).spoken = c.spoken ++ texts.filter (·.1 = .script) := by
  simp [spoken, sayAll]

theorem Console.spoken_say (c : Console) (text : String) :
    (c.say .session text).spoken = c.spoken := by
  simp [spoken, say]

/-- Two states with the same devices, files and lists, with the same variables and functions up to
the places of these, and with the same texts printed by the script. -/
structure Beside (f s : State) : Prop where
  bench : s.machine.bench = f.machine.bench
  stack : s.stack.bare = f.stack.bare
  spoken : s.console.spoken = f.console.spoken

theorem Beside.refl (s : State) : Beside s s := ⟨rfl, rfl, rfl⟩

theorem Beside.trans {f s s' : State} (first : Beside f s) (second : Beside s s') : Beside f s' :=
  ⟨second.bench.trans first.bench, second.stack.trans first.stack,
    second.spoken.trans first.spoken⟩

theorem Console.sayAll_injective {c : Console} {texts texts' : List (Speaker × String)}
    (same : c.sayAll texts = c.sayAll texts') : texts = texts' := by
  have printed := congrArg (fun c => c.printed.toList) same
  simpa [sayAll] using printed

/-- Trees that differ in places only do the same side by side. -/
theorem beside_watchAt {n : Nat} {t t' : Tree} (same : t.bare = t'.bare) {f f₁ s : State} {v : Value}
    (silent : .ask ∉ (watchAt n {} t f).1) (ok : (watchAt n {} t f).2 = .ok v f₁)
    (beside : Beside f s) :
    .ask ∉ (watchAt n {} t' s).1 ∧ ∃ s₁, (watchAt n {} t' s).2 = .ok v s₁ ∧ Beside f₁ s₁ ∧
      s₁.console.replies = s.console.replies := by
  -- Both are compared with the tree without places, run from the second state without them.
  let middle : State := { s with stack := s.stack.bare }
  have left : Level f middle := ⟨beside.bench, beside.stack⟩
  have right : Level s middle := ⟨rfl, rfl⟩
  have paired (t : Tree) : Paired (watchAt n {} t) (watchAt n {} t.bare) := paired_watchAt n rfl t
  rcases paired t f middle left with ⟨asks, -⟩ |
    ⟨-, quiet, result, f₂, m₁, texts, endf, endm, level, said, saidm⟩
  · exact absurd asks silent
  rcases paired t' s middle right with ⟨-, asks⟩ |
    ⟨still, -, result', s₁, m₂, texts', ends, endm', level', said', saidm'⟩
  · rw [← same] at asks
    exact absurd asks quiet
  rw [← same] at endm'
  obtain ⟨rfl, rfl⟩ := ending_injective (endm.symm.trans endm')
  have ends_ok : (watchAt n {} t f).2 = ending (.ok v) f₁ := ok
  obtain ⟨rfl, rfl⟩ := ending_injective (endf.symm.trans ends_ok)
  obtain rfl := Console.sayAll_injective (saidm.symm.trans saidm')
  refine ⟨still, s₁, ends, ⟨?_, ?_, ?_⟩, by rw [said']; rfl⟩
  · exact level'.bench.symm.trans level.bench
  · exact level'.stack.symm.trans level.stack
  · rw [said, said', Console.spoken_sayAll, Console.spoken_sayAll, beside.spoken]

theorem Completes.beside {trees trees' : List Tree} {f f₁ s : State}
    (completes : Completes trees f f₁) (same : trees.map Tree.bare = trees'.map Tree.bare)
    (beside : Beside f s) :
    ∃ s₁, Completes trees' s s₁ ∧ Beside f₁ s₁ ∧ s₁.console.replies = s.console.replies := by
  induction completes generalizing trees' s with
  | nil f =>
    obtain rfl : trees' = [] := by simpa using same.symm
    exact ⟨s, .nil s, beside, rfl⟩
  | cons silent ok plain after ih =>
    obtain ⟨t', rest', rfl, head, tail⟩ := List.map_eq_cons_iff.mp same.symm
    obtain ⟨still, s₁, ok', beside₁, replies₁⟩ := beside_watchAt head.symm silent ok beside
    obtain ⟨s₂, completes', beside₂, replies₂⟩ := ih tail.symm beside₁
    exact ⟨s₂, .cons still ok' plain completes', beside₂, replies₂.trans replies₁⟩

/-! ### What a session executes -/

namespace Session

variable {s : State} {rest : List Reply} {extent : Option Span} {buffer line : String} {trees : List Tree}
  {text : String}

/-- Reads a text and evaluates it, with the text. -/
def logEvaluate (mode : Mode) (text : String) : Logged String Value :=
  fun s => ([text], evaluate mode text s)

/-- Runs lines, with the text that is evaluated. -/
def logExecute (mode : Mode) (buffer : String) : Logged String Unit :=
  if (Text.strip buffer).isEmpty then .still (pure ())
  else (logEvaluate mode buffer).andThen fun v => .still (do
    if !v.isNull then
      let shown ← Op.shown v
      say shown)

/-- A turn, with the text that it evaluates. -/
def logTurn (mode : Mode) (buffer : String) : Logged String String :=
  (Logged.still (Action.askAs .session (promptFor buffer) : Action String)).andThen fun line =>
    if isComplete (buffer ++ line ++ "\n") line then
      (Logged.still (say "Executing...")).andThen fun _ =>
        (logExecute mode (buffer ++ line ++ "\n")).andThen fun _ => .still (pure "")
    else .still (pure (buffer ++ line ++ "\n"))

/-- A turn, with what follows an error. -/
def logRound (mode : Mode) (buffer : String) : Logged String (Option String) :=
  ((logTurn mode buffer).andThen fun buffer => .still (pure (some buffer))).rescue recover

/-- Goes on with a buffer, with the texts that are evaluated. -/
def logConverse (mode : Mode) : Nat → String → Logged String Unit
  | 0, _ => .still (pure ())
  | fuel + 1, buffer => (logRound mode buffer).andThen fun next =>
    match next with
    | some buffer => logConverse mode fuel buffer
    | none => .still (pure ())

/-- The interactive session, with the texts that it evaluates. -/
def logInteractive (debug : Bool) : Logged String Unit :=
  (Logged.still (say "Macroni Interactive Mode")).andThen fun _ =>
    (Logged.still (say "Enter code (will execute when brackets/braces are balanced)")).andThen fun _ =>
      (Logged.still (say "")).andThen fun _ => .looking fun s =>
        logConverse { debug } (s.machine.world.replies.length + 1) ""

/-- The texts that an interactive session evaluates. -/
def executed (debug : Bool) (s : State) : List String := (logInteractive debug s).1

/-- Whether a text is more than white space. -/
def hasWords (text : String) : Bool := !(Text.strip text).isEmpty

theorem logExecute_apply (mode : Mode) (buffer : String) (s : State) :
    logExecute mode buffer s = ([buffer].filter hasWords, execute mode buffer s) := by
  by_cases blank : (Text.strip buffer).isEmpty
  · have none : [buffer].filter hasWords = [] := by simp [hasWords, blank]
    rw [logExecute, execute, if_pos blank, if_pos blank, none]
    rfl
  · have all : [buffer].filter hasWords = [buffer] := by simp [hasWords, blank]
    rw [logExecute, execute, if_neg blank, if_neg blank, all]
    cases ended : evaluate mode buffer s with
    | ok v s' =>
      have logged : logEvaluate mode buffer s = ([buffer], .ok v s') := by rw [logEvaluate, ended]
      rw [Logged.andThen_ok logged]
      simp only [bind, EStateM.bind, ended]
      rfl
    | error e s' =>
      have logged : logEvaluate mode buffer s = ([buffer], .error e s') := by
        rw [logEvaluate, ended]
      rw [Logged.andThen_error logged]
      simp only [bind, EStateM.bind, ended]

theorem forget_logExecute (mode : Mode) (buffer : String) :
    (logExecute mode buffer).forget = execute mode buffer := by
  funext s
  rw [Logged.forget, logExecute_apply]

theorem forget_logTurn (mode : Mode) (buffer : String) :
    (logTurn mode buffer).forget = turn mode buffer := by
  rw [logTurn, Logged.forget_andThen]
  refine congrArg (_ >>= ·) (funext fun line => ?_)
  by_cases complete : isComplete (buffer ++ line ++ "\n") line
  · simp only [complete, if_true, Logged.forget_andThen, Logged.forget_still, forget_logExecute]
  · simp only [complete]
    rfl

theorem forget_logConverse (mode : Mode) (fuel : Nat) (buffer : String) :
    (logConverse mode fuel buffer).forget = converse mode fuel buffer := by
  induction fuel generalizing buffer with
  | zero => rfl
  | succ fuel ih =>
    rw [logConverse, converse, Logged.forget_andThen, logRound, Logged.forget_rescue,
      Logged.forget_andThen, forget_logTurn]
    refine congrArg (_ >>= ·) (funext fun next => ?_)
    cases next with
    | some buffer => exact ih buffer
    | none => rfl

/-- Keeping the texts does not change a session. -/
theorem forget_logInteractive (debug : Bool) :
    (logInteractive debug).forget = interactive debug := by
  have last : (Logged.looking fun s =>
      logConverse { debug } (s.machine.world.replies.length + 1) "").forget =
        (do converse { debug } ((← get).machine.world.replies.length + 1) "") := by
    funext s
    exact congrFun (forget_logConverse _ _ _) s
  rw [logInteractive, Logged.forget_andThen, Logged.forget_andThen, Logged.forget_andThen, last]
  rfl

/-! ### Speaking and asking -/

theorem say_beside (text : String) (s : State) :
    ∃ s', (say text : Interp Unit) s = .ok () s' ∧ Beside s s' ∧
      s'.console = s.console.say .session (text ++ "\n") :=
  ⟨_, rfl, ⟨rfl, rfl, Console.spoken_say _ _⟩, rfl⟩

theorem ask_next {line : String}
    (next : s.console.replies = { line := line } :: rest) (prompt : String) :
    ∃ s', (Action.askAs .session prompt : Interp String) s = .ok line s' ∧ Beside s s' ∧
      s'.console.replies = rest := by
  obtain ⟨⟨⟨desk, ⟨replies, printed⟩⟩, store, templates⟩, stack, debugger⟩ := s
  obtain rfl : replies = _ := next
  exact ⟨_, rfl, ⟨rfl, rfl, Console.spoken_say ⟨rest, printed⟩ prompt⟩, rfl⟩

theorem ask_end (none : s.console.replies = []) (prompt : String) :
    ∃ s', (Action.askAs .session prompt : Interp String) s = .error .endOfInput s' ∧ Beside s s' := by
  obtain ⟨⟨⟨desk, ⟨replies, printed⟩⟩, store, templates⟩, stack, debugger⟩ := s
  obtain rfl : replies = [] := none
  exact ⟨_, rfl, ⟨rfl, rfl, Console.spoken_say ⟨[], printed⟩ prompt⟩⟩

/-- An error that does not end a session, and is no interruption. -/
def Usual (e : Error) : Prop := e ≠ .endOfInput ∧ e ≠ .interrupted

theorem recover_usual {e : Error} (usual : Usual e) (s : State) :
    ∃ s', recover e s = .ok (some "") s' ∧ Beside s s' ∧ s'.console.replies = s.console.replies := by
  obtain ⟨s', said, beside, console⟩ := say_beside s!"Error: {e.message}" s
  have run : recover e = (do say s!"Error: {e.message}"; return some "") := by
    cases e with
    | endOfInput => exact absurd rfl usual.1
    | interrupted => exact absurd rfl usual.2
    | _ => rfl
  refine ⟨s', ?_, beside, by rw [console]; rfl⟩
  simp only [run, bind, EStateM.bind, said]
  rfl

theorem shown_apply (v : Value) (s : State) :
    (Op.shown v : Interp String) s = ending (s.machine.store.shown v) s := by
  have run : (Op.shown v : Interp String) s =
      Interp.ofOp (liftM (s.machine.store.shown v) : Op String) s := rfl
  rw [run]
  cases s.machine.store.shown v <;> rfl

theorem shown_usual {store : Store} {v : Value} {e : Error} (failed : store.shown v = .error e) :
    Usual e := by
  have fails : ∃ fuel path, store.quotedAt fuel path v = .error e := by
    cases v with
    | text t => cases failed
    | _ => exact ⟨_, _, failed⟩
  obtain ⟨fuel, path, failed⟩ := fails
  rcases Store.quotedAt_fails failed with rfl | ⟨rfl, -⟩ <;> exact ⟨nofun, nofun⟩

/-- Showing a value at the console prints a text for the session, or fails in a usual way. -/
theorem show_value (v : Value) (s : State) :
    ∃ result s', (do say (← Op.shown v) : Interp Unit) s = ending result s' ∧ Beside s s' ∧
      s'.console.replies = s.console.replies ∧ ∀ e, result = .error e → Usual e := by
  have shows := shown_apply v s
  cases failed : s.machine.store.shown v with
  | error e =>
    rw [failed] at shows
    have run : (do say (← Op.shown v) : Interp Unit) s = ending (.error e) s := by
      simp only [bind, EStateM.bind, shows, ending]
    refine ⟨_, _, run, .refl s, rfl, ?_⟩
    rintro e' ⟨⟩
    exact shown_usual failed
  | ok t =>
    rw [failed] at shows
    obtain ⟨s', said, beside, console⟩ := say_beside t s
    have run : (do say (← Op.shown v) : Interp Unit) s = ending (.ok ()) s' := by
      simp only [bind, EStateM.bind, shows, ending, said]
    exact ⟨_, _, run, beside, by rw [console]; rfl, fun _ failed => by cases failed⟩

/-! ### Turns -/

theorem evaluate_completes {s s₁ : State}
    (parsed : parse text = .ok (.script extent trees)) (completes : Completes trees s s₁) :
    ∃ v, evaluate {} text s = .ok v s₁ := by
  obtain ⟨v, ok⟩ := completes.block (.int 0)
  refine ⟨v, ?_⟩
  rw [← watch_script extent] at ok
  rw [evaluate, parsed]
  exact (congrFun (forget_watch {} (.script extent trees)) s).symm.trans ok

/-- Statements that run through do so as well when a session executes them. That their value cannot
be shown is the one thing that can fail then. -/
theorem execute_completes {s s₁ : State}
    (parsed : parse text = .ok (.script extent trees)) (completes : Completes trees s s₁) :
    ∃ result s₂, execute {} text s = ending result s₂ ∧ Beside s₁ s₂ ∧
      s₂.console.replies = s₁.console.replies ∧ ∀ e, result = .error e → Usual e := by
  by_cases blank : (Text.strip text).isEmpty
  · obtain rfl := trees_of_blank (blank_of_strip blank) (parse_iff.mp parsed)
    cases completes
    refine ⟨.ok (), s, ?_, .refl s, rfl, fun _ failed => by cases failed⟩
    rw [execute, if_pos blank]
    rfl
  · obtain ⟨v, ok⟩ := evaluate_completes parsed completes
    have run : execute {} text s = (do
        if !v.isNull then
          let shown ← Op.shown v
          say shown : Interp Unit) s₁ := by
      rw [execute, if_neg blank]
      simp only [bind, EStateM.bind, ok]
    rw [run]
    cases v.isNull with
    | true => exact ⟨.ok (), s₁, rfl, .refl s₁, rfl, fun _ failed => by cases failed⟩
    | false => exact show_value v s₁

/-- A line that does not complete the buffer is kept. -/
theorem logRound_collect
    (next : s.console.replies = { line := line } :: rest)
    (incomplete : isComplete (buffer ++ line ++ "\n") line = false) :
    ∃ s', logRound {} buffer s = ([], .ok (some (buffer ++ line ++ "\n")) s') ∧ Beside s s' ∧
      s'.console.replies = rest := by
  obtain ⟨s', asked, beside, replies⟩ := ask_next next (promptFor buffer)
  refine ⟨s', ?_, beside, replies⟩
  have taken : logTurn {} buffer s = ([], .ok (buffer ++ line ++ "\n") s') := by
    rw [logTurn, Logged.andThen_ok (Prod.ext rfl asked), incomplete]
    rfl
  exact Logged.rescue_ok (Logged.andThen_ok taken)

theorem logTurn_complete
    (next : s.console.replies = { line := line } :: rest)
    (complete : isComplete (buffer ++ line ++ "\n") line) :
    ∃ s₁, logTurn {} buffer s = ((logExecute {} (buffer ++ line ++ "\n")).andThen fun _ =>
        .still (pure "")) s₁ ∧
      Beside s s₁ ∧ s₁.console.replies = rest := by
  obtain ⟨s₁, asked, beside, replies⟩ := ask_next next (promptFor buffer)
  have first : Logged.still (Action.askAs .session (promptFor buffer) : Action String) s =
      (([] : List String), .ok line s₁) := Prod.ext rfl asked
  obtain ⟨s₂, said, beside', console⟩ := say_beside "Executing..." s₁
  have second : Logged.still (say "Executing...") s₁ = (([] : List String), .ok () s₂) :=
    Prod.ext rfl said
  refine ⟨s₂, ?_, beside.trans beside', by rw [console]; exact replies⟩
  rw [logTurn, Logged.andThen_ok first, complete, if_pos rfl, Logged.andThen_ok second]
  simp only [List.nil_append]

/-- A line that completes the buffer lets it run, side by side with its statements. -/
theorem logRound_run
    {trees trees' : List Tree} {f f₁ s : State}
    (next : s.console.replies = { line := line } :: rest)
    (complete : isComplete (buffer ++ line ++ "\n") line)
    (parsed : parse (buffer ++ line ++ "\n") = .ok (.script extent trees'))
    (completes : Completes trees f f₁) (same : trees.map Tree.bare = trees'.map Tree.bare)
    (beside : Beside f s) :
    ∃ s', logRound {} buffer s =
        ([buffer ++ line ++ "\n"].filter hasWords, .ok (some "") s') ∧
      Beside f₁ s' ∧ s'.console.replies = rest := by
  obtain ⟨s₁, turn, beside₁, replies₁⟩ := logTurn_complete next complete
  obtain ⟨s₂, completes', beside₂, replies₂⟩ := completes.beside same (beside.trans beside₁)
  obtain ⟨result, s₃, ran, beside₃, replies₃, usual⟩ := execute_completes parsed completes'
  have replies : s₃.console.replies = rest := replies₃.trans (replies₂.trans replies₁)
  have logged : logExecute {} (buffer ++ line ++ "\n") s₁ =
      ([buffer ++ line ++ "\n"].filter hasWords, ending result s₃) := by rw [logExecute_apply, ran]
  cases result with
  | ok u =>
    rw [ending] at logged
    refine ⟨s₃, ?_, beside₂.trans beside₃, replies⟩
    rw [Logged.andThen_ok logged] at turn
    rw [logRound, Logged.rescue_ok (Logged.andThen_ok turn)]
    simp only [Logged.still, List.append_nil]
  | error e =>
    rw [ending] at logged
    obtain ⟨s₄, recovered, beside₄, replies₄⟩ := recover_usual (usual e rfl) s₃
    refine ⟨s₄, ?_, (beside₂.trans beside₃).trans beside₄, replies₄.trans replies⟩
    rw [Logged.andThen_error logged] at turn
    rw [logRound, Logged.rescue_error (Logged.andThen_error turn), recovered]

/-- Without a line left the session ends. -/
theorem logRound_end {buffer : String} (none : s.console.replies = []) :
    ∃ s', logRound {} buffer s = ([], .ok Option.none s') ∧ Beside s s' ∧
      s'.console.printed.back? = some (.session, "\nExiting...\n") := by
  obtain ⟨s₁, asked, beside⟩ := ask_end none (promptFor buffer)
  obtain ⟨s₂, said, beside', console⟩ := say_beside "\nExiting..." s₁
  refine ⟨s₂, ?_, beside.trans beside', by rw [console]; exact Array.back?_push⟩
  have taken : logTurn {} buffer s = ([], .error .endOfInput s₁) :=
    Logged.andThen_error (Prod.ext rfl asked)
  rw [logRound, Logged.rescue_error (Logged.andThen_error taken)]
  simp only [recover, bind, EStateM.bind, said]
  rfl

/-! ### Whole sessions -/

/-- A turn with one more line: the lines held are run with it and nothing is held any more, or the
line is held with them. -/
theorem logRound_line {held rest : List String} {line : String}
    (usable : ∀ l ∈ held ++ [line], Usable l)
    (same : trees.map Tree.bare = (held ++ [line] ++ rest).flatMap statements) {f f₁ s : State}
    (completes : Completes trees f f₁) (beside : Beside f s) {more : List Reply}
    (replies : s.console.replies = { line := line } :: more) :
    ∃ (groups : List (List String)) (held' : List String) (trees' : List Tree) (f' s' : State),
      logRound {} (gathered held) s =
        ((groups.map gathered).filter hasWords, .ok (some (gathered held')) s') ∧
      groups.flatten ++ held' = held ++ [line] ∧
      (isComplete (gathered (held ++ [line])) line → held' = []) ∧
      Beside f' s' ∧ s'.console.replies = more ∧ Completes trees' f' f₁ ∧
      trees'.map Tree.bare = (held' ++ rest).flatMap statements := by
  cases complete : isComplete (gathered (held ++ [line])) line with
  | true =>
    obtain ⟨extent, own, parsed, same'⟩ := parse_gathered usable
    rw [List.flatMap_append] at same
    obtain ⟨first, second, rfl, front, back⟩ := List.map_eq_append_iff.mp same
    obtain ⟨f', completes₁, completes₂⟩ := completes.append
    rw [gathered_concat] at complete parsed
    obtain ⟨s', round, beside', replies'⟩ :=
      logRound_run replies complete parsed completes₁ (front.trans same'.symm) beside
    refine ⟨[held ++ [line]], [], second, f', s', ?_, by simp, fun _ => rfl, beside', replies',
      completes₂, back⟩
    rw [round, List.map_singleton, gathered_concat]
    rfl
  | false =>
    rw [gathered_concat] at complete
    obtain ⟨s', round, beside', replies'⟩ := logRound_collect replies complete
    refine ⟨[], held ++ [line], trees, f, s', ?_, rfl, nofun, beside.trans beside', replies',
      completes, same⟩
    rw [round, gathered_concat]
    rfl

/-- A blank line after usable ones completes the buffer. -/
theorem isComplete_blank {lines : List String} (usable : ∀ line ∈ lines, Usable line) :
    isComplete (gathered (lines ++ [""])) "" := by
  have closed := unclosed_gathered (usable_concat_nil usable)
  have blank : (Text.strip "").toList.isEmpty = true := by decide
  simp [isComplete, closed, blank]

theorem logConverse_cons {fuel : Nat} {buffer buffer' : String} {texts later : List String}
    {s s₁ s₂ : State} (round : logRound {} buffer s = (texts, .ok (some buffer') s₁))
    (rest : logConverse {} fuel buffer' s₁ = (later, .ok () s₂)) :
    logConverse {} (fuel + 1) buffer s = (texts ++ later, .ok () s₂) := by
  rw [logConverse, Logged.andThen_ok round]
  simp only [rest]

/-- A session that holds some lines and gets the rest, and then a blank line, runs all of them in
groups, side by side with a run of their statements. -/
theorem logConverse_lines {held rest : List String} (usable : ∀ line ∈ held ++ rest, Usable line)
    {trees : List Tree} (same : trees.map Tree.bare = (held ++ rest).flatMap statements)
    {f f₁ s : State} (completes : Completes trees f f₁) (beside : Beside f s)
    (replies : s.console.replies = (rest ++ [""]).map fun line => { line := line })
    {fuel : Nat} (enough : rest.length + 2 ≤ fuel) :
    ∃ (groups : List (List String)) (s₁ : State), groups.flatten = held ++ rest ++ [""] ∧
      logConverse {} fuel (gathered held) s = ((groups.map gathered).filter hasWords, .ok () s₁) ∧
      Beside f₁ s₁ ∧ s₁.console.printed.back? = some (.session, "\nExiting...\n") := by
  induction rest generalizing held trees f s fuel with
  | nil =>
    rw [List.append_nil] at usable same
    obtain ⟨fuel, rfl⟩ : ∃ n, fuel = n + 1 + 1 := ⟨fuel - 2, by simp at enough; omega⟩
    have same' : trees.map Tree.bare = (held ++ [""] ++ []).flatMap statements := by
      simpa [statements_nil] using same
    obtain ⟨groups, held', trees', f', s', round, parts, empty, beside', replies', completes', own⟩ :=
      logRound_line (usable_concat_nil usable) same' completes beside replies
    obtain rfl := empty (isComplete_blank usable)
    obtain rfl : trees' = [] := by simpa using own
    cases completes'
    obtain ⟨s₁, last, beside₁, printed⟩ := logRound_end replies'
    have ends : logConverse {} (fuel + 1) (gathered []) s' = ([], .ok () s₁) := by
      rw [logConverse, Logged.andThen_ok last]
      rfl
    refine ⟨groups, s₁, by simpa using parts, ?_, beside'.trans beside₁, printed⟩
    rw [logConverse_cons round ends, List.append_nil]
  | cons line rest ih =>
    obtain ⟨fuel, rfl⟩ : ∃ n, fuel = n + 1 := ⟨fuel - 1, by simp at enough; omega⟩
    have split : held ++ line :: rest = held ++ [line] ++ rest := by simp
    rw [split] at usable same
    obtain ⟨groups, held', trees', f', s', round, parts, -, beside', replies', completes', own⟩ :=
      logRound_line (fun l member => usable l (List.mem_append_left _ member)) same completes beside
        replies
    have usable' : ∀ l ∈ held' ++ rest, Usable l := by
      intro l member
      rcases List.mem_append.mp member with member | member
      · exact usable l (List.mem_append_left _ (parts ▸ List.mem_append_right _ member))
      · exact usable l (List.mem_append_right _ member)
    obtain ⟨groups', s₁, parts', later, beside₁, printed⟩ :=
      ih usable' own completes' beside' replies' (by simp at enough; omega)
    refine ⟨groups ++ groups', s₁, ?_, ?_, beside₁, printed⟩
    · rw [List.flatten_append, parts', split, ← parts]
      simp
    · rw [logConverse_cons round later, List.map_append, List.filter_append]

theorem lift_bind_ok {α β : Type} {x : Except Error α} {a : α} (ok : x = .ok a) (f : α → Interp β)
    (s : State) : ((liftM x : Interp α) >>= f) s = f a s := by
  subst ok
  rfl

/-- A script file is run by evaluating its tree. -/
theorem runFile_apply {path script text : String} {t : Tree}
    (file : s.machine.world.files.read path = .ok script)
    (linked : linked s.machine.world.files script = .ok text) (parsed : parse text = .ok t) :
    runFile path false [] s = (do let _ ← eval {} t : Interp Unit) s := by
  have tree : Session.parsed text = .ok t := by rw [Session.parsed, parsed]
  have reading : runFile path false [] s =
      ((liftM (s.machine.world.files.read path) : Interp String) >>= fun script => do
        let text ← Session.linked (← get).machine.world.files script
        let tree ← Session.parsed text
        let _ ← eval {} tree) s := rfl
  have linking : (do
        let text ← Session.linked (← get).machine.world.files script
        let tree ← Session.parsed text
        let _ ← eval {} tree : Interp Unit) s =
      ((liftM (Session.linked s.machine.world.files script) : Interp String) >>= fun text => do
        let tree ← Session.parsed text
        let _ ← eval {} tree) s := rfl
  rw [reading, lift_bind_ok file, linking, lift_bind_ok linked, lift_bind_ok tree]

theorem eval_done_iff {t : Tree} {s s₁ : State} :
    (do let _ ← eval {} t : Interp Unit) s = .ok () s₁ ↔ ∃ v, eval {} t s = .ok v s₁ := by
  cases ended : eval {} t s with
  | ok v s' => simp [bind, EStateM.bind, pure, EStateM.pure, ended]
  | error e s' => simp [bind, EStateM.bind, ended]

theorem logInteractive_greets (debug : Bool) (s : State) :
    ∃ s₁, logInteractive debug s =
        logConverse { debug } (s.console.replies.length + 1) "" s₁ ∧
      Beside s s₁ ∧ s₁.console.replies = s.console.replies := by
  obtain ⟨s₁, said₁, beside₁, console₁⟩ := say_beside "Macroni Interactive Mode" s
  obtain ⟨s₂, said₂, beside₂, console₂⟩ :=
    say_beside "Enter code (will execute when brackets/braces are balanced)" s₁
  obtain ⟨s₃, said₃, beside₃, console₃⟩ := say_beside "" s₂
  have replies : s₃.console.replies = s.console.replies := by
    rw [console₃, console₂, console₁]
    rfl
  refine ⟨s₃, ?_, (beside₁.trans beside₂).trans beside₃, replies⟩
  rw [logInteractive, Logged.andThen_ok (Prod.ext rfl said₁), Logged.andThen_ok (Prod.ext rfl said₂),
    Logged.andThen_ok (Prod.ext rfl said₃), ← replies]
  rfl

/-- The state with these lines to come at the console. -/
def awaiting (s : State) (lines : List String) : State :=
  s.put s.machine.bench ⟨lines.map fun line => { line := line }, s.console.printed⟩

/-- A session that gets usable lines and then a blank one runs all of them in groups, one after the
other, and ends. It leaves the same variables and functions, the latter up to the places of their
bodies, the same files and devices, and the same texts printed by the script, as a run of the lines
from a file, if that run comes to its end with a value that is no signal, so that no statement of
the script gives one, and asks for no line. -/
theorem interactive_follows_file {lines : List String} {path : String} {t : Tree} {s s₁ : State}
    (usable : ∀ line ∈ lines, Usable line)
    (file : s.machine.world.files.read path = .ok ("\n".intercalate lines))
    (parsed : parse (joined [] ("\n".intercalate lines)) = .ok t)
    (silent : .ask ∉ history {} t s)
    (plain : ∀ v s', eval {} t s = .ok v s' → Eval.isSignal v = false)
    (ran : runFile path false [] s = .ok () s₁) :
    ∃ (groups : List (List String)) (s₂ : State), groups.flatten = lines ++ [""] ∧
      executed false (awaiting s (lines ++ [""])) = (groups.map gathered).filter hasWords ∧
      interactive false (awaiting s (lines ++ [""])) = .ok () s₂ ∧
      s₂.console.printed.back? = some (.session, "\nExiting...\n") ∧
      s₂.machine.bench = s₁.machine.bench ∧ s₂.stack.bare = s₁.stack.bare ∧
      s₂.console.spoken = s₁.console.spoken := by
  obtain ⟨linked, extent, trees, parsed', own⟩ := linked_lines usable s.machine.world.files
  rw [runFile_apply file linked parsed] at ran
  obtain ⟨v, ended⟩ := eval_done_iff.mp ran
  obtain rfl : t = .script extent trees := Except.ok.inj (parsed.symm.trans parsed')
  have completes : Completes trees s s₁ := by
    have block := watch_script extent trees
    have ends := (congrFun (forget_watch {} (.script extent trees)) s).trans ended
    rw [history, block] at silent
    rw [Watched.forget, block] at ends
    exact completes_of_block silent ends (plain v s₁ ended)
  obtain ⟨s₂, greeted, beside₂, replies₂⟩ := logInteractive_greets false (awaiting s (lines ++ [""]))
  have start : Beside s (awaiting s (lines ++ [""])) := ⟨rfl, rfl, rfl⟩
  have enough : lines.length + 2 ≤ (awaiting s (lines ++ [""])).console.replies.length + 1 := by
    simp [awaiting, State.console, State.put]
  obtain ⟨groups, s₃, parts, session, beside₃, printed⟩ :=
    @logConverse_lines [] lines usable trees own s s₁ s₂ completes (start.trans beside₂) replies₂ _
      enough
  have logged := greeted.trans session
  refine ⟨groups, s₃, parts, ?_, ?_, printed, beside₃.bench, beside₃.stack, beside₃.spoken⟩
  · rw [executed, logged]
  · rw [← forget_logInteractive, Logged.forget, logged]

/-- Three lines, of which the second one does not complete the buffer. -/
def threeLines : List String :=
  ["fn f(a) \x7b return a; \x7d", "x = 1; # one", "y = f(x);"]

/-- A state with the lines in a file. -/
def threeLinesState : State :=
  { machine := { world := { files := ⟨[(["a"], .text ("\n".intercalate threeLines))]⟩ } } }

theorem usable_threeLines : ∀ line ∈ threeLines, Usable line := by decide +kernel

def isAsk : Act → Bool
  | .ask => true
  | _ => false

/-- The second line is held until the third one comes. -/
theorem interactive_follows_file_threeLines : ∃ t s₁, (∀ line ∈ threeLines, Usable line) ∧
    threeLinesState.machine.world.files.read "a" = .ok ("\n".intercalate threeLines) ∧
    parse (joined [] ("\n".intercalate threeLines)) = .ok t ∧
    .ask ∉ history {} t threeLinesState ∧
    (∀ v s', eval {} t threeLinesState = .ok v s' → Eval.isSignal v = false) ∧
    runFile "a" false [] threeLinesState = .ok () s₁ ∧
    ∃ (groups : List (List String)) (s₂ : State), groups.flatten = threeLines ++ [""] ∧
      executed false (awaiting threeLinesState (threeLines ++ [""])) =
        (groups.map gathered).filter hasWords ∧
      interactive false (awaiting threeLinesState (threeLines ++ [""])) = .ok () s₂ ∧
      s₂.console.printed.back? = some (.session, "\nExiting...\n") ∧
      s₂.machine.bench = s₁.machine.bench ∧ s₂.stack.bare = s₁.stack.bare ∧
      s₂.console.spoken = s₁.console.spoken := by
  have file : threeLinesState.machine.world.files.read "a" = .ok ("\n".intercalate threeLines) := by
    have parts : Files.parts "a" = .ok ([], ["a"]) := by cbv
    have place : threeLinesState.machine.world.files.place "a" = .ok ["a"] := by
      rw [Files.place, parts]
      decide +kernel
    have text : String.ofList (unixLines ("\n".intercalate threeLines).toList) =
        "\n".intercalate threeLines := by decide +kernel
    rw [Files.read, place, ← text]
    rfl
  have linked := (linked_lines usable_threeLines threeLinesState.machine.world.files).1
  obtain ⟨t, parsed, asks, v, s₁, ended, signal⟩ :
      ∃ t, parse (joined [] ("\n".intercalate threeLines)) = .ok t ∧
        (∀ act ∈ history {} t threeLinesState, isAsk act = false) ∧
        ∃ v s₁, eval {} t threeLinesState = .ok v s₁ ∧ Eval.isSignal v = false := by decide +kernel
  have silent : .ask ∉ history {} t threeLinesState := fun asked => absurd (asks _ asked) (by decide)
  have plain : ∀ v' s', eval {} t threeLinesState = .ok v' s' → Eval.isSignal v' = false := by
    intro v' s' ended'
    cases ended.symm.trans ended'
    exact signal
  have ran : runFile "a" false [] threeLinesState = .ok () s₁ := by
    rw [runFile_apply file linked parsed]
    exact eval_done_iff.mpr ⟨v, ended⟩
  exact ⟨t, s₁, usable_threeLines, file, parsed, silent, plain, ran,
    interactive_follows_file usable_threeLines file parsed silent plain ran⟩

end Session

end DeskScript
