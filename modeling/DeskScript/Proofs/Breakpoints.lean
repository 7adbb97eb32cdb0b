import DeskScript.Proofs.Located
import DeskScript.Proofs.Sessions
import DeskScript.Proofs.Stepping

/-!
# Lines of a script file

A script file is run together with the files that it imports, whose texts stand above its own. So a
statement of the file is checked, and looked up among the breakpoints, on a line that is larger than
its line in the file, by the lines of the imports and one more.
-/

namespace DeskScript

open Syntax

/-! ### The checks of a run -/

/-- A statement that is checked, and the state before it is. -/
abbrev Noted := Tree × State

/-- Checks a statement, and tells so. -/
def Eval.noteCheck (below : Mode → Tree → Logged Noted Value) (mode : Mode) (t : Tree) :
    Logged Noted Unit := fun s =>
  (if mode.debug then [(t, s)] else [], Eval.check (fun mode t => (below mode t).forget) mode t s)

/-- Does what a task asks for, and tells which statements are checked. -/
def Task.note {α : Type} (below : Mode → Tree → Logged Noted Value) (mode : Mode) :
    Task α → Logged Noted α
  | done a => .still (return a)
  | fail e => .still (throw e)
  | perform r next => (Logged.still r.carryOut).andThen fun v => (next v).note below mode
  | look next => .looking fun s => (next s.machine.store s.stack).note below mode
  | change c next =>
    (Logged.still (Interp.modifyStack (·.change c))).andThen fun _ => next.note below mode
  | check t next => (Eval.noteCheck below mode t).andThen fun _ => next.note below mode
  | evaluate quiet t next =>
    (below { mode with debug := mode.debug && !quiet } t).andThen fun v => (next v).note below mode
  | call parameters body next =>
    ((below mode body).inFrame parameters).andThen fun v => (next v).note below mode

/-- The value of a tree with so many levels left, and the statements that are checked. -/
def noteAt : Nat → Mode → Tree → Logged Noted Value
  | 0 => fun _ _ => .still (throw .nesting)
  | n + 1 => fun mode t => (Eval.task t).note (noteAt n) mode

/-- The statements that are checked while a tree is evaluated, each with the state before it. -/
def checksOf (mode : Mode) (t : Tree) (s : State) : List Noted := (noteAt nestingLimit mode t s).1

theorem Task.forget_note {α : Type} {below : Mode → Tree → Logged Noted Value} {evaluate : Evaluate}
    (agree : ∀ mode t, (below mode t).forget = evaluate mode t) (mode : Mode) (task : Task α) :
    (task.note below mode).forget = task.run evaluate mode := by
  have same : (fun mode t => (below mode t).forget) = evaluate := funext₂ agree
  induction task with
  | done a => rfl
  | fail e => rfl
  | perform r next ih => simp only [note, run, Logged.forget_andThen, ih]; rfl
  | look next ih =>
    funext s
    exact congrFun (ih s.machine.store s.stack) s
  | change c next ih => simp only [note, run, Logged.forget_andThen, ih]; rfl
  | check t next ih =>
    have check : (Eval.noteCheck below mode t).forget = Eval.check evaluate mode t := by
      rw [← same]
      rfl
    simp only [note, run, Logged.forget_andThen, check, ih]
  | evaluate quiet t next ih => simp only [note, run, Logged.forget_andThen, agree, ih]
  | call parameters body next ih =>
    simp only [note, run, Logged.forget_andThen, Logged.forget_inFrame, agree, ih]

theorem forget_noteAt (n : Nat) (mode : Mode) (t : Tree) :
    (noteAt n mode t).forget = evalAt n mode t := by
  induction n generalizing mode t with
  | zero => rfl
  | succ n ih => exact Task.forget_note ih mode (Eval.task t)

/-- Telling the checks does not change a run. -/
theorem note_eval (mode : Mode) (t : Tree) (s : State) :
    noteAt nestingLimit mode t s = (checksOf mode t s, eval mode t s) :=
  Prod.ext rfl (congrFun (forget_noteAt nestingLimit mode t) s)

/-! ### Breakpoints stay -/

/-- The states of a run that are told of, and the last one, are as they should be from the first. -/
def Logged.Traces {α : Type} (rel : State → State → Prop) (x : Logged Noted α) : Prop :=
  ∀ s, (∀ m ∈ (x s).1, rel s m.2) ∧ rel s (endState (x s).2)

section Traces

variable {α β : Type} {rel : State → State → Prop}

theorem traces_still {x : Interp α} (within : x.Within rel) : (Logged.still x).Traces rel :=
  fun s => ⟨by simp [Logged.still], within s⟩

theorem traces_andThen {x : Logged Noted α} {f : α → Logged Noted β} (spans : Spans rel)
    (first : x.Traces rel) (rest : ∀ a, (f a).Traces rel) : (x.andThen f).Traces rel := by
  intro s
  obtain ⟨noted, between⟩ := first s
  rcases ran : x s with ⟨log, ⟨a, s'⟩ | ⟨e, s'⟩⟩ <;> rw [ran] at noted between
  · obtain ⟨noted', last⟩ := rest a s'
    rw [Logged.andThen_ok ran]
    refine ⟨fun m member => ?_, spans.join between last⟩
    rcases List.mem_append.mp member with member | member
    · exact noted m member
    · exact spans.join between (noted' m member)
  · rw [Logged.andThen_error ran]
    exact ⟨noted, between⟩

theorem traces_inFrame {body : Logged Noted Value} (spans : Spans rel) (inside : body.Traces rel)
    (parameters : Bindings Value) : (body.inFrame parameters).Traces rel := by
  intro s
  obtain ⟨noted, last⟩ := inside { s with stack := s.stack.enter parameters }
  have entered : rel s { s with stack := s.stack.enter parameters } :=
    spans.aside ⟨rfl, List.suffix_rfl⟩
  have left : ∀ s' : State, rel s' { s' with stack := s'.stack.leave } :=
    fun s' => spans.aside ⟨rfl, List.suffix_rfl⟩
  rcases ran : body { s with stack := s.stack.enter parameters } with ⟨log, ⟨v, s'⟩ | ⟨e, s'⟩⟩ <;>
    rw [ran] at noted last <;> simp only [Logged.inFrame, ran]
  all_goals
    refine ⟨fun m member => spans.join entered (noted m member), ?_⟩
    exact spans.join (spans.join entered last) (left s')

theorem Task.traces_note {below : Mode → Tree → Logged Noted Value} {evaluate : Evaluate}
    (spans : Spans rel) (agree : ∀ mode t, (below mode t).forget = evaluate mode t)
    (checks : ∀ mode t, (Eval.check evaluate mode t).Within rel)
    (inside : ∀ mode t, (below mode t).Traces rel) (mode : Mode) (task : Task α) :
    (task.note below mode).Traces rel := by
  have same : (fun mode t => (below mode t).forget) = evaluate := funext₂ agree
  induction task with
  | done a => exact traces_still (Interp.within_pure spans a)
  | fail e => exact traces_still (Interp.within_throw spans e)
  | perform r next ih => exact traces_andThen spans (traces_still (Interp.within_ofOp spans _)) ih
  | look next ih => exact fun s => ih _ _ s
  | change c next ih =>
    refine traces_andThen spans (traces_still fun s => ?_) fun _ => ih
    exact spans.aside ⟨rfl, List.suffix_rfl⟩
  | check t next ih =>
    refine traces_andThen spans (fun s => ⟨fun m member => ?_, ?_⟩) fun _ => ih
    · obtain rfl : m = (t, s) := by
        cases debug : mode.debug <;> simp_all [Eval.noteCheck]
      exact spans.aside (.refl s)
    · rw [← same] at checks
      exact checks mode t s
  | evaluate quiet t next ih => exact traces_andThen spans (inside _ t) ih
  | call parameters body next ih =>
    exact traces_andThen spans (traces_inFrame spans (inside mode body) parameters) ih

end Traces

/-- Two states with the same breakpoints. -/
def SameBreakpoints (s s' : State) : Prop := s'.debugger.breakpoints = s.debugger.breakpoints

theorem spans_sameBreakpoints : Spans SameBreakpoints :=
  ⟨fun aside => congrArg Debugger.breakpoints aside.debugger, fun first second => second.trans first⟩

theorem checkLine_sameBreakpoints (n : Nat) (mode : Mode) (depth line : Int) :
    (Eval.checkLine (evalAt n) mode depth (some (.number line))).Within SameBreakpoints := by
  intro s
  have checks : Checks s line depth (Eval.checkLine (evalAt n) mode depth (some (.number line)) s) :=
    checkLine_checks line s
  generalize Eval.checkLine (evalAt n) mode depth (some (.number line)) s = result at checks
  cases checks with
  | refuses _ same => exact congrArg Debugger.breakpoints same
  | goesBy goes => exact (Debugger.checked_of_check goes).breakpoints
  | pauses stops answers =>
    have kept := (Debugger.checked_of_check stops).breakpoints
    cases answers with
    | stops same => exact (congrArg Debugger.breakpoints same).trans kept
    | obeys _ _ obeyed => exact (Debugger.breakpoints_obey obeyed).trans kept

/-- All statements of a run are checked with the same breakpoints. -/
theorem breakpoints_checksOf {mode : Mode} {t u : Tree} {s s' : State}
    (member : (u, s') ∈ checksOf mode t s) : s'.debugger.breakpoints = s.debugger.breakpoints := by
  have traces : ∀ n mode t, (noteAt n mode t).Traces SameBreakpoints := by
    intro n
    induction n with
    | zero => exact fun _ _ => traces_still (Interp.within_throw spans_sameBreakpoints _)
    | succ n ih =>
      refine fun mode t => Task.traces_note spans_sameBreakpoints (forget_noteAt n) ?_ ih mode _
      exact fun mode => check_within spans_sameBreakpoints (checkLine_sameBreakpoints n mode)
  exact (traces nestingLimit mode t s).1 (u, s') member

theorem Debugger.wants_ne_breakpoint (d : Debugger) (line depth : Int) :
    d.wants line depth ≠ .ok (some .breakpoint) := by
  intro wants
  cases mode : d.mode <;> cases target : d.targetDepth <;>
    simp [Debugger.wants, Debugger.target, mode, target, bind, Except.bind, pure,
      Except.pure] at wants

theorem Debugger.check_breakpoint_iff {d : Debugger} {line depth : Int} :
    (∃ d', d.check line depth = .ok (some .breakpoint, d')) ↔ line ∈ d.breakpoints := by
  constructor
  · rintro ⟨d', check⟩
    by_contra off
    simp only [Debugger.check, if_neg off] at check
    cases wants : d.wants line depth with
    | error e =>
      rw [wants] at check
      cases check
    | ok wanted =>
      rw [wants] at check
      cases wanted with
      | none => cases check
      | some reason =>
        cases check
        exact d.wants_ne_breakpoint line depth wants
  · intro on
    exact ⟨_, if_pos on⟩

namespace Session

variable {numbers : List Int} {script : String} {breakpoints : List Value} {imported : List String}

/-! ### Lines of the file -/

/-- The lines above a script file in the text that is run. -/
def linesAbove (imported : List String) : Nat := ("\n".intercalate imported).toList.count '\n' + 1

/-- What starts in the text that is run starts in the script file, and then it is further down than
there, or it starts in the imported texts. -/
theorem place_of_joined {p : Position}
    (place : p.In (joined imported script)) :
    (∃ own : Position, own.In script ∧ p = own.down (linesAbove imported)) ∨
      p.In ("\n".intercalate imported) ∧ p.line ≤ linesAbove imported := by
  obtain ⟨before, after, split, rfl⟩ := place
  have feed : "\n".toList = ['\n'] := rfl
  rw [joined, String.toList_append, String.toList_append, List.append_assoc, feed,
    List.singleton_append] at split
  rcases List.append_eq_append_iff.mp split with ⟨more, rfl, rest⟩ | ⟨more, above, rest⟩
  · cases more with
    | nil =>
      rw [List.append_nil]
      refine Or.inr ⟨⟨_, [], (List.append_nil _).symm, rfl⟩, ?_⟩
      rw [Position.line_after, linesAbove]
      exact Nat.le_of_eq (Nat.add_comm ..)
    | cons c own =>
      obtain ⟨rfl, below⟩ := List.cons.inj rest
      refine Or.inl ⟨Position.start.after own, ⟨own, after, below, rfl⟩, ?_⟩
      rw [Position.after_append, ← Position.after_down, linesAbove, ← Position.after_line]
      rfl
  · refine Or.inr ⟨⟨before, more, above, rfl⟩, ?_⟩
    rw [Position.line_after, linesAbove, above, List.count_append, Position.start]
    simp only
    omega

theorem mem_insertLine {m n : Int} {lines : List Int} :
    m ∈ insertLine n lines ↔ m = n ∨ m ∈ lines := by
  induction lines with
  | nil => simp [insertLine]
  | cons l rest ih =>
    unfold insertLine
    split
    · simp
    · split
      next same => simp [same]
      next => simp only [List.mem_cons, ih]; tauto

theorem mem_lines {m : Int} :
    m ∈ numbers.foldr insertLine [] ↔ m ∈ numbers := by
  induction numbers with
  | nil => simp
  | cons n rest ih => rw [List.foldr_cons, mem_insertLine, ih, List.mem_cons]

/-! ### Running the file -/

/-- The text that is run for a script that can be read, with imports that can be read. -/
theorem linked_joined {files : Files} {own : Tree}
    (readable : parse script = .ok own)
    (imports : (importPaths own).mapM files.read = .ok imported) :
    linked files script = .ok (joined imported script) := by
  rw [linked, parsed, readable]
  change (importPaths own).mapM files.read >>= (fun imported => pure (joined imported script)) = _
  rw [imports]
  rfl

/-- The state in which the tree of a script file is evaluated: what is said first has been printed,
and with debugging the lines are set and told. -/
def prepared (debug : Bool) (numbers : List Int) (s : State) : State :=
  let greeted := s.put s.machine.bench (s.console.say .session (banner ++ "\n"))
  let lines := numbers.foldr insertLine []
  if debug then
    { greeted.put s.machine.bench (greeted.console.say .debugger
        ("Setting breakpoints: " ++ linesText lines ++ "\n")) with
      debugger := { s.debugger with breakpoints := lines } }
  else greeted

theorem files_prepared (debug : Bool) (numbers : List Int) (s : State) :
    (prepared debug numbers s).machine.world.files = s.machine.world.files := by
  cases debug <;> rfl

theorem breakpoints_prepared (numbers : List Int) (s : State) :
    (prepared true numbers s).debugger.breakpoints = numbers.foldr insertLine [] := rfl

theorem mapM_cons_ok {α β : Type} {f : α → Except Error β} {a : α} {rest : List α} {bs : List β}
    (ok : (a :: rest).mapM f = .ok bs) :
    ∃ b bs', f a = .ok b ∧ rest.mapM f = .ok bs' ∧ bs = b :: bs' := by
  rw [List.mapM_cons] at ok
  cases first : f a with
  | error e =>
    rw [first] at ok
    cases ok
  | ok b =>
    rw [first] at ok
    cases later : rest.mapM f with
    | error e =>
      rw [later] at ok
      cases ok
    | ok bs' =>
      rw [later] at ok
      cases ok
      exact ⟨b, bs', rfl, rfl, rfl⟩

theorem mapM_lift_ok {α β : Type} {f : α → Except Error β} {l : List α} {bs : List β}
    (ok : l.mapM f = .ok bs) (s : State) :
    (l.mapM fun a => (liftM (f a) : Interp β)) s = .ok bs s := by
  induction l generalizing bs with
  | nil =>
    cases ok
    rfl
  | cons a rest ih =>
    obtain ⟨b, bs', first, later, rfl⟩ := mapM_cons_ok ok
    rw [List.mapM_cons, lift_bind_ok first]
    simp only [bind, EStateM.bind, ih later]
    rfl

theorem setBreakpoints_apply
    (chosen : breakpoints.mapM Value.toInt = .ok numbers) (s : State) :
    setBreakpoints breakpoints s = .ok ()
      { s.put s.machine.bench (s.console.say .debugger
          ("Setting breakpoints: " ++ linesText (numbers.foldr insertLine []) ++ "\n")) with
        debugger := { s.debugger with breakpoints := numbers.foldr insertLine [] } } := by
  unfold setBreakpoints
  simp only [bind, EStateM.bind, mapM_lift_ok chosen]
  rfl

/-- A script file is run, after what is said first, by evaluating one tree. -/
theorem start_runs {path script : String} {own tree : Tree}
    {s : State} (named : path.isEmpty = false)
    (file : s.machine.world.files.read path = .ok script) (readable : parse script = .ok own)
    (imports : (importPaths own).mapM s.machine.world.files.read = .ok imported)
    (parsed : parse (joined imported script) = .ok tree)
    (chosen : breakpoints.mapM Value.toInt = .ok numbers) (debug : Bool) :
    start path debug breakpoints s =
      (eval { debug } tree >>= fun _ => pure ()) (prepared debug numbers s) := by
  have tree_parsed : Session.parsed (joined imported script) = .ok tree := by
    rw [Session.parsed, parsed]
  have linking := linked_joined readable imports
  rw [← files_prepared debug numbers s] at linking
  have rest : (do
        let text ← linked (← get).machine.world.files script
        let tree ← Session.parsed text
        let _ ← eval { debug } tree : Interp Unit) (prepared debug numbers s) =
      (eval { debug } tree >>= fun _ => pure ()) (prepared debug numbers s) := by
    change ((liftM (linked (prepared debug numbers s).machine.world.files script) :
      Interp String) >>= fun text => do
        let tree ← Session.parsed text
        let _ ← eval { debug } tree) (prepared debug numbers s) = _
    rw [lift_bind_ok linking, lift_bind_ok tree_parsed]
  rw [← rest]
  have opened : start path debug breakpoints s =
      runFile path debug breakpoints (prepared false numbers s) := by
    change ((say banner : Interp Unit) >>= fun _ => if path.isEmpty then interactive debug else
      runFile path debug breakpoints) s = _
    rw [named]
    rfl
  rw [opened]
  change ((liftM (s.machine.world.files.read path) : Interp String) >>= _)
    (prepared false numbers s) = _
  rw [lift_bind_ok file]
  cases debug with
  | false => rfl
  | true =>
    change (setBreakpoints breakpoints >>= _) (prepared false numbers s) = _
    simp only [bind, EStateM.bind, setBreakpoints_apply chosen]
    rfl

/-- Breakpoints are lines of the text that is run, and not of the script file. For a script file with
its imports and chosen lines, whenever the run gets to its evaluation: a statement that starts in
the file is further down in that text, by the lines of the imports and one more; the line there is
what every check of it in the run reports, and what is looked up among the chosen lines. -/
theorem breakpoints_lie_further_down {path script : String} {own tree : Tree}
    {imported : List String} {breakpoints : List Value} {numbers : List Int} {s : State}
    (named : path.isEmpty = false) (file : s.machine.world.files.read path = .ok script)
    (readable : parse script = .ok own)
    (imports : (importPaths own).mapM s.machine.world.files.read = .ok imported)
    (parsed : parse (joined imported script) = .ok tree)
    (chosen : breakpoints.mapM Value.toInt = .ok numbers) :
    start path true breakpoints s =
        (eval { debug := true } tree >>= fun _ => pure ()) (prepared true numbers s) ∧
      noteAt nestingLimit { debug := true } tree (prepared true numbers s) =
        (checksOf { debug := true } tree (prepared true numbers s),
          eval { debug := true } tree (prepared true numbers s)) ∧
      (∀ t : Tree, t.Inside tree → t.isNode → ∀ p, t.first? = some p →
        Eval.statementLine t = .ok (some (.number p.line)) ∧
        ((∃ q : Position, q.In script ∧ p = q.down (linesAbove imported)) ∨
          p.In ("\n".intercalate imported) ∧ p.line ≤ linesAbove imported)) ∧
      ∀ t before, (t, before) ∈ checksOf { debug := true } tree (prepared true numbers s) →
        ∀ line, Eval.statementLine t = .ok (some (.number line)) →
          (∀ n mode, mode.debug = true → ∃ said,
            Eval.say s!"Checking line {line} at call depth {before.stack.depth}" before =
              .ok () said ∧
            Eval.check (evalAt n) mode t before = goesOn n mode line before.stack.depth said
              (before.debugger.check line before.stack.depth)) ∧
          ((∃ d, before.debugger.check line before.stack.depth = .ok (some .breakpoint, d)) ↔
            line ∈ numbers) := by
  refine ⟨start_runs named file readable imports parsed chosen true, note_eval .., ?_, ?_⟩
  · intro t inside node p first
    refine ⟨?_, place_of_joined (first_of_parse parsed inside first)⟩
    cases t with
    | node label span children =>
      obtain ⟨span, rfl, rfl⟩ := Option.map_eq_some_iff.mp first
      rfl
    | leaf | datum => cases node
  · intro t before member line marked
    constructor
    · intro n mode debug
      obtain ⟨said, report, -, -, opens⟩ := @checkLine_opens n mode before.stack.depth line before
      refine ⟨said, report, ?_⟩
      rw [← opens]
      simp only [Eval.check, if_pos debug, marked]
      rfl
    · rw [Debugger.check_breakpoint_iff, breakpoints_checksOf member, breakpoints_prepared]
      exact mem_lines

/-- A state with these files. -/
def withFiles (texts : List (String × String)) : State :=
  { machine := { world := { files := ⟨texts.map fun (name, text) => ([name], .text text)⟩ } } }

theorem read_of_parts {files : Files} {name text : String}
    (single : Files.parts name = .ok ([], [name])) (follows : files.follow [] [name] = .ok [name])
    (found : files.lookup? [name] = some (.text text))
    (unix : String.ofList (unixLines text.toList) = text) : files.read name = .ok text := by
  have place : files.place name = .ok [name] := by
    rw [Files.place, single]
    exact follows
  rw [Files.read, place]
  simp only [found, unix]

theorem parts_m : Files.parts "m" = .ok ([], ["m"]) := by cbv

theorem parts_a : Files.parts "a" = .ok ([], ["a"]) := by cbv

/-- A script with two statements, of which the first one is an import. -/
def importing : String := "import \"a\";\nx = 1;"

def importingState : State := withFiles [("m", importing), ("a", "fn f() \x7b return 1; \x7d")]

theorem importing_reads :
    importingState.machine.world.files.read "m" = .ok importing ∧
      importingState.machine.world.files.read "a" = .ok "fn f() \x7b return 1; \x7d" :=
  ⟨read_of_parts parts_m (by decide) rfl (by decide),
    read_of_parts parts_a (by decide) rfl (by decide)⟩

theorem importing_runs : ∃ own tree, parse importing = .ok own ∧
    (importPaths own).mapM importingState.machine.world.files.read =
      .ok ["fn f() \x7b return 1; \x7d"] ∧
    parse (joined ["fn f() \x7b return 1; \x7d"] importing) = .ok tree := by
  obtain ⟨own, readable, paths⟩ : ∃ own, parse importing = .ok own ∧ importPaths own = ["a"] := by
    decide +kernel
  obtain ⟨tree, parsed⟩ : ∃ tree, parse (joined ["fn f() \x7b return 1; \x7d"] importing) = .ok tree := by
    decide +kernel
  refine ⟨own, tree, readable, ?_, parsed⟩
  rw [paths, List.mapM_cons, importing_reads.2]
  rfl

/-- Below one import without line feeds, the second line is the third one. -/
theorem breakpoints_lie_further_down_import : ∃ own tree imported,
    importingState.machine.world.files.read "m" = .ok importing ∧ parse importing = .ok own ∧
    (importPaths own).mapM importingState.machine.world.files.read = .ok imported ∧
    parse (joined imported importing) = .ok tree ∧ linesAbove imported = 1 ∧
    start "m" true [.text "3"] importingState =
      (eval { debug := true } tree >>= fun _ => pure ()) (prepared true [3] importingState) ∧
    ∀ t : Tree, t.Inside tree → t.isNode → ∀ p, t.first? = some p →
      Eval.statementLine t = .ok (some (.number p.line)) ∧
      ((∃ q : Position, q.In importing ∧ p = q.down (linesAbove imported)) ∨
        p.In ("\n".intercalate imported) ∧ p.line ≤ linesAbove imported) := by
  obtain ⟨own, tree, readable, imports, parsed⟩ := importing_runs
  have named : "m".isEmpty = false := by decide
  have chosen : [Value.text "3"].mapM Value.toInt = .ok [3] := rfl
  have down := breakpoints_lie_further_down named importing_reads.1 readable imports parsed chosen
  exact ⟨own, tree, _, importing_reads.1, readable, imports, parsed, by decide, down.1, down.2.2.1⟩

deriving instance DecidableEq for Error

/-- A breakpoint on the only line of a script file does not stop the run, which would need a command
to go on. A breakpoint on the line below it does. -/
theorem first_line_is_second :
    (∃ s', start "m" true [.text "1"] (withFiles [("m", "x = 1;")]) = .ok () s') ∧
      ∃ s', start "m" true [.text "2"] (withFiles [("m", "x = 1;")]) = .error .endOfInput s' := by
  obtain ⟨own, readable, alone⟩ : ∃ own, parse "x = 1;" = .ok own ∧ importPaths own = [] := by
    decide +kernel
  have file : (withFiles [("m", "x = 1;")]).machine.world.files.read "m" = .ok "x = 1;" :=
    read_of_parts parts_m (by decide) rfl (by decide)
  have imports : (importPaths own).mapM (withFiles [("m", "x = 1;")]).machine.world.files.read =
      .ok [] := by
    rw [alone]
    rfl
  obtain ⟨tree, parsed, ⟨v, s₁, goesBy, -⟩, e, s₂, stops, rfl⟩ :
      ∃ tree, parse (joined [] "x = 1;") = .ok tree ∧
        (∃ v s', eval { debug := true } tree (prepared true [1] (withFiles [("m", "x = 1;")])) =
          .ok v s' ∧ ¬ Eval.isSignal v) ∧
        ∃ e s', eval { debug := true } tree (prepared true [2] (withFiles [("m", "x = 1;")])) =
          .error e s' ∧ e = .endOfInput := by decide +kernel
  have named : "m".isEmpty = false := by decide
  have one : [Value.text "1"].mapM Value.toInt = .ok [1] := rfl
  have two : [Value.text "2"].mapM Value.toInt = .ok [2] := rfl
  refine ⟨⟨s₁, ?_⟩, s₂, ?_⟩
  · rw [start_runs named file readable imports parsed one true]
    simp only [bind, EStateM.bind, goesBy]
    rfl
  · rw [start_runs named file readable imports parsed two true]
    simp only [bind, EStateM.bind, stops]

end Session

end DeskScript
