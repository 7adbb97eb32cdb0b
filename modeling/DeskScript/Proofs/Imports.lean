import DeskScript.Proofs.Breakpoints
import DeskScript.Proofs.Stacking

/-!
# Imports

The files that a script imports are read before it is run, and their texts stand above its own.
Their functions are there when its own statements begin. An import does nothing where it is
evaluated, so the imports of an imported file are left out, unless the script has them itself.
-/

namespace DeskScript

open Syntax

/-! ### Functions stay -/

/-- Frames one by one with at least the functions that they had. -/
def CallStack.Grows (stack stack' : CallStack) : Prop :=
  List.Forall₂ (fun f f' : Frame => ∀ name, f.functions.has name → f'.functions.has name)
    stack.frames stack'.frames

namespace CallStack

variable {stack stack' stack'' : CallStack}

theorem Grows.refl (stack : CallStack) : stack.Grows stack :=
  List.forall₂_same.mpr fun _ _ _ here => here

theorem Grows.trans (first : stack.Grows stack') (second : stack'.Grows stack'') :
    stack.Grows stack'' :=
  forall₂_trans (fun before after name here => after name (before name here)) first second

theorem Grows.current (grows : stack.Grows stack') {name : String}
    (here : stack.current.functions.has name) : stack'.current.functions.has name := by
  cases grows with
  | cons first _ => exact first name here

theorem grows_of_functions
    (same : stack'.frames.map (·.functions) = stack.frames.map (·.functions)) :
    stack.Grows stack' := by
  have alike : List.Forall₂ (· = ·) (stack.frames.map (·.functions))
      (stack'.frames.map (·.functions)) := same ▸ List.forall₂_same.mpr fun _ _ => rfl
  rw [List.forall₂_map_left_iff, List.forall₂_map_right_iff] at alike
  exact alike.imp fun f f' equal name here => equal ▸ here

/-- No change takes a function away. -/
theorem grows_change (stack : CallStack) (c : Change) : stack.Grows (stack.change c) := by
  cases c with
  | assign x v =>
    refine grows_of_functions ?_
    cases up : stack.current.outer.get? x with
    | none => simp [change, assign, up, frames]
    | some n => simp [change, assign, up, frames, functions_modify]
  | outer x =>
    refine grows_of_functions ?_
    cases target : stack.outerTarget? x <;> simp [change, declareOuter, target, frames]
  | define name f =>
    refine .cons (fun x here => ?_) (List.forall₂_same.mpr fun _ _ _ here => here)
    change (stack.current.functions.set name f).has x
    rw [Bindings.has_set, here, Bool.or_true]

/-- A call takes no function from the frames below it. -/
theorem Grows.leave {parameters : Bindings Value} (inside : (stack.enter parameters).Grows stack') :
    stack.Grows stack'.leave := by
  obtain ⟨f, callers⟩ := stack'
  cases inside with
  | cons _ below =>
    cases callers with
    | nil => cases below
    | cons p rest => exact below

end CallStack

/-- A step from which every frame comes with at least the functions that it had. -/
abbrev KeepsFunctions {α : Type} (x : Interp α) : Prop :=
  x.Within fun s s' => s.stack.Grows s'.stack

section KeepsFunctions

open Interp

variable {α : Type}

theorem keepsFunctions_of_frames {x : Interp α} (kept : KeepsFrames x) : KeepsFunctions x := by
  intro s
  rw [kept s]
  exact .refl _

variable {evaluate : Evaluate} (inside : ∀ mode t, KeepsFunctions (evaluate mode t))
include inside

theorem Pause.keepsFunctions_run (mode : Mode) (pause : Pause α) :
    KeepsFunctions (pause.run evaluate mode) := by
  induction pause with
  | done a => exact keepsFunctions_of_frames (keepsFrames_pure a)
  | fail e => exact keepsFunctions_of_frames (keepsFrames_throw e)
  | say s next ih => exact (keepsFunctions_of_frames (keepsFrames_say s)).bind .trans fun _ => ih
  | ask next ih => exact (keepsFunctions_of_frames (keepsFrames_ofOp _)).bind .trans ih
  | look next ih => exact fun s => ih _ s
  | set d next ih => exact Within.bind (fun s => .refl s.stack) .trans fun _ => ih
  | memory next ih =>
    exact (keepsFunctions_of_frames keepsFrames_listMemory).bind .trans fun _ => ih
  | attempt t next ih =>
    have shown : KeepsFunctions (Eval.shownValue evaluate mode t) :=
      (inside _ t).bind .trans fun v => keepsFunctions_of_frames (keepsFrames_ofOp _)
    exact shown.outcome.bind .trans ih

theorem Eval.keepsFunctions_check (mode : Mode) (t : Tree) :
    KeepsFunctions (Eval.check evaluate mode t) := by
  intro s
  unfold Eval.check
  split
  · cases statementLine t with
    | error e => exact .refl _
    | ok mark => exact Pause.keepsFunctions_run inside mode _ s
  · exact .refl _

theorem Task.keepsFunctions_run (mode : Mode) (task : Task α) :
    KeepsFunctions (task.run evaluate mode) := by
  induction task with
  | done a => exact keepsFunctions_of_frames (keepsFrames_pure a)
  | fail e => exact keepsFunctions_of_frames (keepsFrames_throw e)
  | perform r next ih => exact (keepsFunctions_of_frames (keepsFrames_ofOp _)).bind .trans ih
  | look next ih => exact fun s => ih _ _ s
  | change c next ih => exact Within.bind (fun s => s.stack.grows_change c) .trans fun _ => ih
  | check t next ih => exact (Eval.keepsFunctions_check inside mode t).bind .trans fun _ => ih
  | evaluate quiet t next ih => exact (inside _ t).bind .trans ih
  | call parameters body next ih =>
    refine Within.bind (fun s => ?_) .trans ih
    rw [endState_inFrame]
    exact (inside mode body { s with stack := s.stack.enter parameters }).leave

end KeepsFunctions

/-- No evaluation takes a function from a frame. -/
theorem keepsFunctions_evalAt (n : Nat) (mode : Mode) (t : Tree) :
    KeepsFunctions (evalAt n mode t) := by
  induction n generalizing mode t with
  | zero => exact keepsFunctions_of_frames (keepsFrames_throw _)
  | succ n ih => exact Task.keepsFunctions_run ih mode (Eval.task t)

/-! ### Statements one after the other -/

theorem Mode.aloud (mode : Mode) : { mode with debug := mode.debug && !false } = mode := by
  cases mode
  simp

/-- Runs the statements of a script, in two levels below it, after this value. -/
def runBlock (mode : Mode) (last : Value) (trees : List Tree) : Interp Value :=
  (Eval.block last trees).run (evalAt (nestingLimit - 2)) mode

section Block

variable {mode : Mode}

theorem runBlock_cons (last : Value) (t : Tree) (rest : List Tree) :
    runBlock mode last (t :: rest) = (do
      Eval.check (evalAt (nestingLimit - 2)) mode t
      let v ← evalAt (nestingLimit - 2) mode t
      if Eval.isSignal v then pure v else runBlock mode v rest) := by
  have next : ∀ v : Value, Task.run (evalAt (nestingLimit - 2)) mode
      (if Eval.isSignal v then pure v else Eval.block v rest) =
        if Eval.isSignal v then pure v else runBlock mode v rest := by
    intro v
    cases Eval.isSignal v <;> rfl
  have run : runBlock mode last (t :: rest) = (do
      Eval.check (evalAt (nestingLimit - 2)) mode t
      let v ← evalAt (nestingLimit - 2) { mode with debug := mode.debug && !false } t
      Task.run (evalAt (nestingLimit - 2)) mode
        (if Eval.isSignal v then pure v else Eval.block v rest)) := rfl
  rw [run, funext next, mode.aloud]

theorem evalAt_script (n : Nat) (extent : Option Span) (trees : List Tree) :
    evalAt (n + 2) mode (.script extent trees) = (Eval.block (.int 0) trees).run (evalAt n) mode := by
  have run : evalAt (n + 2) mode (.script extent trees) =
      (Eval.block (.int 0) trees).run (evalAt n) { mode with debug := mode.debug && !false } >>=
        fun v => pure v := rfl
  rw [run, mode.aloud, bind_pure]

/-- A script is run by running its statements. -/
theorem eval_statements (extent : Option Span) (trees : List Tree) :
    eval mode (.script extent trees) = runBlock mode (.int 0) trees :=
  evalAt_script (nestingLimit - 2) extent trees

theorem runBlock_append {last : Value} (plain : Eval.isSignal last = false)
    (first second : List Tree) :
    runBlock mode last (first ++ second) = (do
      let v ← runBlock mode last first
      if Eval.isSignal v then pure v else runBlock mode v second) := by
  induction first generalizing last with
  | nil =>
    change _ = if Eval.isSignal last then pure last else runBlock mode last second
    rw [plain]
    rfl
  | cons t rest ih =>
    rw [List.cons_append, runBlock_cons, runBlock_cons, bind_assoc]
    refine congrArg (_ >>= ·) (funext fun _ => ?_)
    rw [bind_assoc]
    refine congrArg (_ >>= ·) (funext fun v => ?_)
    cases signal : Eval.isSignal v with
    | true => simp [signal]
    | false => simpa using ih signal

theorem bind_eq_ok {α β : Type} {x : Interp α} {f : α → Interp β} {s s' : State} {b : β}
    (ok : (x >>= f) s = .ok b s') : ∃ a s₁, x s = .ok a s₁ ∧ f a s₁ = .ok b s' := by
  simp only [bind, EStateM.bind] at ok
  cases ran : x s with
  | ok a s₁ =>
    rw [ran] at ok
    exact ⟨a, s₁, rfl, ok⟩
  | error e s₁ =>
    rw [ran] at ok
    cases ok

theorem evalAt_define {n : Nat} {span : Option Span} {name : Tree} {rest : List Tree} {s s' : State}
    {v : Value} (ran : evalAt n mode (.node .define span (name :: rest)) s = .ok v s') :
    s'.stack.current.functions.has name.text := by
  cases n with
  | zero => cases ran
  | succ n =>
    change (Eval.define name.text rest).run (evalAt n) mode s = .ok v s' at ran
    unfold Eval.define at ran
    rcases defined : Eval.definition rest with ⟨parameters, _ | body⟩
    · rw [defined] at ran
      cases ran
    · rw [defined] at ran
      cases ran
      change (s.stack.current.functions.set name.text ⟨parameters, body⟩).has name.text
      rw [Bindings.has_set]
      simp

/-- Statements that have run through leave the functions that they define. -/
theorem runBlock_defines {last v : Value} {trees : List Tree} {s s' : State}
    (ran : runBlock mode last trees s = .ok v s') (plain : Eval.isSignal v = false)
    {span : Option Span} {name : Tree} {rest : List Tree}
    (member : .node .define span (name :: rest) ∈ trees) :
    s'.stack.current.functions.has name.text := by
  induction trees generalizing last s with
  | nil => cases member
  | cons t later ih =>
    rw [runBlock_cons] at ran
    obtain ⟨-, s₁, -, ran⟩ := bind_eq_ok ran
    obtain ⟨w, s₂, first, ran⟩ := bind_eq_ok ran
    cases signal : Eval.isSignal w with
    | true =>
      rw [signal] at ran
      cases ran
      rw [signal] at plain
      cases plain
    | false =>
      rw [signal] at ran
      have ran' : runBlock mode w later s₂ = .ok v s' := ran
      rcases List.mem_cons.mp member with rfl | member
      · have kept := Task.keepsFunctions_run (keepsFunctions_evalAt (nestingLimit - 2)) mode
          (Eval.block w later) s₂
        change s₂.stack.Grows (endState (runBlock mode w later s₂)).stack at kept
        rw [ran'] at kept
        exact kept.current (evalAt_define first)
      · exact ih ran' member

end Block

namespace Session

/-! ### The imported texts -/

theorem exists_of_forall₂ {α β : Type} {R : α → β → Prop} {as : List α} {bs : List β} {a : α}
    (all : List.Forall₂ R as bs) (member : a ∈ as) : ∃ b ∈ bs, R a b := by
  induction all with
  | nil => cases member
  | @cons _ b _ _ first _ ih =>
    rcases List.mem_cons.mp member with rfl | member
    · exact ⟨b, List.mem_cons_self, first⟩
    · obtain ⟨b', there, related⟩ := ih member
      exact ⟨b', List.mem_cons_of_mem _ there, related⟩

theorem read_of_mapM {files : Files} {paths imported : List String}
    (imports : paths.mapM files.read = .ok imported) :
    List.Forall₂ (fun p text => files.read p = .ok text) paths imported := by
  induction paths generalizing imported with
  | nil =>
    cases imports
    exact .nil
  | cons p paths ih =>
    obtain ⟨text, texts, first, later, rfl⟩ := mapM_cons_ok imports
    exact .cons first (ih later)

/-- Every imported text stands above the script, and ends its line there. -/
theorem joined_of_mem {imported : List String} {text : String} (member : text ∈ imported)
    (script : String) :
    ∃ before between, joined imported script = before ++ text ++ "\n" ++ between ++ script := by
  have feed : "\n".toList = ['\n'] := rfl
  have lines : stacked imported ++ ['\n'] = imported.flatMap fun text => text.toList ++ ['\n'] := by
    rw [← stacked_concat, stacked_append (List.ne_nil_of_mem member) (by simp)]
    rfl
  obtain ⟨before, between, rfl⟩ := List.append_of_mem member
  refine ⟨String.ofList (before.flatMap fun text => text.toList ++ ['\n']),
    String.ofList (between.flatMap fun text => text.toList ++ ['\n']), String.toList_inj.mp ?_⟩
  rw [joined, String.toList_append, String.toList_append, toList_intercalate, feed, lines]
  simp [feed]

/-- Below imported texts that are scripts by themselves, the statements of a script are the last ones
of the script that is run, and those of the imported texts go before them. -/
theorem parse_joined {imported : List String} {script : String} {extent : Option Span}
    {statements : List Tree} {tree : Tree} (readable : ∀ text ∈ imported, ∃ t, parse text = .ok t)
    (own : parse script = .ok (.script extent statements))
    (parsed : parse (joined imported script) = .ok tree) :
    ∃ extent parts, List.Forall₂ Stands imported parts ∧
      tree = .script extent (parts.flatten ++ statements.map (Tree.down (linesAbove imported))) := by
  have joint := parse_iff.mp parsed
  have feed : "\n".toList = ['\n'] := rfl
  rw [joined, String.toList_append, String.toList_append, List.append_assoc, feed,
    List.singleton_append, toList_intercalate] at joint
  rw [linesAbove, toList_intercalate]
  cases imported with
  | nil =>
    have both := (parse_iff.mp parse_nil).append_line_joint (parse_iff.mp own) (.inl rfl)
      (by rw [List.append_nil]; exact joint)
    exact ⟨_, [], .nil, joint.unique both⟩
  | cons text rest =>
    obtain ⟨t, first⟩ := readable text List.mem_cons_self
    have reads := parse_iff.mp first
    obtain ⟨extent₁, statements₁, rfl⟩ := reads.script
    have still : statements₁.map (Tree.down 0) = statements₁ := by
      have same : (Tree.script extent₁ statements₁).down 0 = .script extent₁ statements₁ :=
        (reads.down 0).unique reads
      simp only [Tree.script, Tree.down, Tree.respan, respans_eq_map, List.map_cons, List.map_nil,
        Syntax.Tree.node.injEq, List.cons.injEq] at same
      exact same.2.2.1.2.2
    have stands : List.Forall₂ Stands [text] [statements₁] :=
      .cons ⟨_, _, 0, first, still.symm⟩ .nil
    have later := fun text member => readable text (List.mem_cons_of_mem _ member)
    refine reads_stack (by simp) stands (by rw [List.flatten_singleton]; exact reads) later own ?_
    rw [stacked_append (by simp) (by simp)]
    exact joint

/-- A text defines a function of this name by a statement of its own. -/
def Defines (text name : String) : Prop :=
  ∃ extent statements span leaf rest, parse text = .ok (.script extent statements) ∧
    .node .define span (leaf :: rest) ∈ statements ∧ leaf.text = name

section Stands

variable {imported : List String} {parts : List (List Tree)}
  (stands : List.Forall₂ Stands imported parts)
include stands

/-- What the statements above a script import, their texts import. -/
theorem mem_importPaths_parts {p : String} : p ∈ importPathsAll parts.flatten ↔
    ∃ text ∈ imported, ∃ t, parse text = .ok t ∧ p ∈ importPaths t := by
  induction stands with
  | nil => simp [importPathsAll]
  | @cons text part texts parts stand _ ih =>
    obtain ⟨extent, statements, n, parsed, rfl⟩ := stand
    rw [List.flatten_cons, importPathsAll_append, List.mem_append, ih, Tree.down, ← respans_eq_map,
      importPathsAll_respans, ← importPaths_script extent]
    simp [parsed]

/-- What a text defines, the statements above a script define. -/
theorem define_mem_parts {text name : String} (member : text ∈ imported)
    (defines : Defines text name) :
    ∃ span leaf rest, .node .define span (leaf :: rest) ∈ parts.flatten ∧ leaf.text = name := by
  obtain ⟨extent, statements, span, leaf, rest, parsed, there, rfl⟩ := defines
  obtain ⟨part, within, extent', statements', n, parsed', rfl⟩ := exists_of_forall₂ stands member
  cases parsed.symm.trans parsed'
  have moved : Tree.down n (.node .define span (leaf :: rest)) =
      .node .define (span.map (Span.down n))
        (leaf.down n :: respans (Option.map (Span.down n)) rest) := by
    rw [Tree.down, Tree.respan, respans]
  exact ⟨_, leaf.down n, _, List.mem_flatten.mpr ⟨_, within, List.mem_map.mpr ⟨_, there, moved⟩⟩,
    Tree.text_respan _ leaf⟩

end Stands

/-- The imports of a script file come first, and those of the files that it imports do not. For a
script file whose run gets to its evaluation: each file that the script itself imports stands above
it in the text that is run, and an import does nothing where it is evaluated. If the imported texts
are scripts by themselves, the statements of the script are run below theirs, and find every function
that one of them defines, though the imports that come with the imported texts are imports of the
script that is run. -/
theorem own_imports_come_first {path script : String} {own tree : Tree} {imported : List String}
    {breakpoints : List Value} {numbers : List Int} {s : State} (named : path.isEmpty = false)
    (file : s.machine.world.files.read path = .ok script) (readable : parse script = .ok own)
    (imports : (importPaths own).mapM s.machine.world.files.read = .ok imported)
    (parsed : parse (joined imported script) = .ok tree)
    (chosen : breakpoints.mapM Value.toInt = .ok numbers) (debug : Bool) :
    start path debug breakpoints s =
        (eval { debug } tree >>= fun _ => pure ()) (prepared debug numbers s) ∧
      (∀ p ∈ importPaths own, ∃ text ∈ imported, s.machine.world.files.read p = .ok text ∧
        ∃ before between, joined imported script = before ++ text ++ "\n" ++ between ++ script) ∧
      (∀ n mode span children s',
        evalAt (n + 1) mode (.node .importFile span children) s' = .ok .null s') ∧
      ((∀ text ∈ imported, ∃ t, parse text = .ok t) →
        ∃ extent extent' parts statements, List.Forall₂ Stands imported parts ∧
          own = .script extent statements ∧
          tree = .script extent'
            (parts.flatten ++ statements.map (Tree.down (linesAbove imported))) ∧
          (∀ p, p ∈ importPaths tree ↔ p ∈ importPaths own ∨
            ∃ text ∈ imported, ∃ t, parse text = .ok t ∧ p ∈ importPaths t) ∧
          eval { debug } tree = (do
            let v ← runBlock { debug } (.int 0) parts.flatten
            if Eval.isSignal v then pure v
            else runBlock { debug } v (statements.map (Tree.down (linesAbove imported)))) ∧
          ∀ s₀ v s₁, runBlock { debug } (.int 0) parts.flatten s₀ = .ok v s₁ →
            Eval.isSignal v = false → ∀ text ∈ imported, ∀ name, Defines text name →
              s₁.stack.current.functions.has name) := by
  refine ⟨start_runs named file readable imports parsed chosen debug, ?_, fun _ _ _ _ _ => rfl, ?_⟩
  · intro p member
    obtain ⟨text, there, read⟩ := exists_of_forall₂ (read_of_mapM imports) member
    exact ⟨text, there, read, joined_of_mem there script⟩
  · intro scripts
    obtain ⟨extent, statements, rfl⟩ := (parse_iff.mp readable).script
    obtain ⟨extent', parts, stands, rfl⟩ := parse_joined scripts readable parsed
    refine ⟨extent, extent', parts, statements, stands, rfl, rfl, fun p => ?_, ?_, ?_⟩
    · rw [importPaths_script, importPathsAll_append, List.mem_append, mem_importPaths_parts stands,
        Tree.down, ← respans_eq_map, importPathsAll_respans, importPaths_script, or_comm]
    · rw [eval_statements, runBlock_append rfl]
    · intro s₀ v s₁ ran plain text member name defines
      obtain ⟨span, leaf, rest, there, rfl⟩ := define_mem_parts stands member defines
      exact runBlock_defines ran plain there

/-- Whether the first statement of a text defines a function of this name. -/
def definesFirst (text name : String) : Bool :=
  match parse text with
  | .ok (.node .start _ [.node .block _ (.node .define _ (leaf :: _) :: _)]) => leaf.text == name
  | _ => false

theorem of_definesFirst {text name : String} (first : definesFirst text name) :
    Defines text name := by
  unfold definesFirst at first
  split at first
  next parsed =>
    obtain ⟨extent, statements, same⟩ := (parse_iff.mp parsed).script
    cases same
    exact ⟨_, _, _, _, _, parsed, List.mem_cons_self, beq_iff_eq.mp first⟩
  next => cases first

/-- The function of a file that a script imports is there when the statements of the script begin. -/
theorem own_imports_come_first_function : ∃ own tree imported parts,
    importingState.machine.world.files.read "m" = .ok importing ∧ parse importing = .ok own ∧
    (importPaths own).mapM importingState.machine.world.files.read = .ok imported ∧
    parse (joined imported importing) = .ok tree ∧ (∃ text ∈ imported, Defines text "f") ∧
    List.Forall₂ Stands imported parts ∧
    ∀ s₀ v s₁, runBlock {} (.int 0) parts.flatten s₀ = .ok v s₁ → Eval.isSignal v = false →
      s₁.stack.current.functions.has "f" := by
  obtain ⟨own, tree, readable, imports, parsed⟩ := importing_runs
  have defines : Defines "fn f() \x7b return 1; \x7d" "f" := of_definesFirst (by decide +kernel)
  have scripts : ∀ text ∈ ["fn f() \x7b return 1; \x7d"], ∃ t, parse text = .ok t := by
    intro text member
    obtain rfl := List.mem_singleton.mp member
    obtain ⟨_, _, _, _, _, parsed', -⟩ := defines
    exact ⟨_, parsed'⟩
  have named : "m".isEmpty = false := by decide
  have chosen : ([] : List Value).mapM Value.toInt = .ok [] := rfl
  obtain ⟨-, -, -, first⟩ :=
    own_imports_come_first named importing_reads.1 readable imports parsed chosen false
  obtain ⟨extent, extent', parts, statements, stands, -, -, -, -, known⟩ := first scripts
  exact ⟨own, tree, _, parts, importing_reads.1, readable, imports, parsed,
    ⟨_, List.mem_cons_self, defines⟩, stands,
    fun s₀ v s₁ ran plain => known s₀ v s₁ ran plain _ List.mem_cons_self "f" defines⟩

/-- A script that imports a file with nothing but an import. -/
def chained : String := "import \"a\";\nr = f();"

def chainedState : State :=
  withFiles [("m", chained), ("a", "import \"b\";"), ("b", "fn f() \x7b return 7; \x7d")]

theorem parts_b : Files.parts "b" = .ok ([], ["b"]) := by cbv

/-- The tree that is run has an import of a file that defines a function, and the run stops where the
script calls the function, because it is unknown. -/
theorem import_of_import_is_missing : ∃ tree text s',
    parse (joined ["import \"b\";"] chained) = .ok tree ∧ "b" ∈ importPaths tree ∧
    chainedState.machine.world.files.read "b" = .ok text ∧ Defines text "f" ∧
    start "m" false [] chainedState = .error (.script (.unknownFunction "f")) s' := by
  have file : chainedState.machine.world.files.read "m" = .ok chained :=
    read_of_parts parts_m (by decide) rfl (by decide)
  have first : chainedState.machine.world.files.read "a" = .ok "import \"b\";" :=
    read_of_parts parts_a (by decide) rfl (by decide)
  have second : chainedState.machine.world.files.read "b" = .ok "fn f() \x7b return 7; \x7d" :=
    read_of_parts parts_b (by decide) rfl (by decide)
  obtain ⟨own, readable, paths⟩ : ∃ own, parse chained = .ok own ∧ importPaths own = ["a"] := by
    decide +kernel
  have imports : (importPaths own).mapM chainedState.machine.world.files.read =
      .ok ["import \"b\";"] := by
    rw [paths, List.mapM_cons, first]
    rfl
  obtain ⟨tree, parsed, there, e, s', stopped, rfl⟩ :
      ∃ tree, parse (joined ["import \"b\";"] chained) = .ok tree ∧ "b" ∈ importPaths tree ∧
        ∃ e s', eval {} tree (prepared false [] chainedState) = .error e s' ∧
          e = .script (.unknownFunction "f") := by decide +kernel
  have named : "m".isEmpty = false := by decide
  have chosen : ([] : List Value).mapM Value.toInt = .ok [] := rfl
  refine ⟨tree, _, s', parsed, there, second, of_definesFirst (by decide +kernel), ?_⟩
  rw [start_runs named file readable imports parsed chosen false]
  simp only [bind, EStateM.bind, stopped]

end Session

end DeskScript
