import DeskScript.Proofs.Lines

/-!
# Texts one below the other

A text that is a script by itself is read in the same way below another one, but for a first word
`else`, which may belong to a choice at the end of the text above. Then the text below cannot be
read to its end. So where texts can be read one below the other, and each of them by itself, the
script has the statements of all of them, one text after the other.
-/

namespace DeskScript.Syntax

open Scanner

/-! ### A first word `else` -/

namespace Table

set_option maxRecDepth 4000 in
/-- Behind `else` stands a brace. Behind a name at the start of a statement stands none, and the text
goes on. -/
theorem behind_word :
    ((∀ t ∈ [Terminal.string, .number, .name], (row 135).accepts t = false) ∧
      ∀ w ∈ Terminal.fixed, (row 135).accepts w.2 → w.1.toList.head? = some '{') ∧
    (row 0).action .name = some (.shift 14) ∧ (row 14).action .endOfText = none ∧
    (∀ t ∈ [Terminal.string, .number, .name], (row 14).accepts t = false) ∧
    ∀ w ∈ Terminal.fixed, (row 14).accepts w.2 → w.1.toList.head? ≠ some '{' := by
  with_unfolding_all decide

end Table

namespace Scanner

/-- What an `else` is taken for. -/
def elseKind (accepts : Terminal → Bool) : Terminal :=
  if accepts .elseWord then .elseWord else .name

variable {accepts : Terminal → Bool} {cs : List Char}

theorem lexeme_else {tail : List Char} (ends : tail.takeWhile isNamePart = [])
    (names : accepts .name) :
    lexeme accepts ("else".toList ++ tail) = some (elseKind accepts, 4) := by
  have letters : "else".toList = ['e', 'l', 's', 'e'] := rfl
  have named : "else".toList.all isNamePart := by decide
  have word : ("else".toList ++ tail).takeWhile isNamePart = "else".toList := by
    rw [List.takeWhile_append_of_pos (List.all_eq_true.mp named), ends, List.append_nil]
  have spelled : String.ofList "else".toList = "else" := String.ofList_toList
  have number : numberLength ("else".toList ++ tail) = 0 := by
    simp [letters, numberLength, digits, isDigit]
  have start : isNameStart 'e' := by decide
  rw [letters, List.cons_append] at word number ⊢
  simp only [lexeme, number, start, names, word]
  rw [← letters, spelled]
  cases also : accepts .elseWord <;> simp [elseKind, Terminal.keywords, also]

/-- A text that opens with `else` goes on with it, whatever an `else` is taken for. -/
theorem ahead_else {p q : Position} {tail : List Char}
    (here : skip false q cs = ⟨p, "else".toList ++ tail⟩) (ends : tail.takeWhile isNamePart = [])
    (names : accepts .name) :
    ahead accepts ⟨q, cs⟩ = .word ⟨elseKind accepts, "else", ⟨p, p.after "else".toList⟩⟩
      ⟨p.after "else".toList, tail⟩ := by
  have word := lexeme_else ends names
  have letters : "else".toList = ['e', 'l', 's', 'e'] := rfl
  have spelled : String.ofList "else".toList = "else" := String.ofList_toList
  rw [letters] at here word spelled ⊢
  simp only [List.cons_append, List.nil_append] at here word
  simp [ahead, here, front, word, spelled]

theorem skip_of_opening {n : Nat} (opens : opening cs = "else".toList) :
    ∃ p tail, skip false (Position.start.down n) cs = ⟨p, "else".toList ++ tail⟩ ∧
      tail.takeWhile isNamePart = [] := by
  rw [← opening_down n] at opens
  cases here : skip false (Position.start.down n) cs with
  | mk p rest =>
    rw [here] at opens
    refine ⟨p, rest.dropWhile isNamePart, ?_, ?_⟩
    · rw [← opens, List.takeWhile_append_dropWhile]
    · cases behind : rest.dropWhile isNamePart with
      | nil => rfl
      | cons d tail =>
        have other := List.head_dropWhile_not isNamePart (l := rest) (by simp [behind])
        simp only [behind, List.head_cons] at other
        simp [other]

/-- Where names, numbers and strings cannot stand, a text goes on with one of the other words. -/
theorem head_lexeme {c : Char} {left : List Char} {found : Terminal × Nat}
    (none : ∀ t ∈ [Terminal.string, .number, .name], accepts t = false)
    (word : lexeme accepts (c :: left) = some found) :
    ∃ w ∈ Terminal.fixed, accepts w.2 ∧ w.1.toList.head? = some c := by
  simp only [lexeme, none, List.mem_cons, true_or, or_true, Bool.false_and, Bool.false_eq_true,
    if_false, firstFixed] at word
  obtain ⟨w, first, -⟩ := Option.map_eq_some_iff.mp word
  obtain ⟨member, taken⟩ := List.mem_filter.mp (List.mem_of_find?_eq_some first)
  have fits := List.find?_some first
  exact ⟨w, member, taken, head_spelled w (Terminal.mem_spelled member) fits⟩

/-- What may follow a text without changing how its words are read. -/
def Stops (more : List Char) : Prop := more = [] ∨ ∃ rest, more = '\n' :: rest

theorem skip_stops {p q : Position} {left more : List Char} {c : Char} (stops : Stops more)
    (here : skip false p cs = ⟨q, c :: left⟩) :
    skip false p (cs ++ more) = ⟨q, c :: left ++ more⟩ := by
  rcases stops with rfl | ⟨rest, rfl⟩
  · rw [List.append_nil, List.append_nil, here]
  · exact skip_line_cons here rest

theorem lexed_of_ahead {p : Position} {t : Token} {after : Cursor}
    (next : ahead accepts ⟨p, cs⟩ = .word t after) :
    ∃ q c left found, skip false p cs = ⟨q, c :: left⟩ ∧ lexeme accepts (c :: left) = some found := by
  cases here : skip false p cs with
  | mk q rest =>
    cases rest with
    | nil => simp [ahead, here, front] at next
    | cons c left =>
      cases found : lexeme accepts (c :: left) with
      | none => simp [ahead, here, front, found] at next
      | some found' => exact ⟨q, c, left, found', rfl, found⟩

end Scanner

/-- What stands behind a name in a script cannot stand behind an `else`. -/
theorem Reads.parts {t t' : Token} {p : Position} {cs more : List Char} {below : Stack}
    {tree tree' : Tree} (stops : Stops more)
    (alone : Reads [Part.ofToken 14 t] ⟨p, cs⟩ tree)
    (joint : Reads (Part.ofToken 135 t' :: below) ⟨p, cs ++ more⟩ tree') : False := by
  obtain ⟨⟨fixed', brace⟩, -, ends, fixed, other⟩ := Table.behind_word
  cases alone with
  | done empty complete =>
    have open' : Parser.complete? Parser.ending [Part.ofToken 14 t] = none :=
      Parser.complete?_of_symbol (by simp [Part.ofToken]) []
    obtain ⟨i, -, action, -⟩ := Parser.fold_of_complete open' complete
    cases ends.symm.trans action
  | word next _ _ =>
    obtain ⟨q, c, left, found, here, lexed⟩ := lexed_of_ahead next
    obtain ⟨w, member, taken, head⟩ := head_lexeme fixed lexed
    have here' := skip_stops stops here
    cases joint with
    | done empty' _ =>
      rw [ahead_eq_done] at empty'
      simp only [here'] at empty'
      cases empty'
    | word next' _ _ =>
      obtain ⟨q', c', left', found', again, lexed'⟩ := lexed_of_ahead next'
      rw [here'] at again
      cases again
      obtain ⟨w', member', taken', head'⟩ := head_lexeme fixed' lexed'
      exact other w member taken (head.trans (head'.symm.trans (brace w' member' taken')))

/-- Where an `else` is acceptable, no text that is a script by itself starts with one, if it can be
read there. -/
theorem Reads.opening_else {stack : Stack} {n : Nat} {below more : List Char} {tree tree' : Tree}
    (stops : Stops more) (also : (Table.row stack.state).accepts .elseWord)
    (alone : Reads [] ⟨Position.start.down n, below⟩ tree)
    (joint : Reads stack ⟨Position.start.down n, below ++ more⟩ tree') :
    opening below ≠ "else".toList := by
  intro opens
  obtain ⟨p, tail, here, ends⟩ := skip_of_opening (n := n) opens
  have here' : skip false (Position.start.down n) (below ++ more) =
      ⟨p, "else".toList ++ (tail ++ more)⟩ := skip_stops stops here
  have ends' : (tail ++ more).takeWhile isNamePart = [] := by
    cases tail with
    | nil =>
      rcases stops with rfl | ⟨rest, rfl⟩
      · rfl
      · rfl
    | cons d tail =>
      rw [List.takeWhile_cons] at ends
      split at ends
      · cases ends
      · rwa [List.cons_append, List.takeWhile_cons, if_neg]
  have names : (Table.row 0).accepts .name := Table.accepts_first .name (by simp)
  have name := ahead_else here ends names
  have word := ahead_else here' ends' (Table.name_of_else also)
  cases alone with
  | done empty _ => cases name.symm.trans empty
  | word next taken rest =>
    cases name.symm.trans next
    cases joint with
    | done empty' _ => cases word.symm.trans empty'
    | word next' taken' rest' =>
      cases word.symm.trans next'
      obtain ⟨q, state, under, shift, rfl⟩ := Parser.feed_taken taken'
      rw [elseKind, if_pos also] at shift
      obtain rfl := Table.shift_else shift
      have shift' : (Table.row 0).action (elseKind (Table.row 0).accepts) = some (.shift 14) := by
        rw [elseKind, Table.else_refused]
        exact Table.behind_word.2.1
      cases taken.symm.trans (Parser.feed_shift rfl shift')
      exact rest.parts stops rest'

/-- A text below an accepted one is read as the rest of one script, further down, if it can be read
there. -/
theorem Reads.append_line_joint {above below more : List Char} {extent extent' : Option Span}
    {statements statements' : List Tree} {tree : Tree}
    (reads : Reads [] ⟨.start, above⟩ (.script extent statements))
    (reads' : Reads [] ⟨.start, below⟩ (.script extent' statements')) (stops : Stops more)
    (joint : Reads [] ⟨.start, above ++ '\n' :: (below ++ more)⟩ tree) :
    Reads [] ⟨.start, above ++ '\n' :: below⟩ (.script
      (Span.join extent (extent'.map (Span.down (above.count '\n' + 1))))
      (statements ++ statements'.map (Tree.down (above.count '\n' + 1)))) := by
  refine reads.append_line_of reads' fun stack behind => ?_
  cases also : (Table.row stack.state).accepts .elseWord with
  | false => exact .inr rfl
  | true =>
    have alone : Reads [] ⟨Position.start.down (above.count '\n' + 1), below⟩ _ := reads'.down _
    exact .inl (Reads.opening_else stops also alone ((behind _ _).mpr joint))

theorem Reads.unique {stack : Stack} {cursor : Cursor} {tree tree' : Tree}
    (reads : Reads stack cursor tree) (reads' : Reads stack cursor tree') : tree = tree' :=
  Except.ok.inj ((Parser.run_of_reads reads none).symm.trans (Parser.run_of_reads reads' none))

end DeskScript.Syntax

namespace DeskScript.Session

open Syntax Scanner

/-! ### Stacks of texts -/

theorem stacked_cons {text : String} {rest : List String} (more : rest ≠ []) :
    stacked (text :: rest) = text.toList ++ '\n' :: stacked rest := by
  obtain ⟨next, later, rfl⟩ := List.exists_cons_of_ne_nil more
  rfl

theorem stacked_append {first second : List String} (begun : first ≠ []) (more : second ≠ []) :
    stacked (first ++ second) = stacked first ++ '\n' :: stacked second := by
  induction first with
  | nil => exact absurd rfl begun
  | cons text rest ih =>
    by_cases single : rest = []
    · subst single
      exact stacked_cons more
    · rw [List.cons_append, stacked_cons (by simp [more]), stacked_cons single, ih single,
        List.append_assoc, List.cons_append]

/-- The statements of a text that is a script by itself, further down. -/
def Stands (text : String) (part : List Tree) : Prop :=
  ∃ extent statements n, parse text = .ok (.script extent statements) ∧
    part = statements.map (Tree.down n)

/-- Below texts that can be read, further texts are read one after the other. -/
theorem reads_stack {texts done : List String} {script : String} {extent extent' : Option Span}
    {statements : List Tree} {parts : List (List Tree)} {tree : Tree} (begun : done ≠ [])
    (stands : List.Forall₂ Stands done parts)
    (reads : Reads [] ⟨.start, stacked done⟩ (.script extent parts.flatten))
    (readable : ∀ text ∈ texts, ∃ t, parse text = .ok t)
    (own : parse script = .ok (.script extent' statements))
    (joint : Reads [] ⟨.start, stacked (done ++ texts ++ [script])⟩ tree) :
    ∃ extent parts, List.Forall₂ Stands (done ++ texts) parts ∧ tree = .script extent
      (parts.flatten ++ statements.map (Tree.down ((stacked (done ++ texts)).count '\n' + 1))) := by
  induction texts generalizing done extent parts with
  | nil =>
    rw [List.append_nil] at joint ⊢
    rw [stacked_append begun (by simp)] at joint
    have both := reads.append_line_joint (parse_iff.mp own) (.inl rfl)
      (by rw [List.append_nil]; exact joint)
    exact ⟨_, parts, stands, joint.unique both⟩
  | cons text rest ih =>
    obtain ⟨t, parsed⟩ := readable text List.mem_cons_self
    have reads' := parse_iff.mp parsed
    obtain ⟨extent₁, statements₁, rfl⟩ := reads'.script
    have split : stacked (done ++ text :: rest ++ [script]) =
        stacked done ++ '\n' :: (text.toList ++ '\n' :: stacked (rest ++ [script])) := by
      rw [List.append_assoc, List.cons_append, stacked_append begun (by simp),
        stacked_cons (by simp)]
    have both := reads.append_line_joint reads' (.inr ⟨_, rfl⟩) (split ▸ joint)
    have placed : List.Forall₂ Stands (done ++ [text])
        (parts ++ [statements₁.map (Tree.down ((stacked done).count '\n' + 1))]) :=
      List.rel_append stands (.cons ⟨_, _, _, parsed, rfl⟩ .nil)
    have later := fun text member => readable text (List.mem_cons_of_mem _ member)
    have next := ih (by simp) placed
      (by
        rw [stacked_append begun (by simp), List.flatten_append, List.flatten_singleton]
        exact both) later (by simpa using joint)
    simpa using next

end DeskScript.Session
