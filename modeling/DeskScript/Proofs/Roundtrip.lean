import DeskScript.Proofs.Printing

/-!
# Printed texts are read back

Words become a text when blank space or comments are put between them. A text laid out so is read
word by word, whichever way it is laid out, so the text of a printed tree is read as that tree.
-/

namespace DeskScript.Syntax

variable {words : List Word} {ts : List Tree} {cs : List Char}

open Scanner

/-- Words as a text: each of them stands at the end or in front of blank space, with any blank space
and comments between them. -/
inductive Laid : List Word → List Char → Prop
  | done {gap : List Char} (between : Gap gap) : Laid [] gap
  | word {gap rest : List Char} {w : Word} {ws : List Word} (between : Gap gap)
      (apart : ∀ c ∈ rest.head?, isBlank c) (later : Laid ws rest) :
      Laid (w :: ws) (gap ++ (w.1.toList ++ rest))

/-- Words as a text with one blank after each. -/
def Word.text (words : List Word) : String :=
  String.ofList (words.flatMap fun w => w.1.toList ++ [' '])

theorem laid_text (words : List Word) : Laid words (Word.text words).toList := by
  rw [Word.text, String.toList_ofList]
  suffices behind : ∀ gap, Gap gap → Laid words (gap ++ words.flatMap fun w => w.1.toList ++ [' ']) from
    behind [] .nil
  have space : Gap [' '] := .blank rfl .nil
  induction words with
  | nil =>
    intro gap between
    rw [List.flatMap_nil, List.append_nil]
    exact .done between
  | cons w ws ih =>
    intro gap between
    rw [List.flatMap_cons, List.append_assoc]
    exact .word between (by simp [isBlank]) (ih [' '] space)

/-- Words as a text in which none runs into the next one: each of them ends where it stands, with any
blank space and comments between them, or none. -/
inductive Placed : List Word → List Char → Prop
  | done {gap : List Char} (between : Gap gap) : Placed [] gap
  | word {gap rest : List Char} {w : Word} {ws : List Word} (between : Gap gap)
      (ends : ∀ c ∈ rest.head?, endsAt w.2 w.1.toList c) (later : Placed ws rest) :
      Placed (w :: ws) (gap ++ (w.1.toList ++ rest))

theorem Laid.placed (laid : Laid words cs) : Placed words cs := by
  induction laid with
  | done between => exact .done between
  | word between apart _ ih =>
    refine .word between (fun c next => ?_) ih
    exact endsAt_of_isBreak (isBreak_of_isBlank (apart c next)) _ _

/-! ### Reading words that are laid out -/

namespace Scanner

/-- A word that ends where it stands is the next one, if it is acceptable. -/
theorem ahead_word {accepts : Terminal → Bool} {w : Word} (valid : w.Valid) (acceptable : accepts w.2)
    {gap rest : List Char} (between : Gap gap) (ends : ∀ c ∈ rest.head?, endsAt w.2 w.1.toList c)
    (p : Position) :
    ahead accepts ⟨p, gap ++ (w.1.toList ++ rest)⟩ =
      .word ⟨w.2, w.1, ⟨p.after gap, (p.after gap).after w.1.toList⟩⟩
        ⟨(p.after gap).after w.1.toList, rest⟩ := by
  have found : lexeme accepts (w.1.toList ++ rest) = some (w.2, w.1.toList.length) := by
    refine lexeme_word valid.spells acceptable (fun name k member same => ?_) ends
    exact valid.unreserved name k member (String.toList_inj.mp same)
  have next := ahead_found found between p
  rwa [String.ofList_toList] at next

end Scanner

theorem Parser.accepts_of_feed {t : Token} {stack stack' : Stack} (taken : feed t stack = .taken stack') :
    (Table.row stack.state).accepts t.terminal := by
  rw [feed] at taken
  split at taken
  next => cases taken
  next =>
    rw [Row.accepts]
    split at taken <;> simp_all

/-- Words that are laid out are answered one after another, and then the end of the text. -/
theorem Placed.reads (placed : Placed words cs)
    (valid : ∀ w ∈ words, w.Valid) (p : Position) :
    ∃ tokens : List Token, tokens.map Token.word = words ∧
      ∀ stack stack' tree, Parser.feedAll tokens stack = some stack' →
        Parser.feed Parser.ending stack' = .complete tree → Reads stack ⟨p, cs⟩ tree := by
  induction placed generalizing p with
  | @done gap between =>
    refine ⟨[], rfl, ?_⟩
    rintro stack stack' tree ⟨⟩ complete
    refine .done (ahead_eq_done.mpr ?_) complete
    have skipped := skip_append_gap between p []
    rw [List.append_nil] at skipped
    rw [skipped]
    rfl
  | @word gap rest w ws between ends _ ih =>
    obtain ⟨first, others⟩ := List.forall_mem_cons.mp valid
    obtain ⟨tokens, same, later⟩ := ih others ((p.after gap).after w.1.toList)
    let t : Token := ⟨w.2, w.1, ⟨p.after gap, (p.after gap).after w.1.toList⟩⟩
    refine ⟨t :: tokens, by rw [List.map_cons, same]; rfl, ?_⟩
    intro stack stack' tree fed complete
    rw [Parser.feedAll] at fed
    split at fed
    next stack₁ taken =>
      have acceptable : (Table.row stack.state).accepts w.2 := Parser.accepts_of_feed taken
      exact .word (ahead_word first acceptable between ends p) taken (later stack₁ stack' tree fed complete)
    next => cases fed

/-- Words that lead to statements are answered as a script with these. -/
theorem Leads.complete
    (leads : Leads 0 words .endOfText [.of .stmts ts]) {tokens : List Token}
    (same : tokens.map Token.word = words) :
    ∃ stack tree, Parser.feedAll tokens [] = some stack ∧
      Parser.feed Parser.ending stack = .complete tree ∧
      tree.bare = .node .start none [.node .block none ts] := by
  obtain ⟨top, stack', items, through, fed, answered⟩ := leads.leads [] tokens rfl same
  obtain ⟨part, rfl, item⟩ : ∃ part, top = [part] ∧ part.item = .of .stmts ts := by
    rw [List.reverse_eq_iff, List.reverse_singleton] at items
    exact List.map_eq_singleton_iff.mp items
  have symbol : part.symbol = .part .stmts := congrArg Item.symbol item
  have trees : part.forest.reverse.map Tree.bare = ts := congrArg Item.trees item
  have state : part.state = 3 := by
    have moved : (some 3).bind (fun q => Table.through q []) = some part.state := by
      rw [← Table.goto_stmts]
      exact through
    exact (Option.some.inj moved).symm
  refine ⟨stack', part.script, fed, ?_, ?_⟩
  · rw [answered Parser.ending rfl, List.append_nil]
    exact Parser.feed_statements rfl symbol state
  · rw [Part.script, Tree.script, Tree.bare_node, List.map_singleton, Tree.bare_node, trees]

theorem Laid.reads (laid : Laid words cs)
    (valid : ∀ w ∈ words, w.Valid) (p : Position) :
    ∃ tokens : List Token, tokens.map Token.word = words ∧
      ∀ stack stack' tree, Parser.feedAll tokens stack = some stack' →
        Parser.feed Parser.ending stack' = .complete tree → Reads stack ⟨p, cs⟩ tree :=
  laid.placed.reads valid p

/-- And they are read so from every text that they are laid out in. -/
theorem Leads.parse
    (leads : Leads 0 words .endOfText [.of .stmts ts]) {source : String}
    (placed : Placed words source.toList) :
    ∃ t, parse source = .ok t ∧ t.bare = .node .start none [.node .block none ts] := by
  obtain ⟨tokens, same, reads⟩ := placed.reads leads.valid .start
  obtain ⟨stack, tree, fed, complete, bare⟩ := leads.complete same
  exact ⟨tree, parse_iff.mpr (reads [] stack tree fed complete), bare⟩

/-- Statements that words make up are what a text of these words is read as. -/
theorem Makes.parse (makes : Makes .stmts words ts)
    {source : String} (laid : Laid words source.toList) :
    ∃ t, parse source = .ok t ∧ t.bare = .node .start none [.node .block none ts] :=
  (makes.leads 12 [0] [.endOfText] 0 .endOfText Table.placeAt_start (List.mem_singleton_self 0)
    (List.mem_singleton_self _)).parse laid.placed

/-- Every tree of the language is read back from its text, however the words of the text are laid
out and whichever of the operators that need no parentheses have them. -/
theorem parse_printed {t : Tree} (formed : t.Formed Spelled .script) (wrap : Tree → Bool) :
    Laid (t.printed wrap) (Word.text (t.printed wrap)).toList ∧
      ∀ source : String, Laid (t.printed wrap) source.toList →
        ∃ t', parse source = .ok t' ∧ t'.bare = t.bare := by
  refine ⟨laid_text _, ?_⟩
  intro source laid
  obtain ⟨ts, bare, ⟨empty, rfl⟩ | makes⟩ := formed.printed wrap
  · have words : t.printed wrap = [] := empty
    rw [words] at laid
    obtain ⟨tokens, same, reads⟩ := laid.reads (by simp) .start
    obtain rfl : tokens = [] := List.map_eq_nil_iff.mp same
    have read := reads [] [] _ rfl (Parser.feed_nil rfl)
    exact ⟨_, parse_iff.mpr read, bare.symm⟩
  · rw [bare]
    exact makes.parse laid

theorem parse_printed_negated_choice :
    ∃ t, parse "x = ( - ( if a \x7b return 1 ; \x7d ) ) ; " = .ok t ∧
      t.bare = .node .start none [.node .block none [.node .store none [.leaf ⟨.name, "x", none⟩,
        .node .negate none [.node .choice none [.node .var none [.leaf ⟨.name, "a", none⟩],
          .node .block none [.node .giveBack none
            [.node .number none [.leaf ⟨.number, "1", none⟩]]]]]]]] := by
  have x : Leaf.Of Spelled .name ⟨.name, "x", none⟩ :=
    ⟨rfl, .name (c := 'x') (by decide) (by simp), fun _ => by decide⟩
  have a : Leaf.Of Spelled .name ⟨.name, "a", none⟩ :=
    ⟨rfl, .name (c := 'a') (by decide) (by simp), fun _ => by decide⟩
  have digit : NumberText (['1'] ++ []) :=
    .whole (List.cons_ne_nil _ _) (List.forall_mem_singleton.mpr (by decide)) .none
  have one : Leaf.Of Spelled .number ⟨.number, "1", none⟩ := ⟨rfl, .number digit, by simp [LeafKind.terminal]⟩
  have body : Tree.Formed Spelled .block (.node .block none [.node .giveBack none
      [.node .number none [.leaf ⟨.number, "1", none⟩]]]) :=
    .block (List.forall_mem_singleton.mpr (.giveBack (.number one)))
  have stored : Tree.Formed Spelled .statement (.node .store none
      ([⟨.name, "x", none⟩].map .leaf ++ [.node .negate none [.node .choice none
        [.node .var none [.leaf ⟨.name, "a", none⟩], _]]])) :=
    .store (List.cons_ne_nil _ _) (List.forall_mem_singleton.mpr x) (.negate (.choice (.var a) body))
  have formed : Tree.Formed Spelled .script (.node .start none [.node .block none [_]]) :=
    .script (.block (List.forall_mem_singleton.mpr stored))
  obtain ⟨laid, read⟩ := parse_printed formed fun _ => true
  exact read _ laid

end DeskScript.Syntax
