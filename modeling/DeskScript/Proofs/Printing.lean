import DeskScript.Proofs.Formed
import DeskScript.Proofs.Making

/-!
# Printed trees

A tree written as words: one statement after another, with parentheses around the operators and
choices that are operands, and around any other operator where one likes. What is printed for a tree
of the language makes up that tree.
-/

namespace DeskScript.Syntax

/-- The terminal of the words that leaves of a kind are written as. -/
def LeafKind.terminal : LeafKind → Terminal
  | name => .name
  | number => .number
  | string => .string
  | other _ => .endOfText

/-- The sign of an operator. -/
def Label.sign : Label → Terminal
  | either => .orOr
  | both => .andAnd
  | greater => .greater
  | less => .less
  | greaterEq => .greaterEq
  | lessEq => .lessEq
  | equal => .equal
  | notEqual => .notEqual
  | add => .plus
  | subtract | negate => .minus
  | multiply => .times
  | divide => .slash
  | modulo => .percent
  | _ => .endOfText

namespace Word

/-- Words of several parts, each after a comma. -/
def commas (parts : List (List Word)) : List Word := parts.flatMap (.of .comma :: ·)

/-- Words of several parts, with commas between them. -/
def listed : List (List Word) → List Word
  | [] => []
  | first :: rest => first ++ commas rest

end Word

open Word

/-- What is printed for a tree, and what has to be known of the tree to put it to use. -/
structure Piece where
  label : Option Label
  /-- Whether an operator gets parentheses also where it could do without. -/
  wrapped : Bool
  words : List Word

namespace Piece

def isChoice (p : Piece) : Bool := p.label = some .choice

def isOperator (p : Piece) : Bool := p.label.any fun l => l = .negate || Label.binary.contains l

/-- As an operand. -/
def operand (p : Piece) : List Word :=
  if p.isChoice || p.isOperator then parens p.words else p.words

/-- As a whole expression. -/
def whole (p : Piece) : List Word :=
  if p.isChoice || (p.isOperator && p.wrapped) then parens p.words else p.words

/-- As the body of a function, a loop or a choice. -/
def braced (p : Piece) : List Word := .of .leftBrace :: (p.words ++ [.of .rightBrace])

end Piece

/-- What stands in the parentheses of a built-in call. -/
def Arguments.printed : Arguments → List Piece → List Word
  | .many, [args] => args.words
  | .one, [value] => value.whole
  | .twoNames, [f, g] => f.words ++ .of .comma :: g.words
  | _, _ => []

/-- What is printed for a node, given its parts. -/
def Label.printed : Label → List Piece → List Word
  | .start, [body] => body.words
  | .block, parts => parts.flatMap (·.words)
  | .importFile, [file] => .of .importWord :: (file.words ++ [.of .semicolon])
  | .outer, [name] => .of .outerWord :: (name.words ++ [.of .semicolon])
  | .store, parts => listed (parts.dropLast.map (·.words)) ++
      .of .assign :: ((parts.getLast?.map (·.whole)).getD [] ++ [.of .semicolon])
  | .expression, [value] => if value.isChoice then value.words else value.whole ++ [.of .semicolon]
  | .breakLoop, _ => [.of .breakWord, .of .semicolon]
  | .continueLoop, _ => [.of .continueWord, .of .semicolon]
  | .giveBack, [] => [.of .returnWord, .of .semicolon]
  | .giveBack, [value] => .of .returnWord :: (value.whole ++ [.of .semicolon])
  | .define, [name, body] =>
    .of .fnWord :: (name.words ++ .of .leftParen :: .of .rightParen :: body.braced)
  | .define, [name, params, body] =>
    .of .fnWord :: (name.words ++ .of .leftParen :: (params.words ++ .of .rightParen :: body.braced))
  | .parameters, parts => listed (parts.map (·.words))
  | .loop, [test, body] => .of .whileWord :: (test.whole ++ body.braced)
  | .choice, [test, body] => .of .ifWord :: (test.whole ++ body.braced)
  | .choice, [test, body, alternative] =>
    .of .ifWord :: (test.whole ++ (body.braced ++ .of .elseWord :: alternative.braced))
  | .negate, [value] => .of .minus :: value.operand
  | .index, [value, place] =>
    value.operand ++ .of .leftBracket :: (place.whole ++ [.of .rightBracket])
  | .number, [l] | .string, [l] | .var, [l] => l.words
  | .null, _ => [.of .nullWord]
  | .yes, _ => [.of .trueWord]
  | .no, _ => [.of .falseWord]
  | .tuple, parts => parens (listed (parts.map (·.operand)))
  | .list, parts => .of .leftBracket :: (parts.flatMap (·.words) ++ [.of .rightBracket])
  | .items, parts | .args, parts => listed (parts.map (·.whole))
  | .call, name :: parts => name.words ++ parens (parts.flatMap (·.words))
  | .builtinCall, [inner] => inner.words
  | .builtin b, parts =>
    (b.word, .ofArguments b.arguments) :: parens (b.arguments.printed parts)
  | l, [left, right] => left.operand ++ .of l.sign :: right.operand
  | _, _ => []

mutual

/-- What is printed for a tree. -/
def Tree.piece (wrap : Tree → Bool) : Tree → Piece
  | .node l span ts => ⟨some l, wrap (.node l span ts), l.printed (pieces wrap ts)⟩
  | .leaf l => ⟨none, false, [(l.text, l.kind.terminal)]⟩
  | .datum _ => ⟨none, false, []⟩

def pieces (wrap : Tree → Bool) : List Tree → List Piece
  | [] => []
  | t :: ts => t.piece wrap :: pieces wrap ts

end

theorem pieces_eq_map (wrap : Tree → Bool) (ts : List Tree) : pieces wrap ts = ts.map (·.piece wrap) := by
  induction ts with
  | nil => rfl
  | cons t ts ih => rw [pieces, ih, List.map_cons]

theorem Tree.piece_node (wrap : Tree → Bool) (l : Label) (span : Option Span) (ts : List Tree) :
    (Tree.node l span ts).piece wrap =
      ⟨some l, wrap (.node l span ts), l.printed (ts.map (·.piece wrap))⟩ := by
  rw [piece, pieces_eq_map]

/-- The words of a tree. -/
def Tree.printed (wrap : Tree → Bool) (t : Tree) : List Word := (t.piece wrap).words

/-! ### What printed expressions make up -/

/-- The words that texts are printed as can be read. -/
def Spelled : Vocabulary := fun kind text => Word.Valid (text, kind.terminal)

/-- A printed expression makes up its tree, in each of the ways it is put to use. -/
structure Piece.Expresses (p : Piece) (t : Tree) : Prop where
  operand : Makes .atom p.operand [t]
  whole : ∀ c, c = .expr ∨ c = .disjunction → Makes c p.whole [t]
  choice : p.isChoice → Makes .choice p.words [t]

namespace Piece

theorem expresses_atom {p : Piece} {t : Tree} (makes : Makes .atom p.words [t])
    (plain : p.isChoice = false ∧ p.isOperator = false := by exact ⟨rfl, rfl⟩) : p.Expresses t where
  operand := by simpa [Piece.operand, plain] using makes
  whole := by
    intro c whole
    simpa [Piece.whole, plain] using makes.operand whole
  choice := by simp [plain]

theorem expresses_operator {p : Piece} (operator : p.isChoice = false ∧ p.isOperator) {t : Tree}
    (makes : ∀ c, c = .expr ∨ c = .disjunction → Makes c p.words [t]) : p.Expresses t := by
  have wrapped : Makes .atom (parens p.words) [t] := (makes .expr (.inl rfl)).parenthesised
  refine ⟨by simpa [Piece.operand, operator] using wrapped, ?_, by simp [operator]⟩
  intro c whole
  by_cases w : p.wrapped
  · simpa [Piece.whole, operator, w] using wrapped.operand whole
  · simpa [Piece.whole, operator, w] using makes c whole

theorem expresses_choice {p : Piece} (choice : p.isChoice) {t : Tree}
    (makes : Makes .choice p.words [t]) : p.Expresses t where
  operand := by simpa [Piece.operand, choice] using makes.choice
  whole := by
    intro c whole
    simpa [Piece.whole, choice] using makes.choice.operand whole
  choice _ := makes

end Piece

/-! ### Lists of parts -/

namespace Makes

theorem semicolons : Makes .semicolons [.of .semicolon] [] :=
  production (i := 80) rfl (Fills.mark rfl .nil)

/-- Parts after commas. -/
theorem commas {α : Type} {r : Category} {x : Symbol} (one more : Nat)
    (first : production? one = some ⟨r, [.word .comma, x], .pass⟩)
    (later : production? more = some ⟨r, [.part r, .word .comma, x], .pass⟩)
    (composed : r.composed) (going : ∀ w ∈ r.firsts, w ∈ r.again) {parts : List α} (some : parts ≠ [])
    {words : α → List Word} {item : α → Item} (fills : ∀ a ∈ parts, Fills [x] (words a) [item a]) :
    Makes r (Word.commas (parts.map words)) (parts.flatMap fun a => (item a).trees) := by
  have each : ∀ part ∈ parts.map fun a => (Word.of .comma :: words a, [.ofWord (.of .comma), item a]),
      Fills [.word .comma, x] part.1 part.2 := by
    intro part member
    obtain ⟨a, here, rfl⟩ := List.mem_map.mp member
    exact .mark rfl (fills a here)
  have made := repeated one more first later composed (by simp) (by simp) going (by simpa using some) each
  have trees : ∀ a, [Item.ofWord (.of .comma), item a].flatMap (·.trees) = (item a).trees :=
    fun a => List.append_nil _
  rw [List.flatMap_map, List.flatMap_map] at made
  simpa only [Word.commas, List.flatMap_map, trees] using made

variable (wrap : Tree → Bool)

/-- Names after commas. -/
theorem moreNames {names : List Leaf} (some : names ≠ []) (named : ∀ n ∈ names, n.Of Spelled .name) :
    Makes .moreNames (Word.commas (names.map fun n => ((Tree.leaf n).piece wrap).words))
      (names.map fun n => (Tree.leaf n).bare) := by
  have fills : ∀ n ∈ names, Fills [.word .name] ((Tree.leaf n).piece wrap).words
      [⟨.word .name, n.text, [(Tree.leaf n).bare]⟩] := by
    intro n here
    obtain ⟨text, span, rfl, valid⟩ := (named n here).exists_eq
    exact .word valid .nil
  have made := commas 78 79 rfl rfl rfl (by decide) some fills
  rwa [← List.map_eq_flatMap] at made

/-- Parts of one category after commas. -/
theorem more {r c : Category} (one later : Nat)
    (first : production? one = some ⟨r, [.word .comma, .part c], .pass⟩)
    (again : production? later = some ⟨r, [.part r, .word .comma, .part c], .pass⟩)
    (composed : r.composed) (going : ∀ w ∈ r.firsts, w ∈ r.again) {parts : List Tree}
    (some : parts ≠ []) {words : Tree → List Word} (makes : ∀ t ∈ parts, Makes c (words t) [t.bare]) :
    Makes r (Word.commas (parts.map words)) (parts.map Tree.bare) := by
  have fills : ∀ t ∈ parts, Fills [.part c] (words t) [.of c [t.bare]] := by
    intro t here
    exact .last (makes t here)
  have trees : parts.map Tree.bare = parts.flatMap fun t => (Item.of c [t.bare]).trees :=
    List.map_eq_flatMap
  rw [trees]
  exact commas one later first again composed going some fills

/-- Parameters. -/
theorem parameters {names : List Leaf} (some : names ≠ [])
    (named : ∀ n ∈ names, n.Of Spelled .name) :
    Makes .parameters (listed (names.map fun n => ((Tree.leaf n).piece wrap).words))
      [.node .parameters none (names.map fun n => (Tree.leaf n).bare)] := by
  obtain ⟨name, names, rfl⟩ := List.exists_cons_of_ne_nil some
  obtain ⟨text, span, rfl, valid⟩ := (named _ List.mem_cons_self).exists_eq
  by_cases none : names = []
  · subst none
    exact production (i := 28) rfl (.word valid .nil)
  · have rest := moreNames wrap none fun n here => named n (List.mem_cons_of_mem _ here)
    have made := production (i := 27) rfl
      (.word valid (.part rest .nil))
    simp only [Shape.left, List.flatMap_cons, List.flatMap_nil, List.append_nil] at made
    exact made

/-- Expressions with commas between them. -/
theorem exprs {h : Category} {l : Label} (one several : Nat)
    (single : production? one = some ⟨h, [.part .expr], .node l⟩)
    (found : production? several = some ⟨h, [.part .expr, .part .moreExprs], .node l⟩)
    (composed : h.composed) (other : h ≠ .expr) {parts : List Tree} (some : parts ≠ [])
    (each : ∀ t ∈ parts, (t.piece wrap).Expresses t.bare) :
    Makes h (listed (parts.map fun t => (t.piece wrap).whole)) [.node l none (parts.map Tree.bare)] := by
  have makes : ∀ t ∈ parts, Makes .expr (t.piece wrap).whole [t.bare] :=
    fun t here => (each t here).whole .expr (.inl rfl)
  obtain ⟨t, parts, rfl⟩ := List.exists_cons_of_ne_nil some
  have first := makes t List.mem_cons_self
  by_cases none : parts = []
  · subst none
    exact production single (.part first .nil) composed (by simpa using other.symm) (by simp)
  · have rest := more 84 85 rfl rfl rfl (by decide) none
      fun t here => makes t (List.mem_cons_of_mem _ here)
    have made := production found (.part first (.part rest .nil)) composed (by simpa using other.symm)
      (by simp)
    simpa [Shape.left, Item.of, listed] using made

/-- A block. -/
theorem block {parts : List Tree} (each : ∀ t ∈ parts, Makes .stmt (t.piece wrap).words [t.bare]) :
    (parts = [] ∨ Makes .stmts (parts.flatMap fun t => (t.piece wrap).words) (parts.map Tree.bare)) ∧
      Makes .block (.of .leftBrace :: (parts.flatMap (fun t => (t.piece wrap).words) ++ [.of .rightBrace]))
        [.node .block none (parts.map Tree.bare)] := by
  by_cases none : parts = []
  · subst none
    exact ⟨.inl rfl, production (i := 32) rfl (.mark rfl (.mark rfl .nil))⟩
  · have fills : ∀ part ∈ parts.map fun t => ((t.piece wrap).words, [Item.of .stmt [t.bare]]),
        Fills [.part .stmt] part.1 part.2 := by
      intro part member
      obtain ⟨t, here, rfl⟩ := List.mem_map.mp member
      exact .last (each t here)
    have stmts := repeated 76 77 rfl rfl rfl (by decide) (by decide) (by decide)
      (by simpa using none) fills
    rw [List.flatMap_map, List.flatMap_map] at stmts
    replace stmts : Makes .stmts (parts.flatMap fun t => (t.piece wrap).words)
        (parts.flatMap fun t => [t.bare]) := stmts
    rw [← List.map_eq_flatMap] at stmts
    have made := production (i := 30) rfl
      (.mark rfl (.part stmts (.mark rfl .nil)))
    simp only [Shape.left, List.flatMap_cons, List.flatMap_nil, List.append_nil] at made
    exact ⟨.inr stmts, by simpa [Item.of, Item.ofWord, Word.of, Terminal.leafKind?] using made⟩

end Makes

namespace Makes

/-- Names given a value. -/
theorem store {names : List Leaf} (some : names ≠ []) (named : ∀ n ∈ names, n.Of Spelled .name)
    (wrap : Tree → Bool) {us : List Word} {value : Tree} (given : Makes .expr us [value]) :
    Makes .assignStmt
      (listed (names.map fun n => ((Tree.leaf n).piece wrap).words) ++
        .of .assign :: (us ++ [.of .semicolon]))
      [.node .store none (names.map (fun n => (Tree.leaf n).bare) ++ [value])] := by
  obtain ⟨name, names, rfl⟩ := List.exists_cons_of_ne_nil some
  obtain ⟨text, span, rfl, valid⟩ := (named _ List.mem_cons_self).exists_eq
  have rest := Fills.mark (t := .assign) rfl (.part given (.mark (t := .semicolon) rfl .nil))
  by_cases none : names = []
  · subst none
    exact production (i := 13) rfl (.word valid rest)
  · have more := moreNames wrap none fun n here => named n (List.mem_cons_of_mem _ here)
    have made := production (i := 12) rfl (.word valid (.part more rest))
    rw [List.map_cons, listed, List.append_assoc]
    exact made

/-- Operands in parentheses, with commas between them. -/
theorem tuple {parts : List Tree} (two : 2 ≤ parts.length) (wrap : Tree → Bool)
    (each : ∀ t ∈ parts, (t.piece wrap).Expresses t.bare) :
    Makes .atom (parens (listed (parts.map fun t => (t.piece wrap).operand)))
      [.node .tuple none (parts.map Tree.bare)] := by
  have makes : ∀ t ∈ parts, Makes .atom (t.piece wrap).operand [t.bare] :=
    fun t here => (each t here).operand
  match parts, two with
  | t :: second :: parts, _ =>
    have rest := more 82 83 rfl rfl rfl (by decide) (List.cons_ne_nil _ _)
      fun t here => makes t (List.mem_cons_of_mem _ here)
    have made := atom (i := 67) rfl
      (.mark rfl (.part (makes t List.mem_cons_self) (.part rest (.mark rfl .nil))))
    have words : listed ((t :: second :: parts).map fun t => (t.piece wrap).operand) =
        (t.piece wrap).operand ++ Word.commas ((second :: parts).map fun t => (t.piece wrap).operand) :=
      rfl
    rw [parens, words, List.append_assoc]
    have last : (Item.ofWord (.of .rightParen)).trees = [] := rfl
    simp only [Shape.left, List.flatMap_cons, List.flatMap_nil, last, List.append_nil] at made
    exact made

/-- A built-in with what it is given. -/
theorem builtin {i : Nat} {b : Builtin} {a : Arguments} (takes : b.arguments = a) {rest : List Symbol}
    (found : production? i = some ⟨.builtin, .word (.ofArguments a) :: rest, .call⟩)
    (parts : List Piece) {items : List Item} (fills : Fills rest (parens (a.printed parts)) items) :
    Makes .builtin ((b.word, .ofArguments b.arguments) :: parens (b.arguments.printed parts))
      [.node (.builtin b) none (items.flatMap (·.trees))] := by
  subst takes
  have member : (b.word, .ofArguments b.arguments) ∈ Terminal.calls :=
    List.mem_map.mpr ⟨b, b.mem_all, rfl⟩
  have valid : Word.Valid (b.word, .ofArguments b.arguments) :=
    Word.valid_of_mem (List.mem_append_left _ (List.mem_append_left _ member))
  have made := production found (.word valid fills) rfl (by simp) (by simp)
  have silent : (Item.ofWord (b.word, .ofArguments b.arguments)).trees = [] := by
    cases b.arguments <;> rfl
  have label : Label.ofCall (Item.ofWord (b.word, .ofArguments b.arguments)).text = .builtin b :=
    Label.ofCall_word b
  simpa [Shape.left, silent, label] using made

end Makes

/-! ### Operators -/

/-- What is read as an operand in the productions of the operators. -/
def Category.isOperand (c : Category) : Bool := c.firsts = Category.firsts .atom

theorem Makes.contents {c : Category} (operand : c.isOperand) {us : List Word} {ts : List Tree}
    (makes : Makes .atom us ts) {nexts : List Terminal} {rest : List Symbol} {ws : List Word}
    {items : List Item} (later : Contents Table.operandFor nexts rest ws items) :
    Contents Table.operandFor nexts (.part c :: rest) (us ++ ws) (.of c ts :: items) := by
  have starts : Starts c us := by
    obtain ⟨w, us, rfl, first⟩ := makes.starts
    have same : c.firsts = Category.firsts .atom := of_decide_eq_true operand
    exact ⟨w, us, rfl, same ▸ first⟩
  exact .part starts (fun states s n placed member here => makes.leads_operandFor placed member here) later

/-- Every operator has its production. -/
theorem Label.exists_operator {l : Label} (binary : l ∈ binary) : ∃ i ∈ Table.operators,
    ∃ head left right, production? i = some ⟨head, [.part left, .word l.sign, .part right], .node l⟩ ∧
      left.isOperand ∧ right.isOperand ∧ l.sign.isMark ∧ (Item.ofWord (.of l.sign)).trees = [] := by
  simp only [Label.binary, List.mem_cons, List.not_mem_nil, or_false] at binary
  rcases binary with rfl | rfl | rfl | rfl | rfl | rfl | rfl | rfl | rfl | rfl | rfl | rfl | rfl
  · exact ⟨39, by decide, _, _, _, rfl, rfl, rfl, rfl, rfl⟩
  · exact ⟨41, by decide, _, _, _, rfl, rfl, rfl, rfl, rfl⟩
  · exact ⟨43, by decide, _, _, _, rfl, rfl, rfl, rfl, rfl⟩
  · exact ⟨44, by decide, _, _, _, rfl, rfl, rfl, rfl, rfl⟩
  · exact ⟨45, by decide, _, _, _, rfl, rfl, rfl, rfl, rfl⟩
  · exact ⟨46, by decide, _, _, _, rfl, rfl, rfl, rfl, rfl⟩
  · exact ⟨47, by decide, _, _, _, rfl, rfl, rfl, rfl, rfl⟩
  · exact ⟨48, by decide, _, _, _, rfl, rfl, rfl, rfl, rfl⟩
  · exact ⟨49, by decide, _, _, _, rfl, rfl, rfl, rfl, rfl⟩
  · exact ⟨50, by decide, _, _, _, rfl, rfl, rfl, rfl, rfl⟩
  · exact ⟨53, by decide, _, _, _, rfl, rfl, rfl, rfl, rfl⟩
  · exact ⟨54, by decide, _, _, _, rfl, rfl, rfl, rfl, rfl⟩
  · exact ⟨55, by decide, _, _, _, rfl, rfl, rfl, rfl, rfl⟩

theorem Label.printed_binary {l : Label} (binary : l ∈ binary) (p q : Piece) :
    l.printed [p, q] = p.operand ++ .of l.sign :: q.operand := by
  simp only [Label.binary, List.mem_cons, List.not_mem_nil, or_false] at binary
  rcases binary with rfl | rfl | rfl | rfl | rfl | rfl | rfl | rfl | rfl | rfl | rfl | rfl | rfl <;> rfl

namespace Makes

variable {c : Category} (whole : c = .expr ∨ c = .disjunction)
include whole

/-- Two operands with an operator between them. -/
theorem binary {l : Label} (binary : l ∈ Label.binary) {us vs : List Word} {a b : Tree}
    (left : Makes .atom us [a]) (right : Makes .atom vs [b]) :
    Makes c (us ++ .of l.sign :: vs) [.node l none [a, b]] := by
  obtain ⟨i, listed, head, x, y, found, operand, operand', mark, trees⟩ := Label.exists_operator binary
  have contents : ∀ nexts, Contents Table.operandFor nexts [.part x, .word l.sign, .part y]
      (us ++ .of l.sign :: (vs ++ [])) [.of x [a], .ofWord (.of l.sign), .of y [b]] :=
    fun nexts => left.contents operand (.word (Word.of_valid mark) (right.contents operand' .nil))
  have made := operator whole found listed contents
  simpa [Shape.left, trees, Item.of] using made

/-- An operand with a sign. -/
theorem negate {us : List Word} {a : Tree} (value : Makes .atom us [a]) :
    Makes c (.of .minus :: us) [.node .negate none [a]] := by
  have contents : ∀ nexts, Contents Table.operandFor nexts [.word .minus, .part .sum]
      (.of .minus :: (us ++ [])) [.ofWord (.of .minus), .of .sum [a]] :=
    fun nexts => .word (Word.of_valid rfl) (value.contents rfl .nil)
  rw [List.append_nil] at contents
  exact operator (i := 51) whole rfl (by decide) contents

end Makes

/-! ### Printed trees make up their trees -/

/-- What a printed tree makes up, by its role; the text of a script has no braces around it. -/
def Role.Prints : Role → Piece → Tree → Prop
  | .script, p, t => ∃ ts, t = .node .start none [.node .block none ts] ∧
      (p.words = [] ∧ ts = [] ∨ Makes .stmts p.words ts)
  | .block, p, t => Makes .block p.braced [t] ∧ ∃ ts, t = .node .block none ts ∧
      (p.words = [] ∧ ts = [] ∨ Makes .stmts p.words ts)
  | .statement, p, t => Makes .stmt p.words [t]
  | .expression, p, t => p.Expresses t
  | .parameters, p, t => Makes .parameters p.words [t]
  | .items, p, t => Makes .items p.words [t]
  | .args, p, t => Makes .args p.words [t]
  | .builtin, p, t => Makes .builtin p.words [t]

namespace Tree.Formed

variable (wrap : Tree → Bool)

theorem printed {role : Role} {t : Tree} (formed : t.Formed Spelled role) :
    role.Prints (t.piece wrap) t.bare := by
  induction formed with
  | @script span body _ ih =>
    obtain ⟨-, ts, bare, words⟩ := ih
    rw [Tree.bare_node, List.map_singleton, bare]
    exact ⟨ts, rfl, words⟩
  | @block span parts _ ih =>
    obtain ⟨stmts, block⟩ := Makes.block wrap ih
    rw [Tree.bare_node, Tree.piece_node]
    refine ⟨?_, _, rfl, ?_⟩
    · rw [← List.flatMap_map] at block
      exact block
    · rcases stmts with rfl | stmts
      · exact .inl ⟨rfl, rfl⟩
      · rw [← List.flatMap_map] at stmts
        exact .inr stmts
  | importFile named =>
    obtain ⟨text, span, rfl, valid⟩ := named.exists_eq
    exact .statement (i := 9) rfl (.production (i := 10) rfl (.mark rfl (.word valid (.mark rfl .nil))))
  | outer named =>
    obtain ⟨text, span, rfl, valid⟩ := named.exists_eq
    exact .statement (i := 7) rfl (.production (i := 11) rfl (.mark rfl (.word valid (.mark rfl .nil))))
  | @store span names value some named _ ih =>
    rw [Tree.bare_node, Tree.piece_node]
    have made := Makes.store some named wrap (ih.whole .expr (.inl rfl))
    have made := made.statement (i := 5) rfl
    simpa [Role.Prints, Label.printed, Function.comp_def] using made
  | @expression span value _ ih =>
    refine .statement (i := 6) rfl ?_
    by_cases choice : (value.piece wrap).isChoice
    · simp only [Tree.bare_node, Tree.piece_node, List.map_cons, List.map_nil, Label.printed,
        if_pos choice]
      exact .production (i := 15) rfl (.last (ih.choice choice))
    · simp only [Tree.bare_node, Tree.piece_node, List.map_cons, List.map_nil, Label.printed,
        if_neg choice]
      exact .production (i := 14) rfl (.part (ih.whole .expr (.inl rfl)) (.part .semicolons .nil))
  | breakLoop =>
    exact .statement (i := 8) rfl (.production (i := 16) rfl (.mark rfl (.part .semicolons .nil)))
  | continueLoop =>
    exact .statement (i := 8) rfl (.production (i := 19) rfl (.mark rfl (.part .semicolons .nil)))
  | giveNothing =>
    exact .statement (i := 8) rfl (.production (i := 18) rfl (.mark rfl (.part .semicolons .nil)))
  | giveBack _ ih =>
    exact .statement (i := 8) rfl (.production (i := 17) rfl
        (.mark rfl (.part (ih.whole .expr (.inl rfl)) (.part .semicolons .nil))))
  | define named _ ih =>
    obtain ⟨text, span, rfl, valid⟩ := named.exists_eq
    exact .statement (i := 3) rfl (.production (i := 26) rfl
      (.mark rfl (.word valid (.mark rfl (.mark rfl (.last ih.1))))))
  | defineWith named _ _ params body =>
    obtain ⟨text, span, rfl, valid⟩ := named.exists_eq
    exact .statement (i := 3) rfl (.production (i := 25) rfl
      (.mark rfl (.word valid (.mark rfl (.part params (.mark rfl (.last body.1)))))))
  | parameters some named =>
    rw [Tree.bare_node, Tree.piece_node, List.map_map, List.map_map]
    simp only [Role.Prints, Label.printed, List.map_map]
    exact .parameters wrap some named
  | loop _ _ test body =>
    exact .statement (i := 4) rfl (.production (i := 33) rfl
      (.mark rfl (.part (test.whole .expr (.inl rfl)) (.last body.1))))
  | choice _ _ test body =>
    refine Piece.expresses_choice rfl ?_
    exact .production (i := 37) rfl
      (.mark rfl (.part (test.whole .disjunction (.inr rfl)) (.last body.1)))
  | choiceElse _ _ _ test body other =>
    refine Piece.expresses_choice rfl ?_
    exact .production (i := 36) rfl (.mark rfl (.part (test.whole .disjunction (.inr rfl))
      (.part body.1 (.mark rfl (.last other.1)))))
  | @operator span label left right binary _ _ first second =>
    refine Piece.expresses_operator ?_ ?_
    · have other : label ≠ .choice := by
        rintro rfl
        exact absurd binary (by decide)
      simp [Piece.isChoice, Piece.isOperator, Tree.piece_node, binary, other]
    · intro c whole
      rw [Tree.bare_node, Tree.piece_node]
      have printed := Label.printed_binary binary (left.piece wrap) (right.piece wrap)
      simp only [List.map_cons, List.map_nil, printed]
      exact .binary whole binary first.operand second.operand
  | negate _ ih =>
    refine Piece.expresses_operator ⟨rfl, rfl⟩ ?_
    intro c whole
    exact .negate whole ih.operand
  | index _ _ value place =>
    exact Piece.expresses_atom
      (.index value.operand (.mark rfl (.part (place.whole .expr (.inl rfl)) (.mark rfl .nil))))
  | number text =>
    obtain ⟨text, span, rfl, valid⟩ := text.exists_eq
    exact Piece.expresses_atom (.atom (i := 58) rfl (.word valid .nil))
  | string text =>
    obtain ⟨text, span, rfl, valid⟩ := text.exists_eq
    exact Piece.expresses_atom (.atom (i := 59) rfl (.word valid .nil))
  | var text =>
    obtain ⟨text, span, rfl, valid⟩ := text.exists_eq
    exact Piece.expresses_atom (.name valid)
  | constant among =>
    simp only [Label.constants, List.mem_cons, List.not_mem_nil, or_false] at among
    rcases among with rfl | rfl | rfl
    · exact Piece.expresses_atom (.atom (i := 64) rfl (.mark rfl .nil))
    · exact Piece.expresses_atom (.atom (i := 65) rfl (.mark rfl .nil))
    · exact Piece.expresses_atom (.atom (i := 66) rfl (.mark rfl .nil))
  | tuple two _ ih =>
    refine Piece.expresses_atom ?_
    rw [Tree.bare_node, Tree.piece_node]
    have made := Makes.tuple two wrap ih
    simpa [Label.printed, Function.comp_def] using made
  | emptyList =>
    exact Piece.expresses_atom (.atom (i := 69) rfl (.mark rfl (.mark rfl .nil)))
  | list _ items =>
    refine Piece.expresses_atom ?_
    simp only [Tree.bare_node, Tree.piece_node, List.map_cons, List.map_nil, Label.printed,
      List.flatMap_singleton]
    exact .atom (i := 68) rfl (.mark rfl (.part items (.mark rfl .nil)))
  | items some _ ih =>
    rw [Tree.bare_node, Tree.piece_node]
    simp only [Role.Prints, Label.printed, List.map_map]
    exact .exprs wrap 71 70 rfl rfl rfl (by decide) some ih
  | call named =>
    obtain ⟨text, span, rfl, valid⟩ := named.exists_eq
    have call := Makes.production (i := 73) rfl (.word valid (.mark rfl (.mark rfl .nil)))
    exact Piece.expresses_atom (.atom (i := 60) rfl (.last call))
  | callWith named _ args =>
    obtain ⟨text, span, rfl, valid⟩ := named.exists_eq
    have call := Makes.production (i := 72) rfl (.word valid (.mark rfl (.part args (.mark rfl .nil))))
    refine Piece.expresses_atom ?_
    simp only [Tree.bare_node, Tree.piece_node, List.map_cons, List.map_nil, Label.printed,
      List.flatMap_singleton]
    exact .atom (i := 60) rfl (.last call)
  | args some _ ih =>
    rw [Tree.bare_node, Tree.piece_node]
    simp only [Role.Prints, Label.printed, List.map_map]
    exact .exprs wrap 75 74 rfl rfl rfl (by decide) some ih
  | builtinCall _ ih =>
    exact Piece.expresses_atom (.atom (i := 61) rfl (.last (.production (i := 20) rfl (.last ih))))
  | builtinMany takes _ args =>
    exact .builtin (i := 21) takes rfl [_] (.mark rfl (.part args (.mark rfl .nil)))
  | builtinOne takes _ ih =>
    exact .builtin (i := 22) takes rfl [_]
      (.mark rfl (.part (ih.whole .expr (.inl rfl)) (.mark rfl .nil)))
  | builtinEmpty takes =>
    exact .builtin (i := 23) takes rfl [] (.mark rfl (.mark rfl .nil))
  | builtinNames takes named named' =>
    obtain ⟨text, span, rfl, valid⟩ := named.exists_eq
    obtain ⟨text', span', rfl, valid'⟩ := named'.exists_eq
    exact .builtin (i := 24) takes rfl [(Tree.leaf ⟨.name, text, span⟩).piece wrap,
        (Tree.leaf ⟨.name, text', span'⟩).piece wrap]
      (.mark rfl (.word valid (.mark rfl (.word valid' (.mark rfl .nil)))))

end Tree.Formed

end DeskScript.Syntax
