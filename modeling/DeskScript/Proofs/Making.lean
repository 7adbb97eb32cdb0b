import DeskScript.Proofs.Leading
import Mathlib.Data.List.Induction

/-!
# What words make up

Words make up a category if they lead to it wherever the category has its place. Words that make up
the symbols of a production make up its head, and words that make up an operand make up all that an
operand can stand for. So how a phrase is put together says how it is read, and the states of the
parser need not be named any more.
-/

namespace DeskScript.Syntax

/-- The word of a terminal that has only one. -/
def Word.of (t : Terminal) : Word := (t.spelling?.getD "", t)

/-- Whether a terminal has only one word. -/
def Terminal.isMark : Terminal → Bool
  | name | number | string | callMany | callOne | callEmpty | callNames | endOfText => false
  | _ => true

theorem Terminal.spelling?_of_isMark {t : Terminal} (mark : t.isMark) : t.spelling?.isSome := by
  have checked : ∀ t : Terminal, t.isMark → t.spelling?.isSome := by
    intro t
    cases t <;> decide
  exact checked t mark

theorem Word.valid_of_mem {w : Word} (member : w ∈ Terminal.spelled) : w.Valid :=
  ⟨.fixed member, fun name => absurd name (Scanner.spelled_ordinary member).1⟩

theorem Word.of_valid {t : Terminal} (mark : t.isMark) : (Word.of t).Valid := by
  obtain ⟨text, spelling⟩ := Option.isSome_iff_exists.mp (Terminal.spelling?_of_isMark mark)
  have member : (text, t) ∈ Terminal.spelled := by
    unfold Terminal.spelling? at spelling
    split at spelling
    next w only =>
      have here : w ∈ Terminal.spelled.filter (·.2 = t) := only ▸ List.mem_singleton_self w
      obtain ⟨member, rfl⟩ : w ∈ Terminal.spelled ∧ w.2 = t := by simpa using here
      obtain rfl : w.1 = text := by simpa using spelling
      exact member
    next => cases spelling
  rw [Word.of, spelling, Option.getD_some]
  exact valid_of_mem member

/-- Words in parentheses. -/
def Word.parens (words : List Word) : List Word := .of .leftParen :: (words ++ [.of .rightParen])

/-- Whether a production starts with what its head starts with. -/
def Production.startsAlike (p : Production) : Bool :=
  match p.body with
  | [] => true
  | .word t :: _ => p.head.firsts.contains t
  | .part c :: _ => c.firsts.all p.head.firsts.contains

theorem startsAlike_of_mem_grammar : ∀ p ∈ grammar, p.startsAlike := by decide

theorem Contents.starts {place : Place} {nexts : List Terminal} {p : Production} (known : p ∈ grammar)
    (nonempty : p.body ≠ []) {words : List Word} {items : List Item}
    (contents : Contents place nexts p.body words items) : Starts p.head words := by
  have alike := startsAlike_of_mem_grammar p known
  unfold Production.startsAlike at alike
  generalize p.body = body at contents nonempty alike
  cases contents with
  | nil => exact absurd rfl nonempty
  | word => exact ⟨_, _, rfl, List.contains_iff_mem.mp alike⟩
  | part starts =>
    obtain ⟨w, ws, rfl, member⟩ := starts
    exact ⟨w, _, rfl, List.contains_iff_mem.mp (List.all_eq_true.mp alike _ member)⟩

/-- Words make up a category: wherever the category has its place, they lead to it. -/
structure Makes (c : Category) (words : List Word) (trees : List Tree) : Prop where
  starts : Starts c words
  leads : ∀ k states nexts s n, Table.placeAt k c states nexts → s ∈ states → n ∈ nexts →
    Leads s words n [.of c trees]

/-- The words and items of a row of symbols, in whatever place. -/
def Fills (body : List Symbol) (words : List Word) (items : List Item) : Prop :=
  ∀ k nexts, Contents (Table.placeAt k) nexts body words items

namespace Fills

variable {rest : List Symbol} {items : List Item} {ws : List Word}

theorem nil : Fills [] [] [] := fun _ _ => .nil

theorem word {w : Word} (valid : w.Valid)
    (later : Fills rest ws items) : Fills (.word w.2 :: rest) (w :: ws) (.ofWord w :: items) :=
  fun k nexts => .word valid (later k nexts)

theorem part {c : Category} {us : List Word} {ts : List Tree} (makes : Makes c us ts)
    (later : Fills rest ws items) :
    Fills (.part c :: rest) (us ++ ws) (.of c ts :: items) :=
  fun k nexts => .part makes.starts (fun states s n => makes.leads k states _ s n) (later k nexts)

theorem last {c : Category} {us : List Word} {ts : List Tree} (makes : Makes c us ts) :
    Fills [.part c] us [.of c ts] := by
  simpa using part makes nil

theorem mark {t : Terminal} (mark : t.isMark)
    (later : Fills rest ws items) :
    Fills (.word t :: rest) (.of t :: ws) (.ofWord (.of t) :: items) :=
  word (Word.of_valid mark) later

end Fills

/-- Whether a category is read by the productions that it has. -/
def Category.composed : Category → Bool
  | .atom | .stmt | .disjunction | .expr => false
  | _ => true

theorem Table.placeAt_composed {c : Category} (composed : c.composed) (k : Nat) (states : List Nat)
    (nexts : List Terminal) : placeAt (k + 1) c states nexts = (numbers c).all fun i =>
      if recurs i then readableAgain (placeAt k) states i (nexts ++ c.again)
      else readable (placeAt k) states i (nexts ++ c.again) := by
  cases c <;> first | rfl | cases composed

theorem Table.mem_numbers {i : Nat} {p : Production} (found : production? i = some p) :
    i ∈ numbers p.head := by
  have inside : i < grammar.length := (List.getElem?_eq_some_iff.mp found).1
  have length : grammar.length = 86 := rfl
  refine List.mem_filter.mpr ⟨List.mem_range.mpr (length ▸ inside), ?_⟩
  simp [found]

namespace Makes

variable {ts : List Tree} {words : List Word} {items : List Item} {c : Category} {us : List Word}

section

variable {i : Nat} {p : Production} (found : production? i = some p) (composed : p.head.composed)
  {k : Nat} {states : List Nat} {nexts : List Terminal}
  (placed : Table.placeAt k p.head states nexts)
include found composed placed

theorem checked_of_placeAt : ∃ k,
    if Table.recurs i then Table.readableAgain (Table.placeAt k) states i (nexts ++ p.head.again)
    else Table.readable (Table.placeAt k) states i (nexts ++ p.head.again) := by
  cases k with
  | zero => cases placed
  | succ k =>
    rw [Table.placeAt_composed composed] at placed
    have checked := List.all_eq_true.mp placed i (Table.mem_numbers found)
    exact ⟨k, by split at checked <;> simp_all⟩

/-- In a place of its head, a production can be read. -/
theorem readable_of_placeAt (fresh : p.body.head? ≠ some (.part p.head)) :
    ∃ k, Table.readable (Table.placeAt k) states i (nexts ++ p.head.again) := by
  obtain ⟨k, checked⟩ := checked_of_placeAt found composed placed
  have other : Table.recurs i = false := by simp [Table.recurs, found, fresh]
  exact ⟨k, by simpa [other] using checked⟩

/-- And so can one that starts with its head, once the head has been read. -/
theorem readableAgain_of_placeAt (again : p.body.head? = some (.part p.head)) :
    ∃ k, Table.readableAgain (Table.placeAt k) states i (nexts ++ p.head.again) := by
  obtain ⟨k, checked⟩ := checked_of_placeAt found composed placed
  have same : Table.recurs i = true := by simp [Table.recurs, found, again]
  exact ⟨k, by simpa [same] using checked⟩

end

/-- Words that make up the body of a production make up its head. -/
theorem production {i : Nat} {p : Production} (found : production? i = some p)
    (fills : Fills p.body words items) (composed : p.head.composed := by rfl)
    (fresh : p.body.head? ≠ some (.part p.head) := by decide) (nonempty : p.body ≠ [] := by decide) :
    Makes p.head words (p.shape.left items) where
  starts := (fills 0 []).starts (mem_of_production? found) nonempty
  leads := by
    intro k states nexts s n placed member here
    obtain ⟨k, readable⟩ := readable_of_placeAt found composed placed fresh
    exact Table.leads_readable readable found (fills k _) member (List.mem_append_left _ here)

/-- Words that make up the same part again and again make up its repetition. -/
theorem repeated {r : Category} (one more : Nat) {tail : List Symbol}
    (first : production? one = some ⟨r, tail, .pass⟩)
    (later : production? more = some ⟨r, .part r :: tail, .pass⟩) (composed : r.composed)
    (fresh : tail.head? ≠ some (.part r)) (tailed : tail ≠ []) (going : ∀ w ∈ r.firsts, w ∈ r.again)
    {parts : List (List Word × List Item)} (some : parts ≠ [])
    (fills : ∀ part ∈ parts, Fills tail part.1 part.2) :
    Makes r (parts.flatMap (·.1)) (parts.flatMap fun part => part.2.flatMap (·.trees)) := by
  have once : ∀ part ∈ parts, Makes r part.1 (part.2.flatMap (·.trees)) :=
    fun part member => production first (fills part member) composed fresh tailed
  constructor
  · obtain ⟨part, parts, rfl⟩ := List.exists_cons_of_ne_nil some
    obtain ⟨w, ws, words, starts⟩ := (once part List.mem_cons_self).starts
    exact ⟨w, ws ++ parts.flatMap (·.1), by rw [List.flatMap_cons, words, List.cons_append], starts⟩
  · intro k states nexts s n placed member here
    obtain ⟨k₁, readable⟩ := readable_of_placeAt first composed placed fresh
    obtain ⟨k₂, again⟩ := readableAgain_of_placeAt later composed placed rfl
    -- Each part but the last is followed by the start of another.
    replace here : n ∈ nexts ++ r.again := List.mem_append_left _ here
    induction parts using List.reverseRec generalizing n with
    | nil => exact absurd rfl some
    | append_singleton parts part ih =>
      have last : Fills tail part.1 part.2 := fills part (by simp)
      rw [List.flatMap_append, List.flatMap_singleton, List.flatMap_append, List.flatMap_singleton]
      by_cases none : parts = []
      · subst none
        exact Table.leads_readable readable first (last k₁ _) member here
      · obtain ⟨w, ws, words, starts⟩ := (once part (by simp)).starts
        have next : Word.first part.1 n ∈ nexts ++ r.again := by
          rw [words]
          exact List.mem_append_right _ (going _ starts)
        have inner : ∀ part' ∈ parts, part' ∈ parts ++ [part] :=
          fun part' member => List.mem_append_left _ member
        have before := ih none (fun part' member => fills part' (inner part' member))
          (fun part' member => once part' (inner part' member)) _ next
        have both := Table.leads_again again later rfl (last k₂ _) member here before
        simpa [Shape.left, Item.of] using both

/-- The operands that start with a word or a bracket, and calls. -/
theorem atom {i : Nat} {body : List Symbol} {shape : Shape}
    (found : production? i = some ⟨.atom, body, shape⟩) (fills : Fills body words items)
    (listed : i ∈ Table.atoms := by decide) (nonempty : body ≠ [] := by decide) :
    Makes .atom words (shape.left items) where
  starts := (fills 0 []).starts (mem_of_production? found) nonempty
  leads := by
    intro k states nexts s n placed member here
    cases k with
    | zero => cases placed
    | succ k =>
      obtain ⟨expected, follows⟩ := Table.operandAt_states placed member here
      exact Table.leads_readable (Table.readable_atom i listed) found (fills 12 _) expected follows

/-- A name by itself. -/
theorem name {text : String} (valid : Word.Valid (text, .name)) :
    Makes .atom [(text, .name)] [.node .var none [.leaf ⟨.name, text, none⟩]] where
  starts := ⟨_, _, rfl, show Terminal.name ∈ Category.firsts .atom by decide⟩
  leads := by
    intro k states nexts s n placed member here
    have found : production? 62 = some ⟨.atom, [.word .name], .node .var⟩ := rfl
    have fills : Fills [.word .name] [(text, .name)] [.ofWord (text, .name)] :=
      Fills.word valid .nil
    cases k with
    | zero => cases placed
    | succ k =>
      rcases Table.operandAt_cases placed member here with ⟨operand, follows⟩ | ⟨start, follows⟩
      · exact Table.leads_readable Table.readable_name.1 found (fills 12 _) operand follows
      · exact Table.leads_readable Table.readable_name.2 found (fills 12 _) start follows

/-- An operand with an index. -/
theorem index {us ws : List Word} (before : Makes .atom us ts)
    (fills : Fills [.word .leftBracket, .part .expr, .word .rightBracket] ws items) :
    Makes .atom (us ++ ws) [.node .index none (ts ++ items.flatMap (·.trees))] := by
  obtain ⟨w, us', rfl, first⟩ := before.starts
  refine ⟨⟨w, us' ++ ws, rfl, first⟩, ?_⟩
  intro k states nexts s n placed member here
  have found : production? 57 = some ⟨.atom, [.part .atom, .word .leftBracket, .part .expr,
    .word .rightBracket], .node .index⟩ := rfl
  cases k with
  | zero => cases placed
  | succ k =>
    obtain ⟨expected, follows⟩ := Table.operandAt_states placed member here
    have contents := fills 12 Table.afterAtom
    have next : Word.first ws n = .leftBracket := List.mem_singleton.mp (contents.first follows)
    have leads : Leads s (w :: us') (Word.first ws n) [.of .atom ts] := by
      rw [next]
      exact before.leads 1 [s] [.leftBracket] s _ (Table.operandAt_index placed member)
        (List.mem_singleton_self s) (List.mem_singleton_self _)
    exact Table.leads_again Table.readable_index found rfl contents expected follows leads

theorem wholeAt_of_placeAt (whole : c = .expr ∨ c = .disjunction) {k : Nat}
    {states : List Nat} {nexts : List Terminal} (placed : Table.placeAt k c states nexts)
    {n : Terminal} (here : n ∈ nexts) : Table.wholeAt c states n := by
  cases k with
  | zero => cases placed
  | succ k =>
    rcases whole with rfl | rfl
    · have checked := List.all_eq_true.mp placed n here
      exact (Bool.and_eq_true_iff.mp checked).1
    · exact List.all_eq_true.mp placed n here

/-- An operand leads to whatever it stands for. -/
theorem leads_operandFor (makes : Makes .atom us ts)
    {states : List Nat} {nexts : List Terminal}
    (placed : Table.operandFor c states nexts) {s : Nat} (member : s ∈ states) {n : Terminal}
    (here : n ∈ nexts) : Leads s us n [.of c ts] := by
  rw [Table.operandFor, Bool.and_eq_true] at placed
  have climbs := List.all_eq_true.mp (List.all_eq_true.mp placed.2 s member) n here
  exact Table.leads_climb climbs (makes.leads 1 states nexts s n placed.1 member here)

/-- An operand makes up a whole expression, and the condition of a choice. -/
theorem operand (whole : c = .expr ∨ c = .disjunction)
    (makes : Makes .atom us ts) : Makes c us ts where
  starts := by
    rcases whole with rfl | rfl <;> exact makes.starts
  leads := by
    intro k states nexts s n placed member here
    have placed := wholeAt_of_placeAt whole placed here
    rw [Table.wholeAt, Bool.and_eq_true] at placed
    exact makes.leads_operandFor placed.1 member (List.mem_singleton_self n)

/-- Operands with an operator make up the same. -/
theorem operator (whole : c = .expr ∨ c = .disjunction) {i : Nat} {p : Production}
    (found : production? i = some p) (listed : i ∈ Table.operators)
    (contents : ∀ nexts, Contents Table.operandFor nexts p.body words items) :
    Makes c words (p.shape.left items) where
  starts := by
    have alike : ∀ i ∈ Table.operators, (production? i).all fun p =>
        p.body ≠ [] && p.head.firsts = Table.afterStmt := by decide
    have checked := alike i listed
    simp only [found, Option.all_some, Bool.and_eq_true, decide_eq_true_eq] at checked
    obtain ⟨w, ws, rfl, member⟩ := (contents []).starts (mem_of_production? found) checked.1
    rw [checked.2] at member
    refine ⟨w, ws, rfl, ?_⟩
    rcases whole with rfl | rfl <;> exact member
  leads := by
    intro k states nexts s n placed member here
    have placed := wholeAt_of_placeAt whole placed here
    rw [Table.wholeAt, Bool.and_eq_true] at placed
    have checked := List.all_eq_true.mp placed.2 i listed
    simp only [found, Bool.and_eq_true, List.all_eq_true] at checked
    have leads := Table.leads_readable checked.1 found (contents [n]) member
      (List.mem_singleton_self n)
    exact Table.leads_climb (checked.2 s member) leads

/-- A whole expression in parentheses makes up an operand. -/
theorem parenthesised (makes : Makes .expr us ts) :
    Makes .atom (Word.parens us) ts := by
  have fills := Fills.mark (t := .leftParen) rfl (.part makes (.mark (t := .rightParen) rfl .nil))
  have made := atom (i := 63) rfl fills
  simpa [Shape.left, Item.of, Item.ofWord, Word.of, Word.parens, Terminal.leafKind?] using made

/-- A choice in parentheses makes up an operand. -/
theorem choice (makes : Makes .choice us ts) :
    Makes .atom (Word.parens us) ts := by
  have found : production? 35 = some ⟨.expr, [.part .choice], .pass⟩ := rfl
  -- The choice is a whole expression here, where no semicolon can follow.
  have inside : ∀ k states s n, Table.placeAt k .expr states [.rightParen] → s ∈ states →
      n ∈ [Terminal.rightParen] → Leads s us n [.of .expr ts] := by
    intro k states s n placed member here
    cases k with
    | zero => cases placed
    | succ k =>
      have checked := List.all_eq_true.mp placed .rightParen (List.mem_singleton_self _)
      rw [Bool.and_eq_true] at checked
      have readable : Table.readable (Table.placeAt k) states 35 [.rightParen] := by
        simpa using checked.2
      have leads := Table.leads_readable readable found (Fills.last makes k _) member here
      simpa [Shape.left, Item.of] using leads
  have fills : Fills [.word .leftParen, .part .expr, .word .rightParen]
      (Word.parens us)
      [.ofWord (.of .leftParen), .of .expr ts, .ofWord (.of .rightParen)] := by
    intro k nexts
    have starts : Starts .expr us := makes.starts
    exact .word (Word.of_valid rfl) (.part starts (fun states s n => inside k states s n)
      (.word (Word.of_valid rfl) .nil))
  have made := atom (i := 63) rfl fills
  simpa [Shape.left, Item.of, Item.ofWord, Word.of, Word.parens, Terminal.leafKind?] using made

/-- A statement of one kind is a statement. -/
theorem statement {i : Nat} (found : production? i = some ⟨.stmt, [.part c], .pass⟩)
    (makes : Makes c words ts) (listed : i ∈ Table.statements := by decide) :
    Makes .stmt words ts := by
  have fills := Fills.last makes
  refine ⟨(fills 0 []).starts (mem_of_production? found) (by simp), ?_⟩
  intro k states nexts s n placed member here
  cases k with
  | zero => cases placed
  | succ k =>
    have placed : Table.startAt states nexts := placed
    rw [Table.startAt, Bool.and_eq_true] at placed
    have start := Table.mem_startStates (List.all_eq_true.mp placed.1 s member)
    have follows := List.contains_iff_mem.mp (List.all_eq_true.mp placed.2 n here)
    have leads := Table.leads_readable (Table.readable_statement i listed) found (fills 12 _) start
      follows
    simpa [Shape.left, Item.of] using leads

end Makes

end DeskScript.Syntax
