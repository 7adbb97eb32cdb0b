import DeskScript.Proofs.Joining
import DeskScript.Proofs.Spelling
import DeskScript.Session.Brackets

/-!
# Brackets of accepted texts

The session looks for brackets character by character, in strings and comments as anywhere else. In
a text that has none there, the brackets are words of their own. Every production has its brackets
in pairs, so that they are closed in the part that it makes, and an accepted text leaves none open.
-/

namespace DeskScript.Session

open Syntax

/-- Whether a character is a bracket, opening or closing. -/
def isBracket (c : Char) : Bool := ['(', ')', '[', ']', '{', '}'].contains c

/-- Where in a script a character stands. -/
inductive Place where
  | code | string | escape | comment
  deriving DecidableEq, Repr

/-- Where the next character stands. -/
def Place.next : Place → Char → Place
  | code, c => if c = '"' then string else if c = '#' then comment else code
  | string, c => if c = '"' then code else if c = '\\' then escape else string
  | escape, _ => string
  | comment, c => if c = '\n' then code else comment

/-- Whether all brackets of a text stand in its code, from a place on. -/
def bracketsInCode : Place → List Char → Bool
  | _, [] => true
  | place, c :: cs => (place = .code || !isBracket c) && bracketsInCode (place.next c) cs

/-! ### Following the brackets alone -/

variable {c : Char} {word rest : List Char}

/-- Only brackets open and close. -/
theorem isBracket_of_closer? {b : Char} (closes : closer? b = some c) :
    isBracket b ∧ isBracket c := by
  unfold closer? at closes
  split at closes
  next => cases closes; decide
  next => cases closes; decide
  next => cases closes; decide
  next => cases closes

theorem track_of_not_isBracket (other : isBracket c = false) (opened : List Char) :
    track opened c = opened := by
  unfold track
  cases opens : closer? c with
  | some d => simp [(isBracket_of_closer? opens).1] at other
  | none =>
    cases opened with
    | nil => rfl
    | cons b rest =>
      have open' : closer? b ≠ some c := by
        intro closes
        simp [(isBracket_of_closer? closes).2] at other
      simp [open']

theorem openBrackets_filter (cs opened : List Char) :
    cs.foldl track opened = (cs.filter isBracket).foldl track opened := by
  induction cs generalizing opened with
  | nil => rfl
  | cons c cs ih =>
    cases bracket : isBracket c with
    | false =>
      rw [List.foldl_cons, track_of_not_isBracket bracket, List.filter_cons_of_neg (by simp [bracket])]
      exact ih opened
    | true =>
      rw [List.filter_cons_of_pos bracket, List.foldl_cons, List.foldl_cons]
      exact ih _

/-! ### The brackets of a word -/

/-- The bracket that a terminal is. -/
def bracketOf : Terminal → List Char
  | .leftParen => ['(']
  | .rightParen => [')']
  | .leftBracket => ['[']
  | .rightBracket => [']']
  | .leftBrace => ['{']
  | .rightBrace => ['}']
  | _ => []

/-- A stretch of code without strings and comments is passed over in code. -/
theorem bracketsInCode_append {word rest : List Char}
    (plain : ∀ c ∈ word, c ≠ '"' ∧ c ≠ '#') (inCode : bracketsInCode .code (word ++ rest)) :
    bracketsInCode .code rest := by
  induction word with
  | nil => exact inCode
  | cons c word ih =>
    obtain ⟨quote, hash⟩ := plain c List.mem_cons_self
    simp only [List.cons_append, bracketsInCode, Place.next, quote, hash, if_false] at inCode
    exact ih (fun c member => plain c (List.mem_cons_of_mem _ member)) (by simpa using inCode)

/-- Blank space and comments hold no bracket. -/
theorem brackets_skip {inComment : Bool} {p q : Position} {cs : List Char}
    (skipped : Scanner.skip inComment p cs = ⟨q, rest⟩)
    (inCode : bracketsInCode (if inComment then .comment else .code) cs) :
    cs.filter isBracket = rest.filter isBracket ∧ bracketsInCode .code rest := by
  induction cs generalizing inComment p with
  | nil =>
    obtain ⟨-, rfl⟩ : _ ∧ [] = rest := by simpa [Scanner.skip] using skipped
    exact ⟨rfl, rfl⟩
  | cons c cs ih =>
    simp only [Scanner.skip] at skipped
    cases inComment with
    | true =>
      simp only [if_true, bracketsInCode, Place.next, reduceCtorEq, decide_false, Bool.false_or,
        Bool.and_eq_true, Bool.not_eq_true'] at skipped inCode
      obtain ⟨other, later⟩ := inCode
      rw [List.filter_cons_of_neg (by simp [other])]
      refine ih skipped ?_
      by_cases feed : c = '\n' <;> simpa [feed] using later
    | false =>
      simp only [Bool.false_eq_true, if_false, bracketsInCode, decide_true, Bool.true_or,
        Bool.true_and] at skipped inCode
      split at skipped
      next blank =>
        have other : isBracket c = false ∧ Place.code.next c = .code := by
          simp only [Scanner.isBlank, Bool.or_eq_true, decide_eq_true_eq] at blank
          rcases blank with (((rfl | rfl) | rfl) | rfl) | rfl <;> decide
        rw [List.filter_cons_of_neg (by simp [other])]
        exact ih skipped (by simpa [other] using inCode)
      next =>
        split at skipped
        next hash =>
          subst hash
          rw [List.filter_cons_of_neg (by decide)]
          exact ih skipped inCode
        next =>
          obtain ⟨-, rfl⟩ : _ ∧ c :: cs = rest := by simpa using skipped
          exact ⟨rfl, by simpa [bracketsInCode] using inCode⟩

/-- A string without brackets ends in code. -/
theorem brackets_stringTail (tail : StringTail word)
    (inCode : bracketsInCode .string (word ++ rest)) :
    word.filter isBracket = [] ∧ bracketsInCode .code rest := by
  induction tail with
  | close => exact ⟨rfl, by simpa [bracketsInCode, Place.next, isBracket] using inCode⟩
  | @plain c cs ordinary tail ih =>
    obtain ⟨plain, later⟩ : isBracket c = false ∧ bracketsInCode .string (cs ++ rest) := by
      simpa [bracketsInCode, Place.next, ordinary] using inCode
    rw [List.filter_cons_of_neg (by simp [plain])]
    exact ih later
  | @escape c cs line tail ih =>
    obtain ⟨plain, later⟩ : isBracket c = false ∧ bracketsInCode .string (cs ++ rest) := by
      simpa [bracketsInCode, Place.next, isBracket] using inCode
    rw [List.filter_cons_of_neg (by decide), List.filter_cons_of_neg (by simp [plain])]
    exact ih later

/-- A character that is no bracket and starts neither a string nor a comment. -/
def isPlain (c : Char) : Bool := !(['(', ')', '[', ']', '{', '}', '"', '#'].contains c)

theorem isPlain_of {p : Char → Bool}
    (none : ['(', ')', '[', ']', '{', '}', '"', '#'].all (!p ·)) {c : Char} (here : p c) :
    isPlain c := by
  by_contra special
  have member : c ∈ ['(', ')', '[', ']', '{', '}', '"', '#'] := by
    rw [← List.contains_iff_mem]
    simpa only [isPlain, Bool.not_eq_true', Bool.not_eq_false] using special
  exact absurd here (by simpa using List.all_eq_true.mp none c member)

theorem brackets_plain (plain : ∀ c ∈ word, isPlain c)
    (inCode : bracketsInCode .code (word ++ rest)) :
    word.filter isBracket = [] ∧ bracketsInCode .code rest := by
  constructor
  · rw [List.filter_eq_nil_iff]
    intro c member bracket
    have := plain c member
    simp_all [isPlain, isBracket]
  · refine bracketsInCode_append (fun c member => ?_) inCode
    have := plain c member
    simp_all [isPlain]

theorem isPlain_of_isDigit (digit : Scanner.isDigit c) : isPlain c :=
  isPlain_of (by decide) digit

theorem isPlain_of_isNamePart (part : Scanner.isNamePart c) : isPlain c :=
  isPlain_of (by decide) part

theorem isPlain_number (number : NumberText word) : ∀ c ∈ word, isPlain c := by
  have inExponent {ex : List Char} (exponent : Exponent ex) : ∀ c ∈ ex, isPlain c := by
    cases exponent with
    | none => simp
    | some letter signed _ digits =>
      refine List.forall_mem_cons.mpr ⟨?_, List.forall_mem_append.mpr ⟨?_, ?_⟩⟩
      · rcases letter with rfl | rfl <;> decide
      · rcases signed with rfl | rfl | rfl <;> simp [isPlain]
      · exact fun d member => isPlain_of_isDigit (digits d member)
  cases number with
  | whole _ digits exponent =>
    exact List.forall_mem_append.mpr ⟨fun d member => isPlain_of_isDigit (digits d member), inExponent exponent⟩
  | point _ digits fraction exponent =>
    refine List.forall_mem_append.mpr ⟨fun d member => isPlain_of_isDigit (digits d member), ?_⟩
    refine List.forall_mem_cons.mpr ⟨by decide, List.forall_mem_append.mpr ⟨?_, inExponent exponent⟩⟩
    exact fun d member => isPlain_of_isDigit (fraction d member)

/-- Words with a spelling have the brackets of their terminal, and start no string or comment. -/
theorem brackets_spelled : ∀ w ∈ Terminal.spelled,
    w.1.toList.filter isBracket = bracketOf w.2 ∧ ∀ c ∈ w.1.toList, c ≠ '"' ∧ c ≠ '#' := by
  have all : Terminal.spelled.all fun w => w.1.toList.filter isBracket = bracketOf w.2 &&
      w.1.toList.all fun c => c ≠ '"' && c ≠ '#' := by decide
  simpa only [List.all_eq_true, Bool.and_eq_true, decide_eq_true_eq, and_assoc] using all

/-- The brackets of a word, in a text with all its brackets in code, are those of its terminal. -/
theorem brackets_word {t : Terminal} (spells : t.Spells word)
    (inCode : bracketsInCode .code (word ++ rest)) :
    word.filter isBracket = bracketOf t ∧ bracketsInCode .code rest := by
  cases spells with
  | @name c cs start parts =>
    refine brackets_plain (List.forall_mem_cons.mpr ⟨?_, fun d member => ?_⟩) inCode
    · exact isPlain_of_isNamePart (by simp [Scanner.isNamePart, start])
    · exact isPlain_of_isNamePart (parts d member)
  | number number => exact brackets_plain (isPlain_number number) inCode
  | string tail =>
    rw [List.filter_cons_of_neg (by decide)]
    exact brackets_stringTail tail (by simpa [bracketsInCode, Place.next] using inCode)
  | fixed member =>
    obtain ⟨brackets, plain⟩ := brackets_spelled _ member
    exact ⟨brackets, bracketsInCode_append plain inCode⟩

theorem brackets_lexeme {accepts : Terminal → Bool} {cs : List Char} {t : Terminal} {n : Nat}
    (found : Scanner.lexeme accepts (c :: cs) = some (t, n))
    (inCode : bracketsInCode .code (c :: cs)) :
    (c :: cs.take (n - 1)).filter isBracket = bracketOf t ∧
      bracketsInCode .code (cs.drop (n - 1)) := by
  have takes := Scanner.takes_of_lexeme found
  rw [(Scanner.cons_take takes.nonempty).1, (Scanner.cons_take takes.nonempty).2]
  exact brackets_word takes.spells (by rwa [List.take_append_drop])

/-- What stands next takes its brackets off the text. -/
theorem brackets_ahead {accepts : Terminal → Bool} {cursor : Cursor}
    (inCode : bracketsInCode .code cursor.rest) :
    (Scanner.ahead accepts cursor = .done → cursor.rest.filter isBracket = []) ∧
      ∀ t after, Scanner.ahead accepts cursor = .word t after →
        cursor.rest.filter isBracket = bracketOf t.terminal ++ after.rest.filter isBracket ∧
          bracketsInCode .code after.rest := by
  obtain ⟨p, cs⟩ := cursor
  cases skipped : Scanner.skip false p cs with
  | mk q rest =>
    obtain ⟨same, inCode⟩ := brackets_skip skipped inCode
    simp only [Scanner.ahead, skipped, same]
    cases rest with
    | nil => exact ⟨fun _ => rfl, by rintro t after ⟨⟩⟩
    | cons c rest =>
      simp only [Scanner.front]
      cases found : Scanner.lexeme accepts (c :: rest) with
      | none => exact ⟨by rintro ⟨⟩, by rintro t after ⟨⟩⟩
      | some word =>
        obtain ⟨brackets, later⟩ := brackets_lexeme found inCode
        refine ⟨by rintro ⟨⟩, fun t after next => ?_⟩
        cases next
        refine ⟨?_, later⟩
        rw [← brackets, ← List.filter_append, List.cons_append, List.take_append_drop]

/-! ### The brackets on the stack -/

/-- The bracket that a symbol is; a part has its brackets closed. -/
def bracketOfSymbol : Symbol → List Char
  | .word t => bracketOf t
  | .part _ => []

/-- The brackets open after what is on a stack. -/
def opened (stack : Stack) : List Char :=
  (stack.reverse.flatMap fun part => bracketOfSymbol part.symbol).foldl track []

/-- A production closes the brackets that it opens. -/
theorem track_body {p : Production} (known : p ∈ grammar) (open' : List Char) :
    (p.body.flatMap bracketOfSymbol).foldl track open' = open' := by
  have pairs : ∀ p ∈ grammar,
      p.body.flatMap bracketOfSymbol ∈ [[], ['(', ')'], ['[', ']'], ['{', '}']] := by
    decide
  have pair := pairs p known
  simp only [List.mem_cons, List.not_mem_nil, or_false] at pair
  rcases pair with none | pair | pair | pair
  · rw [none, List.foldl_nil]
  all_goals rw [pair]; simp [track, closer?]

theorem opened_foldNumber? {i : Nat} {stack stack' : Stack}
    (folded : Parser.foldNumber? i stack = some stack') : opened stack' = opened stack := by
  obtain ⟨p, found, folded⟩ := Parser.foldNumber?_eq_some.mp folded
  obtain ⟨parts, below, state, rfl, body, -, -, rfl⟩ := Parser.fold?_eq_some.mp folded
  have same : (parts.flatMap fun part => bracketOfSymbol part.symbol) =
      p.body.flatMap bracketOfSymbol := by
    rw [← body, List.flatMap_map]
  simp only [opened, List.reverse_cons, List.reverse_append, List.reverse_reverse, List.flatMap_append,
    List.foldl_append, same, track_body (mem_of_production? found)]
  simp [bracketOfSymbol]

/-- A word that is taken adds its bracket, and a complete script leaves none open. -/
theorem opened_feed (t : Token) (stack : Stack) :
    (∀ taken, Parser.feed t stack = .taken taken →
      opened taken = (bracketOf t.terminal).foldl track (opened stack)) ∧
    ∀ tree, Parser.feed t stack = .complete tree → opened stack = [] := by
  have answered := @Parser.feed_keeps (opened · = opened stack)
    (fun before folded => (opened_foldNumber? folded).trans before) t stack rfl
  refine ⟨fun taken same => ?_, fun tree same => ?_⟩
  · obtain ⟨state, below, before, rfl, -⟩ := answered.1 taken same
    rw [← before]
    simp [opened, bracketOfSymbol, Part.ofToken]
  · obtain ⟨part, before, start, -⟩ := answered.2 tree same
    rw [← before]
    simp [opened, start, bracketOfSymbol]

/-- An accepted text with all its brackets in code closes those that are open before it. -/
theorem foldl_track_of_reads {stack : Stack} {cursor : Cursor} {tree : Tree}
    (reads : Reads stack cursor tree) (inCode : bracketsInCode .code cursor.rest) :
    (cursor.rest.filter isBracket).foldl track (opened stack) = [] := by
  induction reads with
  | done empty complete =>
    rw [(brackets_ahead inCode).1 empty, List.foldl_nil]
    exact (opened_feed _ _).2 _ complete
  | word next taken _ ih =>
    obtain ⟨split, later⟩ := (brackets_ahead inCode).2 _ _ next
    rw [split, List.foldl_append, ← (opened_feed _ _).1 _ taken]
    exact ih later

/-- An accepted text with all its brackets in code leaves none open. -/
theorem openBrackets_of_parse {source : String} {tree : Tree} (parsed : parse source = .ok tree)
    (inCode : bracketsInCode .code source.toList) : openBrackets source.toList = [] := by
  rw [openBrackets, openBrackets_filter]
  exact foldl_track_of_reads (parse_iff.mp parsed) inCode

/-- The session waits for no bracket after an accepted text whose strings and comments hold none. -/
theorem unclosed_of_accepted {source : String} {tree : Tree} (parsed : parse source = .ok tree)
    (inCode : bracketsInCode .code source.toList) : unclosed source = 0 := by
  rw [unclosed, openBrackets_of_parse parsed inCode, List.length_nil]

/-- Brackets within one another, an escaped quote in a string and one in a comment. -/
theorem unclosed_of_accepted_nested :
    let source := "if x \x7b f([(\"\\\"\", 1)]); # \"\n\x7d"
    ∃ tree, parse source = .ok tree ∧ bracketsInCode .code source.toList ∧ unclosed source = 0 := by
  intro source
  obtain ⟨tree, parsed⟩ : ∃ tree, parse source = .ok tree := by decide +kernel
  have inCode : bracketsInCode .code source.toList := by decide +kernel
  exact ⟨tree, parsed, inCode, unclosed_of_accepted parsed inCode⟩

end DeskScript.Session
