import DeskScript.Proofs.Bare
import DeskScript.Proofs.Brackets
import DeskScript.Session.Script
import Mathlib.Data.List.TakeWhile

/-!
# Texts line by line

Lines that are scripts by themselves make a script together, with the statements of all of them in
order, however many of them are taken at once.
-/

namespace DeskScript.Session

open Syntax

/-- Lines one below the other. -/
def stacked : List String → List Char
  | [] => []
  | [line] => line.toList
  | line :: rest => line.toList ++ '\n' :: stacked rest

/-- A line that is a script by itself and can follow any other: it reads no file, and its brackets
can be counted. -/
structure Usable (line : String) : Prop where
  single : '\n' ∉ line.toList
  accepted : ∃ tree, parse line = .ok tree ∧ importPaths tree = []
  opening : Scanner.opening line.toList ≠ "else".toList
  brackets : bracketsInCode .code line.toList

theorem usable_iff (line : String) : Usable line ↔ '\n' ∉ line.toList ∧
    (∃ tree, parse line = .ok tree ∧ importPaths tree = []) ∧
      Scanner.opening line.toList ≠ "else".toList ∧ bracketsInCode .code line.toList := by
  constructor
  · rintro ⟨single, accepted, opening, brackets⟩
    exact ⟨single, accepted, opening, brackets⟩
  · rintro ⟨single, accepted, opening, brackets⟩
    exact ⟨single, accepted, opening, brackets⟩

instance (line : String) : Decidable (Usable line) := decidable_of_iff' _ (usable_iff line)

/-- The statements of a text, without their places. -/
def statements (line : String) : List Tree :=
  match parse line with
  | .ok (.node _ _ [.node _ _ trees]) => trees.map Tree.bare
  | _ => []

/-- A text without words has no statements. -/
theorem parse_nil : parse "" = .ok (.script none []) :=
  parse_iff.mpr (.done rfl (Parser.feed_nil rfl))

/-- A blank line can always be used. -/
theorem usable_nil : Usable "" :=
  ⟨by decide, ⟨_, parse_nil, rfl⟩, by decide, rfl⟩

variable {lines : List String} {c : Char}

theorem usable_concat_nil (usable : ∀ line ∈ lines, Usable line) :
    ∀ line ∈ lines ++ [""], Usable line := by
  intro line member
  rcases List.mem_append.mp member with member | member
  · exact usable line member
  · obtain rfl := List.mem_singleton.mp member
    exact usable_nil

theorem statements_nil : statements "" = [] := by simp [statements, parse_nil, Tree.script]

/-! ### Imports -/

theorem importOf_respans (f : Option Span → Option Span) (label : Label) (ts : List Tree) :
    importOf label (respans f ts) = importOf label ts := by
  rw [respans_eq_map]
  cases ts with
  | nil => simp [importOf]
  | cons t ts =>
    by_cases named : label = .importFile
    · subst named
      rw [List.map_cons, importOf, importOf, Tree.text_respan]
    · simp [importOf, named]

mutual

theorem importPaths_respan (f : Option Span → Option Span) :
    ∀ t : Tree, importPaths (t.respan f) = importPaths t
  | .node label span children => by
    rw [Tree.respan, importPaths, importPaths, importOf_respans, importPathsAll_respans f children]
  | .leaf l => by simp [Tree.respan, importPaths]
  | .datum d => by rw [Tree.respan]

theorem importPathsAll_respans (f : Option Span → Option Span) :
    ∀ ts : List Tree, importPathsAll (respans f ts) = importPathsAll ts
  | [] => by rw [respans]
  | t :: ts => by
    rw [respans, importPathsAll, importPathsAll, importPaths_respan f t,
      importPathsAll_respans f ts]

end

theorem importPathsAll_append (ts us : List Tree) :
    importPathsAll (ts ++ us) = importPathsAll ts ++ importPathsAll us := by
  induction ts with
  | nil => rfl
  | cons t ts ih => rw [List.cons_append, importPathsAll, importPathsAll, ih, List.append_assoc]

/-- A script imports what its statements import. -/
theorem importPaths_script (extent : Option Span) (trees : List Tree) :
    importPaths (.script extent trees) = importPathsAll trees := by
  simp [Tree.script, importPaths, importPathsAll, importOf]

/-! ### Lines together -/

theorem opening_line (above below : List Char) :
    Scanner.opening (above ++ '\n' :: below) =
      if (Scanner.skip false .start above).rest = [] then Scanner.opening below
      else Scanner.opening above := by
  cases here : Scanner.skip false .start above with
  | mk p rest =>
    cases rest with
    | nil =>
      have empty : (Scanner.skip false .start above).rest = [] := by rw [here]
      rw [if_pos rfl, Scanner.opening, Scanner.skip_line_nil empty, Position.after_line]
      exact Scanner.opening_down _ _
    | cons c rest =>
      rw [if_neg (by simp), Scanner.opening, Scanner.skip_line_cons here, Scanner.opening, here]
      exact Scanner.takeWhile_stop (by decide) (c :: rest) below

theorem bare_down (n : Nat) (trees : List Tree) :
    (trees.map (Tree.down n)).map Tree.bare = trees.map Tree.bare := by
  rw [List.map_map]
  exact congrArg (trees.map ·) (funext (Tree.bare_respan _))

/-- Usable lines are read one after the other as one script. -/
theorem reads_stacked (usable : ∀ line ∈ lines, Usable line) :
    ∃ extent trees, Reads [] ⟨.start, stacked lines⟩ (.script extent trees) ∧
      trees.map Tree.bare = lines.flatMap statements ∧ importPathsAll trees = [] ∧
      Scanner.opening (stacked lines) ≠ "else".toList := by
  induction lines with
  | nil => exact ⟨none, [], parse_iff.mp parse_nil, rfl, rfl, by decide⟩
  | cons line rest ih =>
    obtain ⟨tree, parsed, imports⟩ := (usable line List.mem_cons_self).accepted
    have reads := parse_iff.mp parsed
    obtain ⟨extent, trees, rfl⟩ := reads.script
    have own : trees.map Tree.bare = statements line := by
      simp [statements, parsed, Tree.script]
    rw [importPaths_script] at imports
    have opening := (usable line List.mem_cons_self).opening
    cases rest with
    | nil => exact ⟨extent, trees, reads, by simp [own], imports, opening⟩
    | cons next rest =>
      obtain ⟨extent', trees', reads', own', imports', opening'⟩ :=
        ih fun line member => usable line (List.mem_cons_of_mem _ member)
      have both := reads.append_line_of reads' fun _ _ => .inl opening'
      refine ⟨_, _, both, ?_, ?_, ?_⟩
      · rw [List.map_append, bare_down, own, own']
        rfl
      · rw [importPathsAll_append, imports, Tree.down, ← respans_eq_map, importPathsAll_respans,
          imports', List.append_nil]
      · rw [stacked, opening_line]
        split
        · exact opening'
        · exact opening
        · simp

/-! ### Blank texts -/

/-- No visible character of ASCII is white space. -/
theorem isBlank_of_visible (low : 33 ≤ c.toNat) (high : c.toNat ≤ 126) :
    Text.isBlank c = false := by
  have space : (c == ' ') = false := by
    rw [beq_eq_false_iff_ne]
    rintro rfl
    exact absurd low (by decide)
  simp only [Text.isBlank, Text.isAsciiBlank, Text.inRanges, Text.blankRanges, List.any_cons,
    List.any_nil, space, Bool.or_eq_false_iff, Bool.and_eq_false_iff, decide_eq_false_iff_not,
    true_and, and_true]
  omega

theorem toNat_of_isDigit (digit : Scanner.isDigit c) : 48 ≤ c.toNat ∧ c.toNat ≤ 57 := by
  simpa [Scanner.isDigit, Char.le_def, UInt32.le_iff_toNat_le] using digit

theorem isBlank_of_isNamePart (part : Scanner.isNamePart c) : Text.isBlank c = false := by
  simp only [Scanner.isNamePart, Scanner.isNameStart, Bool.or_eq_true, Bool.and_eq_true,
    decide_eq_true_eq, Char.le_def, UInt32.le_iff_toNat_le] at part
  rcases part with ((small | capital) | rfl) | digit
  · exact isBlank_of_visible (Nat.le_trans (by decide) small.1) (Nat.le_trans small.2 (by decide))
  · exact isBlank_of_visible (Nat.le_trans (by decide) capital.1)
      (Nat.le_trans capital.2 (by decide))
  · decide
  · have within := toNat_of_isDigit digit
    exact isBlank_of_visible (by omega) (by omega)

theorem isBlank_head_spelled : ∀ w ∈ Terminal.spelled,
    ∀ c ∈ w.1.toList.head?, Text.isBlank c = false := by
  have all : Terminal.spelled.all fun w => w.1.toList.head?.all fun c => Text.isBlank c = false := by decide
  simpa only [List.all_eq_true, Bool.and_eq_true, decide_eq_true_eq, Option.all_eq_true,
    Option.mem_def] using all

/-- No word starts with white space of any kind. -/
theorem isBlank_of_lexeme {accepts : Terminal → Bool} {cs : List Char} {t : Terminal} {n : Nat}
    (found : Scanner.lexeme accepts (c :: cs) = some (t, n)) : Text.isBlank c = false := by
  have takes := Scanner.takes_of_lexeme found
  obtain ⟨m, rfl⟩ := Nat.exists_eq_succ_of_ne_zero takes.nonempty
  have spells := takes.spells
  rw [List.take_succ_cons] at spells
  generalize word : c :: cs.take m = text at spells
  cases spells with
  | name start =>
    cases word
    exact isBlank_of_isNamePart (by simp [Scanner.isNamePart, start])
  | number number =>
    subst word
    obtain ⟨d, rest, same, digit | point⟩ := Scanner.NumberText.head number
    all_goals obtain ⟨rfl, -⟩ := List.cons.inj same
    · have within := toNat_of_isDigit digit
      exact isBlank_of_visible (by omega) (by omega)
    · subst point
      decide
  | string =>
    cases word
    decide
  | fixed member => exact isBlank_head_spelled _ member c (by rw [← word]; rfl)

theorem skip_suffix (inComment : Bool) (p : Position) (cs : List Char) :
    (Scanner.skip inComment p cs).rest <:+ cs := by
  induction cs generalizing inComment p with
  | nil => exact List.suffix_rfl
  | cons c cs ih =>
    simp only [Scanner.skip]
    split
    · exact (ih _ _).trans (List.suffix_cons c cs)
    · split
      · exact (ih _ _).trans (List.suffix_cons c cs)
      · split
        · exact (ih _ _).trans (List.suffix_cons c cs)
        · exact List.suffix_rfl

/-- A text that is nothing but white space has no statements. -/
theorem trees_of_blank {source : List Char} {extent : Option Span} {trees : List Tree}
    (blank : ∀ c ∈ source, Text.isBlank c)
    (reads : Reads [] ⟨.start, source⟩ (.script extent trees)) : trees = [] := by
  cases reads with
  | done empty complete =>
    rw [Parser.feed_nil rfl] at complete
    obtain ⟨-, rfl⟩ : _ ∧ [] = trees := by simpa [Tree.script] using complete
    rfl
  | word next taken rest =>
    have part := skip_suffix false .start source
    simp only [Scanner.ahead] at next
    cases here : (Scanner.skip false .start source).rest with
    | nil => simp [here, Scanner.front] at next
    | cons c more =>
      simp only [here, Scanner.front] at next
      cases found : Scanner.lexeme (Table.row (Stack.state [])).accepts (c :: more) with
      | none => simp [found] at next
      | some word =>
        have white := blank c (part.subset (by simp [here]))
        rw [isBlank_of_lexeme found] at white
        cases white

theorem blank_of_strip {s : String} (empty : (Text.strip s).isEmpty) :
    ∀ c ∈ s.toList, Text.isBlank c := by
  have nil : Text.stripBy Text.isBlank s.toList = [] := by
    simpa [Text.strip] using empty
  rw [Text.stripBy, List.reverse_eq_nil_iff, List.dropWhile_eq_nil_iff] at nil
  refine List.dropWhile_eq_nil_iff.mp ?_
  by_contra some
  have white := nil _ (List.mem_reverse.mpr (List.head_mem some))
  rw [List.head_dropWhile_not Text.isBlank some] at white
  cases white

/-! ### Collected lines -/

/-- The text of collected lines, each with its line feed. -/
def gathered (lines : List String) : String := lines.foldl (fun text line => text ++ line ++ "\n") ""

theorem gathered_concat (lines : List String) (line : String) :
    gathered (lines ++ [line]) = gathered lines ++ line ++ "\n" := by
  simp [gathered]

theorem toList_gathered (lines : List String) :
    (gathered lines).toList = lines.flatMap fun line => line.toList ++ ['\n'] := by
  have grow : ∀ text : String,
      (lines.foldl (fun text line => text ++ line ++ "\n") text).toList =
        text.toList ++ lines.flatMap fun line => line.toList ++ ['\n'] := by
    induction lines with
    | nil => simp
    | cons line rest ih =>
      intro text
      rw [List.foldl_cons, ih]
      simp
  exact grow ""

/-- Collected lines are the lines one below the other, with a blank one at the end. -/
theorem stacked_concat (lines : List String) :
    stacked (lines ++ [""]) = lines.flatMap fun line => line.toList ++ ['\n'] := by
  induction lines with
  | nil => rfl
  | cons line rest ih =>
    obtain ⟨next, more, same⟩ : ∃ next more, rest ++ [""] = next :: more :=
      List.exists_cons_of_ne_nil (by simp)
    rw [List.cons_append, same, stacked, ← same, ih]
    · simp
    · simp

/-- Usable lines that are collected make a script. -/
theorem parse_gathered (usable : ∀ line ∈ lines, Usable line) :
    ∃ extent trees, parse (gathered lines) = .ok (.script extent trees) ∧
      trees.map Tree.bare = lines.flatMap statements := by
  obtain ⟨extent, trees, reads, own, -⟩ := reads_stacked (usable_concat_nil usable)
  rw [stacked_concat, ← toList_gathered] at reads
  refine ⟨extent, trees, parse_iff.mpr reads, ?_⟩
  simpa [statements_nil] using own

/-- No bracket is open after usable lines. -/
theorem unclosed_gathered (usable : ∀ line ∈ lines, Usable line) :
    unclosed (gathered lines) = 0 := by
  have closed : openBrackets (gathered lines).toList = [] := by
    rw [toList_gathered]
    induction lines with
    | nil => rfl
    | cons line rest ih =>
      obtain ⟨tree, parsed, -⟩ := (usable line List.mem_cons_self).accepted
      have first := openBrackets_of_parse parsed (usable line List.mem_cons_self).brackets
      rw [openBrackets] at first
      rw [List.flatMap_cons, openBrackets, List.foldl_append, List.foldl_append, first]
      exact ih fun line member => usable line (List.mem_cons_of_mem _ member)
  rw [unclosed, closed, List.length_nil]

/-! ### A script file -/

theorem toList_intercalate (lines : List String) :
    ("\n".intercalate lines).toList = stacked lines := by
  rw [String.toList_intercalate]
  induction lines with
  | nil => rfl
  | cons line rest ih =>
    cases rest with
    | nil => simp [List.intercalate, stacked]
    | cons next rest =>
      rw [stacked, ← ih]
      · simp [List.intercalate]
      · simp

/-- The text that is run for a file of usable lines: the lines, below an empty one. -/
theorem linked_lines (usable : ∀ line ∈ lines, Usable line) (files : Files) :
    linked files ("\n".intercalate lines) = .ok (joined [] ("\n".intercalate lines)) ∧
      ∃ extent trees, parse (joined [] ("\n".intercalate lines)) = .ok (.script extent trees) ∧
        trees.map Tree.bare = lines.flatMap statements := by
  obtain ⟨extent, trees, reads, own, imports, opening⟩ := reads_stacked usable
  have alone : parse ("\n".intercalate lines) = .ok (.script extent trees) :=
    parse_iff.mpr (by rw [toList_intercalate]; exact reads)
  have below := (parse_iff.mp parse_nil).append_line_of reads fun _ _ => .inl opening
  have text : (joined [] ("\n".intercalate lines)).toList = "".toList ++ '\n' :: stacked lines := by
    rw [joined, String.toList_append, toList_intercalate]
    rfl
  refine ⟨?_, _, _, parse_iff.mpr (text ▸ below), by rw [List.nil_append, bare_down, own]⟩
  have none : importPaths (.script extent trees) = [] := by rw [importPaths_script, imports]
  rw [linked, parsed, alone]
  show (do
    let imported ← (importPaths (.script extent trees)).mapM files.read
    return joined imported ("\n".intercalate lines)) = _
  rw [none]
  rfl

end DeskScript.Session
