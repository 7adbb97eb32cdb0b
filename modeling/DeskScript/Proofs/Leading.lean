import DeskScript.Proofs.Derivations
import DeskScript.Proofs.Joining
import Mathlib.Data.List.Dedup

/-!
# Where words lead

What the parser holds after words that make up a phrase, whatever lies below them on the stack. The
words of a phrase are not folded into one part until the next word comes, so the word that follows
belongs to the statement: it is answered as if the phrase lay on the stack as one part. From this,
the words of a production lead to its head if the words of each of its symbols lead to that symbol
in the state where the symbol stands; which states these are is computed from the table.
-/

namespace DeskScript.Syntax

/-- A word apart from its place. -/
abbrev Word := String × Terminal

def Token.word (t : Token) : Word := (t.text, t.terminal)

/-- A word that is spelled as its terminal asks, and is no reserved word taken for a name. -/
structure Word.Valid (w : Word) : Prop where
  spells : w.2.Spells w.1.toList
  unreserved : w.2 = .name → ∀ k ∈ Terminal.keywords, k.1 ≠ w.1

theorem Word.Valid.ne_endOfText {w : Word} (valid : w.Valid) : w.2 ≠ .endOfText := by
  have none : ∀ v ∈ Terminal.spelled, v.2 ≠ .endOfText := by decide
  intro last
  have spells := valid.spells
  rw [last] at spells
  generalize w.1.toList = cs at spells
  cases spells with
  | fixed member => exact none _ member rfl

/-- What a part of the stack says, apart from places. -/
structure Item where
  symbol : Symbol
  /-- The text of a word; empty for a category. -/
  text : String
  trees : List Tree

def Part.item (part : Part) : Item := ⟨part.symbol, part.word, part.forest.reverse.map Tree.bare⟩

namespace Item

/-- A category with the trees that it leaves. -/
def of (c : Category) (trees : List Tree) : Item := ⟨.part c, "", trees⟩

def ofWord (w : Word) : Item where
  symbol := .word w.2
  text := w.1
  trees := match w.2.leafKind? with
    | some kind => [.leaf ⟨kind, w.1, none⟩]
    | none => []

end Item

/-- What a production leaves over items, apart from places. -/
def Shape.left (shape : Shape) (items : List Item) : List Tree :=
  match shape with
  | .pass => items.flatMap (·.trees)
  | .node l => [.node l none (items.flatMap (·.trees))]
  | .call => [.node (.ofCall ((items.head?.map (·.text)).getD "")) none (items.flatMap (·.trees))]

theorem Part.item_ofToken (state : Nat) (t : Token) : (ofToken state t).item = .ofWord t.word := by
  cases terminal : t.terminal <;>
    simp [item, ofToken, Item.ofWord, Token.word, Terminal.leafKind?, terminal, Tree.bare, Tree.respan]

theorem Part.children_bare (parts : List Part) :
    (children parts).map Tree.bare = (parts.map item).flatMap (·.trees) := by
  induction parts with
  | nil => rfl
  | cons part parts ih =>
    rw [children_cons, List.map_append, ih, List.map_cons, List.flatMap_cons]
    rfl

theorem Shape.apply_bare (shape : Shape) (parts : List Part) :
    (shape.apply parts).reverse.map Tree.bare = shape.left (parts.map Part.item) := by
  have children := Part.children_bare parts
  cases shape with
  | pass => exact children
  | node l =>
    rw [Shape.apply, List.reverse_singleton, List.map_singleton, Tree.bare_node, children]
    rfl
  | call =>
    have text : (parts.map Part.item).head?.map (·.text) = parts.head?.map (·.word) := by
      cases parts <;> rfl
    simp only [Shape.apply, Shape.left, List.reverse_singleton, List.map_singleton, Tree.bare_node,
      children, text, Label.ofCall]

/-! ### Words and the stack -/

namespace Table

/-- Where a state goes on a symbol. -/
def move (s : Nat) : Symbol → Option Nat
  | .word t => match (row s).action t with
    | some (.shift q) => some q
    | _ => none
  | .part c => (row s).goto? c

theorem action_of_move {s q : Nat} {t : Terminal} (moved : move s (.word t) = some q) :
    (row s).action t = some (.shift q) := by
  simp only [move] at moved
  split at moved
  next q' action =>
    obtain rfl : q' = q := by simpa using moved
    exact action
  next => cases moved

/-- Where a state goes on a row of symbols. -/
def through (s : Nat) : List Symbol → Option Nat
  | [] => some s
  | x :: rest => (move s x).bind fun q => through q rest

theorem through_append (s : Nat) (xs ys : List Symbol) :
    through s (xs ++ ys) = (through s xs).bind fun q => through q ys := by
  induction xs generalizing s with
  | nil => rfl
  | cons x xs ih =>
    rw [List.cons_append, through, through, Option.bind_assoc]
    simp only [ih]

end Table

namespace Parser

/-- Answers words one after another. -/
def feedAll : List Token → Stack → Option Stack
  | [], stack => some stack
  | t :: ts, stack => match feed t stack with
    | .taken stack' => feedAll ts stack'
    | _ => none

theorem feedAll_append (us vs : List Token) (stack : Stack) :
    feedAll (us ++ vs) stack = (feedAll us stack).bind (feedAll vs) := by
  induction us generalizing stack with
  | nil => rfl
  | cons t us ih =>
    rw [List.cons_append, feedAll, feedAll]
    cases feed t stack with
    | taken stack' => exact ih stack'
    | complete => rfl
    | refused => rfl

end Parser

/-- From a state on, words lead to items before a terminal: on a stack in that state, the parser
takes the words, and goes on with a word of the terminal as with the items on the stack. -/
structure Leads (s : Nat) (words : List Word) (next : Terminal) (items : List Item) : Prop where
  valid : ∀ w ∈ words, w.Valid
  begun : items ≠ [] → words ≠ []
  leads : ∀ (stack : Stack) (tokens : List Token), stack.state = s → tokens.map Token.word = words →
    ∃ top stack' : Stack, (top.map Part.item).reverse = items ∧
      Table.through s (items.map (·.symbol)) = some (Stack.state (top ++ stack)) ∧
      Parser.feedAll tokens stack = some stack' ∧
      ∀ t : Token, t.terminal = next → Parser.feed t stack' = Parser.feed t (top ++ stack)

/-- The terminal that stands first, in front of words and another terminal. -/
def Word.first (words : List Word) (next : Terminal) : Terminal := (words.head?.map (·.2)).getD next

variable {p : Production} {i : Nat}

namespace Leads

theorem nil (s : Nat) (next : Terminal) : Leads s [] next [] where
  valid := by simp
  begun := fun nonempty => absurd rfl nonempty
  leads := by
    intro stack tokens state same
    obtain rfl := List.map_eq_nil_iff.mp same
    exact ⟨[], stack, rfl, by rw [← state]; rfl, rfl, fun _ _ => rfl⟩

theorem word {s q : Nat} {w : Word} (valid : w.Valid) (moved : Table.move s (.word w.2) = some q)
    (next : Terminal) : Leads s [w] next [.ofWord w] where
  valid := by simpa using valid
  begun := by simp
  leads := by
    intro stack tokens state same
    obtain ⟨t, rfl, rfl⟩ := List.map_eq_singleton_iff.mp same
    have shifts : (Table.row stack.state).action t.terminal = some (.shift q) := by
      rw [state]
      exact Table.action_of_move moved
    have taken := Parser.feed_shift (Parser.complete?_of_ne valid.ne_endOfText stack) shifts
    refine ⟨[Part.ofToken q t], Part.ofToken q t :: stack, ?_, ?_,
      by simp only [Parser.feedAll, taken], ?_⟩
    · rw [List.map_singleton, List.reverse_singleton, Part.item_ofToken]
    · simp only [List.map_singleton, Table.through, Item.ofWord, Token.word] at moved ⊢
      rw [moved]
      rfl
    · intro t' _
      rfl

/-- Words go on where words have led. -/
theorem append {s : Nat} {us vs : List Word} {next : Terminal} {items items' : List Item}
    (before : Leads s us (Word.first vs next) items)
    (later : ∀ q, Table.through s (items.map (·.symbol)) = some q → Leads q vs next items') :
    Leads s (us ++ vs) next (items ++ items') := by
  -- Some stack is in the state, so that the second words are known to lead on from somewhere.
  obtain ⟨q, reached⟩ : ∃ q, Table.through s (items.map (·.symbol)) = some q := by
    obtain ⟨_, _, -, reached, -⟩ := before.leads [⟨s, .word .name, "", [], none⟩]
      (us.map fun w => ⟨w.2, w.1, default⟩) rfl (by simp [Token.word, Function.comp_def])
    exact ⟨_, reached⟩
  refine ⟨?_, ?_, ?_⟩
  · intro w member
    rcases List.mem_append.mp member with member | member
    · exact before.valid w member
    · exact (later q reached).valid w member
  · intro nonempty empty
    obtain ⟨noWords, noWords'⟩ := List.append_eq_nil_iff.mp empty
    have none : items = [] := by
      by_contra some
      exact before.begun some noWords
    have none' : items' = [] := by
      by_contra some
      exact (later q reached).begun some noWords'
    exact nonempty (by rw [none, none', List.append_nil])
  · intro stack tokens state same
    obtain ⟨first, second, rfl, words, words'⟩ := List.map_eq_append_iff.mp same
    obtain ⟨top, stack₁, shown, reached, fed, onward⟩ := before.leads stack first state words
    obtain ⟨top', stack₂, shown', reached', fed', onward'⟩ :=
      (later _ reached).leads (top ++ stack) second rfl words'
    have through : Table.through s ((items ++ items').map (·.symbol)) =
        some (Stack.state (top' ++ top ++ stack)) := by
      rw [List.map_append, Table.through_append, reached, Option.bind_some, reached',
        List.append_assoc]
    have both : ((top' ++ top).map Part.item).reverse = items ++ items' := by
      rw [List.map_append, List.reverse_append, shown, shown']
    cases second with
    | nil =>
      -- No word has come yet, and the next one is answered as before.
      subst words'
      cases fed'
      refine ⟨top' ++ top, stack₁, both, through, by rw [List.append_nil, fed], fun t here => ?_⟩
      rw [onward t here, onward' t here, List.append_assoc]
    | cons u second =>
      have here : Parser.feed u stack₁ = Parser.feed u (top ++ stack) := by
        refine onward u ?_
        subst words'
        rfl
      refine ⟨top' ++ top, stack₂, both, through, ?_, fun t here => ?_⟩
      · rw [Parser.feedAll_append, fed, Option.bind_some, Parser.feedAll, here]
        exact fed'
      · rw [onward' t here, List.append_assoc]

/-- A production is folded when the next word comes. -/
theorem fold {s : Nat} {words : List Word} {next : Terminal} {items : List Item}
    (before : Leads s words next items) (found : production? i = some p)
    (body : items.map (·.symbol) = p.body) (nonempty : p.body ≠ [])
    (goes : ((Table.row s).goto? p.head).isSome)
    (folds : ∀ q, Table.through s p.body = some q → (Table.row q).action next = some (.fold i)) :
    Leads s words next [.of p.head (p.shape.left items)] := by
  obtain ⟨state, goes⟩ := Option.isSome_iff_exists.mp goes
  have some : items ≠ [] := by
    rintro rfl
    exact nonempty body.symm
  refine ⟨before.valid, fun _ => before.begun some, ?_⟩
  intro stack tokens below same
  obtain ⟨top, stack', shown, reached, fed, onward⟩ := before.leads stack tokens below same
  have symbols : top.reverse.map (·.symbol) = p.body := by
    rw [← body, ← shown, ← List.map_reverse, List.map_map]
    rfl
  have folded : Parser.foldNumber? i (top ++ stack) =
      Option.some (⟨state, .part p.head, "", p.shape.apply top.reverse, Part.extents top.reverse⟩ ::
        stack) := by
    refine Parser.foldNumber?_eq_some.mpr ⟨p, found, Parser.fold?_eq_some.mpr ⟨top.reverse, stack,
      state, by rw [List.reverse_reverse], symbols, fun empty => absurd empty nonempty, ?_, rfl⟩⟩
    rw [below]
    exact goes
  have action := folds _ (body ▸ reached)
  refine ⟨[⟨state, .part p.head, "", p.shape.apply top.reverse, Part.extents top.reverse⟩], stack',
    ?_, ?_, fed, fun t here => ?_⟩
  · rw [List.map_singleton, List.reverse_singleton, Part.item, Shape.apply_bare, List.map_reverse,
      shown]
    rfl
  · simp only [Item.of, List.map_singleton, Table.through, Table.move, goes]
    rfl
  · rw [onward t here]
    refine Parser.feed_fold ?_ (by rw [here, action]) folded
    -- What is folded is not a script, which stands in no production.
    cases top with
    | nil => exact absurd symbols.symm nonempty
    | cons part top =>
      refine Parser.complete?_of_symbol ?_ _
      intro whole
      have inside : Symbol.part .start ∈ p.body := by
        rw [← symbols, ← whole]
        simp
      have none : ∀ p ∈ grammar, Symbol.part .start ∉ p.body := by decide
      exact none p (mem_of_production? found) inside

end Leads

/-! ### Places in the table -/

/-- The words that a category starts with: those of its own for the categories that follow another
in some production, and for the others all that a statement starts with. -/
def Category.firsts : Category → List Terminal
  | .block => [.leftBrace]
  | .semicolons => [.semicolon]
  | .moreNames | .moreAtoms | .moreExprs => [.comma]
  | _ => Table.afterStmt

/-- The words that go on with a repetition. -/
def Category.again (c : Category) : List Terminal :=
  match c with
  | .stmts | .semicolons | .moreNames | .moreAtoms | .moreExprs => c.firsts
  | _ => []

/-- Whether a category may be read from any of some states before any of some words. -/
abbrev Place := Category → List Nat → List Terminal → Bool

namespace Table

/-- The words that may stand in front of a row of symbols, with words behind it. -/
def ahead (nexts : List Terminal) : List Symbol → List Terminal
  | [] => nexts
  | .word t :: _ => [t]
  | .part c :: _ => c.firsts

/-- The states that some states go to on a symbol. -/
def moves (states : List Nat) (x : Symbol) : List Nat := (states.filterMap (move · x)).dedup

/-- Whether symbols can be read from states, each category in its place, up to where a production
is folded before any of some words. -/
def walk (place : Place) (i : Nat) (nexts : List Terminal) : List Symbol → List Nat → Bool
  | [], states => states.all fun q => nexts.all fun n => (row q).action n = some (.fold i)
  | x :: rest, states =>
    (match x with
      | .word _ => true
      | .part c => place c states (ahead nexts rest)) &&
    (states.all fun q => (move q x).isSome) && walk place i nexts rest (moves states x)

/-- Whether a production can be read from states before any of some words. -/
def readable (place : Place) (states : List Nat) (i : Nat) (nexts : List Terminal) : Bool :=
  match production? i with
  | some p => p.body ≠ [] && (states.all fun s => ((row s).goto? p.head).isSome) &&
    walk place i nexts p.body states
  | none => false

/-- The same for a production that starts with its own head, once the head has been read. -/
def readableAgain (place : Place) (states : List Nat) (i : Nat) (nexts : List Terminal) : Bool :=
  match production? i with
  | some p => match p.body with
    | .part c :: rest => c = p.head && (states.all fun s => ((row s).goto? c).isSome) &&
      walk place i nexts rest (moves states (.part c))
    | _ => false
  | none => false

/-- Whether a category is folded, through others that only pass it on, into another before a word. -/
def climbs (s : Nat) (next : Terminal) (target : Category) : Nat → Category → Bool
  | 0, c => c = target
  | n + 1, c => c = target ||
    match (row s).goto? c with
    | some q => match (row q).action next with
      | some (.fold i) => match production? i with
        | some p => p.shape = .pass && p.body = [.part c] && ((row s).goto? p.head).isSome &&
          climbs s next target n p.head
        | none => false
      | _ => false
    | none => false

/-- Whether a statement is expected in a state. -/
def starting (s : Nat) : Bool := ((row s).goto? .stmt).isSome

/-- Whether a statement is expected in all of some states, and any of some words may follow it. -/
def startAt (states : List Nat) (nexts : List Terminal) : Bool :=
  states.all starting && nexts.all afterStmt.contains

/-- Whether an operand is expected in all of some states, and any of some words may follow it. Where
a statement may start as well, a name could be one that is assigned to. -/
def operandAt (states : List Nat) (nexts : List Terminal) : Bool :=
  states.all fun s => ((row s).goto? .atom).isSome &&
    nexts.all (if starting s then afterFirstName else afterAtom).contains

/-- The place of an operand that stands for a category of lower precedence. -/
def operandFor : Place := fun c states nexts =>
  operandAt states nexts && states.all fun s => nexts.all fun n => climbs s n c 6 .atom

/-- The numbers of the productions for operators. -/
def operators : List Nat := [39, 41, 43, 44, 45, 46, 47, 48, 49, 50, 51, 53, 54, 55]

/-- Whether an operand, or operands with an operator, can be read as a category before a word. -/
def wholeAt (c : Category) (states : List Nat) (next : Terminal) : Bool :=
  operandFor c states [next] && operators.all fun i =>
    readable operandFor states i [next] && match production? i with
      | some p => states.all fun s => climbs s next c 6 p.head
      | none => false

/-- Whether a production starts with its own head. -/
def recurs (i : Nat) : Bool := (production? i).any fun p => p.body.head? = some (.part p.head)

/-- The productions of a category. -/
def numbers (c : Category) : List Nat :=
  (List.range 86).filter fun i => (production? i).any fun p => p.head = c

/-- Whether all productions of a category can be read from states before any of some words. A choice
ends in a block, which takes the semicolons behind it, so that it is no whole expression before
one. -/
def placeAt : Nat → Place
  | 0, _, _, _ => false
  | k + 1, c, states, nexts =>
    match c with
    | .atom => operandAt states nexts
    | .stmt => startAt states nexts
    | .disjunction => nexts.all (wholeAt .disjunction states)
    | .expr => nexts.all fun n => wholeAt .expr states n &&
      (n = .semicolon || readable (placeAt k) states 35 [n])
    | c => (numbers c).all fun i =>
      if recurs i then readableAgain (placeAt k) states i (nexts ++ c.again)
      else readable (placeAt k) states i (nexts ++ c.again)

end Table

/-! ### What words make up -/

/-- Words of which the first is one that a category starts with. -/
def Starts (c : Category) (words : List Word) : Prop := ∃ w ws, words = w :: ws ∧ w.2 ∈ c.firsts

/-- The words and items of a row of symbols: the words of a category lead to it in its place. -/
inductive Contents (place : Place) (nexts : List Terminal) :
    List Symbol → List Word → List Item → Prop
  | nil : Contents place nexts [] [] []
  | word {w : Word} {rest : List Symbol} {ws : List Word} {items : List Item} (valid : w.Valid)
      (later : Contents place nexts rest ws items) :
      Contents place nexts (.word w.2 :: rest) (w :: ws) (.ofWord w :: items)
  | part {c : Category} {rest : List Symbol} {us ws : List Word} {ts : List Tree}
      {items : List Item} (starts : Starts c us)
      (leads : ∀ states s n, place c states (Table.ahead nexts rest) → s ∈ states →
        n ∈ Table.ahead nexts rest → Leads s us n [.of c ts])
      (later : Contents place nexts rest ws items) :
      Contents place nexts (.part c :: rest) (us ++ ws) (.of c ts :: items)

namespace Contents

variable {place : Place} {nexts : List Terminal} {body : List Symbol} {words : List Word}
  {items : List Item}

theorem symbols (contents : Contents place nexts body words items) :
    items.map (·.symbol) = body := by
  induction contents with
  | nil => rfl
  | word _ _ ih => rw [List.map_cons, ih]; rfl
  | part _ _ _ ih => rw [List.map_cons, ih]; rfl

theorem first (contents : Contents place nexts body words items) {n : Terminal} (here : n ∈ nexts) :
    Word.first words n ∈ Table.ahead nexts body := by
  cases contents with
  | nil => exact here
  | word => exact List.mem_singleton_self _
  | part starts =>
    obtain ⟨w, ws, rfl, member⟩ := starts
    exact member

end Contents

namespace Table

variable {states : List Nat} {nexts : List Terminal} {s : Nat} {n : Terminal} {words : List Word}
  {items : List Item} {place : Place}

theorem mem_moves {s q : Nat} {x : Symbol} (member : s ∈ states)
    (moved : move s x = some q) : q ∈ moves states x :=
  List.mem_dedup.mpr (List.mem_filterMap.mpr ⟨s, member, moved⟩)

/-- Symbols that can be read lead to where the production is folded. -/
theorem leads_walk {body : List Symbol} (contents : Contents place nexts body words items)
    (walks : walk place i nexts body states) (member : s ∈ states) (here : n ∈ nexts) :
    Leads s words n items ∧ ∃ q, through s body = some q ∧ (row q).action n = some (.fold i) := by
  induction contents generalizing states s with
  | nil =>
    simp only [walk, List.all_eq_true, decide_eq_true_eq] at walks
    exact ⟨Leads.nil s n, s, rfl, walks s member n here⟩
  | @word w rest ws items valid later ih =>
    simp only [walk, Bool.and_eq_true, List.all_eq_true, Bool.true_and] at walks
    obtain ⟨q, moved⟩ := Option.isSome_iff_exists.mp (walks.1 s member)
    obtain ⟨leads, last, through, folds⟩ := ih walks.2 (mem_moves member moved)
    refine ⟨(Leads.word valid moved _).append fun q' reached => ?_, last, ?_, folds⟩
    · simp only [List.map_singleton, Item.ofWord, Table.through, moved, Option.bind_some] at reached
      cases reached
      exact leads
    · rw [Table.through, moved, Option.bind_some, through]
  | @part c rest us ws ts items starts leads later ih =>
    simp only [walk, Bool.and_eq_true, List.all_eq_true] at walks
    obtain ⟨⟨placed, can⟩, walks⟩ := walks
    obtain ⟨q, moved⟩ := Option.isSome_iff_exists.mp (can s member)
    obtain ⟨leads', last, through, folds⟩ := ih walks (mem_moves member moved)
    refine ⟨(leads states s _ placed member (later.first here)).append fun q' reached => ?_, last,
      ?_, folds⟩
    · simp only [List.map_singleton, Item.of, Table.through, moved, Option.bind_some] at reached
      cases reached
      exact leads'
    · rw [Table.through, moved, Option.bind_some, through]

/-- A production that can be read leads to its head. -/
theorem leads_readable (readable : readable place states i nexts) (found : production? i = some p)
    (contents : Contents place nexts p.body words items) (member : s ∈ states) (here : n ∈ nexts) :
    Leads s words n [.of p.head (p.shape.left items)] := by
  simp only [Table.readable, found, Bool.and_eq_true, List.all_eq_true, decide_eq_true_eq] at readable
  obtain ⟨⟨nonempty, goes⟩, walks⟩ := readable
  obtain ⟨leads, q, through, folds⟩ := leads_walk contents walks member here
  refine leads.fold found contents.symbols nonempty (goes s member) fun q' reached => ?_
  rw [through] at reached
  cases reached
  exact folds

/-- A production that starts with its own head leads from the head to the head. -/
theorem leads_again (readable : readableAgain place states i nexts) (found : production? i = some p)
    {rest : List Symbol} (body : p.body = .part p.head :: rest) {us ws : List Word} {ts : List Tree}
    (contents : Contents place nexts rest ws items) (member : s ∈ states) (here : n ∈ nexts)
    (before : Leads s us (Word.first ws n) [.of p.head ts]) :
    Leads s (us ++ ws) n [.of p.head (p.shape.left (.of p.head ts :: items))] := by
  simp only [readableAgain, found, body, Bool.and_eq_true, List.all_eq_true, decide_true,
    true_and] at readable
  obtain ⟨goes, walks⟩ := readable
  obtain ⟨q, moved⟩ := Option.isSome_iff_exists.mp (goes s member)
  have moved : move s (.part p.head) = some q := moved
  obtain ⟨leads, last, through, folds⟩ := leads_walk contents walks (mem_moves member moved) here
  have both : Leads s (us ++ ws) n (.of p.head ts :: items) := by
    refine before.append fun q' reached => ?_
    simp only [List.map_singleton, Item.of, Table.through, moved, Option.bind_some] at reached
    cases reached
    exact leads
  refine both.fold found ?_ (by simp [body]) (goes s member) fun q' reached => ?_
  · rw [List.map_cons, contents.symbols, body]
    rfl
  · rw [body, Table.through, moved, Option.bind_some, through] at reached
    cases reached
    exact folds

theorem leads_climb {next : Terminal} {target : Category} {n : Nat} {c : Category}
    (climbs : climbs s next target n c) {ts : List Tree}
    (leads : Leads s words next [.of c ts]) : Leads s words next [.of target ts] := by
  induction n generalizing c with
  | zero =>
    obtain rfl : c = target := by simpa [Table.climbs] using climbs
    exact leads
  | succ n ih =>
    simp only [Table.climbs, Bool.or_eq_true, decide_eq_true_eq] at climbs
    rcases climbs with rfl | climbs
    · exact leads
    · split at climbs
      next q goes =>
        split at climbs
        next i action =>
          split at climbs
          next p found =>
            simp only [Bool.and_eq_true, decide_eq_true_eq] at climbs
            obtain ⟨⟨⟨shape, body⟩, goes'⟩, climbs⟩ := climbs
            have folded := leads.fold found (by rw [body]; rfl) (by simp [body]) goes' (by
              intro q' reached
              rw [body, through, move, goes, Option.bind_some] at reached
              cases reached
              exact action)
            rw [shape] at folded
            refine ih climbs ?_
            simpa [Shape.left, Item.of] using folded
          next => cases climbs
        next => cases climbs
      next => cases climbs

/-! ### Facts of the table -/

/-- The states in which a statement is expected. -/
def startStates : List Nat := [0, 3, 88, 128]

/-- The states in which an operand is expected, but no statement. -/
def operandStates : List Nat :=
  [13, 19, 23, 27, 34, 38, 50, 51, 61, 63, 64, 65, 66, 67, 68, 69, 70, 71, 73, 74, 75, 76, 82, 83,
    89, 117, 120, 138, 140]

theorem states_of_lt : ∀ s < 158, (starting s ↔ s ∈ startStates) ∧
    (((row s).goto? .atom).isSome → s ∈ operandStates ∨ s ∈ startStates) := by decide +kernel

theorem mem_startStates (start : starting s) : s ∈ startStates := by
  by_cases far : 158 ≤ s
  · rw [starting, row_of_le far] at start
    cases start
  · exact (states_of_lt s (by omega)).1.mp start

theorem mem_operandStates (operand : ((row s).goto? .atom).isSome) :
    s ∈ operandStates ∨ s ∈ startStates := by
  by_cases far : 158 ≤ s
  · rw [row_of_le far] at operand
    cases operand
  · exact (states_of_lt s (by omega)).2 operand

theorem starting_of_mem :
    (∀ s ∈ operandStates, starting s = false) ∧ ∀ s ∈ startStates, starting s := by
  have apart : ∀ s ∈ operandStates, s ∉ startStates := by decide
  have below : ∀ s ∈ startStates, s < 158 := by decide
  refine ⟨fun s operand => ?_, fun s member => (states_of_lt s (below s member)).1.mpr member⟩
  by_contra start
  exact apart s operand (mem_startStates (Bool.eq_true_of_not_eq_false start))

/-- Where an operand is expected, and what may follow it there. -/
theorem operandAt_cases
    (placed : operandAt states nexts) (member : s ∈ states)
    (here : n ∈ nexts) : s ∈ operandStates ∧ n ∈ afterAtom ∨ s ∈ startStates ∧ n ∈ afterFirstName := by
  have at_s := List.all_eq_true.mp placed s member
  rw [Bool.and_eq_true] at at_s
  have follows := List.contains_iff_mem.mp (List.all_eq_true.mp at_s.2 n here)
  rcases mem_operandStates at_s.1 with operand | start
  · rw [starting_of_mem.1 s operand] at follows
    exact .inl ⟨operand, follows⟩
  · rw [starting_of_mem.2 s start] at follows
    exact .inr ⟨start, follows⟩

theorem operandAt_states
    (placed : operandAt states nexts) (member : s ∈ states)
    (here : n ∈ nexts) : s ∈ operandStates ++ startStates ∧ n ∈ afterAtom := by
  have also : ∀ n ∈ afterFirstName, n ∈ afterAtom := by decide
  rcases operandAt_cases placed member here with ⟨operand, follows⟩ | ⟨start, follows⟩
  · exact ⟨List.mem_append_left _ operand, follows⟩
  · exact ⟨List.mem_append_right _ start, also n follows⟩

/-- An operand may always be indexed. -/
theorem operandAt_index (placed : operandAt states nexts)
    (member : s ∈ states) : operandAt [s] [.leftBracket] := by
  have at_s := List.all_eq_true.mp placed s member
  rw [Bool.and_eq_true] at at_s
  simp only [operandAt, List.all_cons, List.all_nil, Bool.and_true, at_s.1, Bool.true_and]
  split <;> decide

/-- The numbers of the productions for operands, without a name by itself and an index. -/
def atoms : List Nat := [58, 59, 60, 61, 63, 64, 65, 66, 67, 68, 69]

/-- The numbers of the productions for statements. -/
def statements : List Nat := [3, 4, 5, 6, 7, 8, 9]

theorem readable_places :
    (∀ i ∈ atoms, readable (placeAt 12) (operandStates ++ startStates) i afterAtom) ∧
    readableAgain (placeAt 12) (operandStates ++ startStates) 57 afterAtom ∧
    (readable (placeAt 12) operandStates 62 afterAtom ∧
      readable (placeAt 12) startStates 62 afterFirstName) ∧
    (∀ i ∈ statements, readable (placeAt 12) startStates i afterStmt) ∧
    placeAt 12 .stmts [0] [.endOfText] := by decide +kernel

theorem readable_atom : ∀ i ∈ atoms,
    readable (placeAt 12) (operandStates ++ startStates) i afterAtom := readable_places.1

theorem readable_index :
    readableAgain (placeAt 12) (operandStates ++ startStates) 57 afterAtom := readable_places.2.1

theorem readable_name : readable (placeAt 12) operandStates 62 afterAtom ∧
    readable (placeAt 12) startStates 62 afterFirstName := readable_places.2.2.1

theorem readable_statement : ∀ i ∈ statements,
    readable (placeAt 12) startStates i afterStmt := readable_places.2.2.2.1

theorem placeAt_start : placeAt 12 .stmts [0] [.endOfText] := readable_places.2.2.2.2

end Table

end DeskScript.Syntax
