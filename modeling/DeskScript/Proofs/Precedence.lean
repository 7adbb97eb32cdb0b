import DeskScript.Proofs.Parentheses
import DeskScript.Proofs.Roundtrip

/-!
# Precedence and associativity

Operands joined by binary operators are read as one expression if no two comparisons stand together
without a logical operator between them. The tree is the only one in which every operator binds as
tightly as its rank says and operators of one rank are grouped to the left.
-/

namespace DeskScript.Syntax

/-! ### Operators and how they group operands -/

/-- How tightly a binary operator binds. -/
def Label.rank : Label → Nat
  | either => 0
  | both => 1
  | greater | less | greaterEq | lessEq | equal | notEqual => 2
  | add | subtract => 3
  | multiply | divide | modulo => 4
  | _ => 5

def Label.isLogical (l : Label) : Bool := l.rank < 2

def Label.isComparison (l : Label) : Bool := l.rank = 2

/-- The least rank of an operator that needs no parentheses on the left of another: operators of one
rank are grouped to the left, and comparisons are not grouped at all. -/
def Label.leftRank (l : Label) : Nat := if l.isComparison then l.rank + 1 else l.rank

/-- A script that is one expression. -/
def Tree.lone (t : Tree) : Tree := .node .start none [.node .block none [.node .expression none [t]]]

/-- The words of an operand and its tree: a number, a name that is not reserved, or what stands in
parentheses, which is read as an expression when it stands alone. -/
inductive IsOperand : List Word → Tree → Prop
  | number {text : String} (valid : Word.Valid (text, .number)) :
      IsOperand [(text, .number)] (.node .number none [.leaf ⟨.number, text, none⟩])
  | name {text : String} (valid : Word.Valid (text, .name)) :
      IsOperand [(text, .name)] (.node .var none [.leaf ⟨.name, text, none⟩])
  | parens {us : List Word} {source : String} {t tree : Tree} (valid : ∀ w ∈ us, w.Valid)
      (paired : Word.paired us)
      (words : (wordsOf source).map Token.word = Word.parens us ++ [.of .semicolon])
      (parsed : parse source = .ok tree) (alone : tree.bare = t.lone) : IsOperand (Word.parens us) t

structure Operand where
  words : List Word
  tree : Tree
  isOperand : IsOperand words tree

/-- Operands joined by binary operators. -/
structure Chain where
  first : Operand
  rest : List (Label × Operand)
  binary : ∀ part ∈ rest, part.1 ∈ Label.binary

def Chain.words (c : Chain) : List Word :=
  c.first.words ++ c.rest.flatMap fun part => .of part.1.sign :: part.2.words

/-- Between any two neighbouring logical operators, before the first and after the last of them,
there is at most one comparison. -/
def Chain.Separate (c : Chain) : Prop :=
  ∀ stretch ∈ (c.rest.map (·.1)).splitOnP Label.isLogical, stretch.countP Label.isComparison ≤ 1

/-- Operands grouped by operators. -/
inductive Grouping where
  | operand (o : Operand)
  | join (l : Label) (left right : Grouping)

namespace Grouping

/-- The operand in front, and the operators with the operands behind them. -/
def flat : Grouping → Operand × List (Label × Operand)
  | operand o => (o, [])
  | join l left right => (left.flat.1, left.flat.2 ++ (l, right.flat.1) :: right.flat.2)

def tree : Grouping → Tree
  | operand o => o.tree
  | join l left right => .node l none [left.tree, right.tree]

/-- How tightly the operator binds that joins everything. -/
def rank : Grouping → Nat
  | operand _ => 5
  | join l _ _ => l.rank

/-- Every operator joins what binds more tightly, and on its left also what binds as tightly, if it
is no comparison. -/
def Binds : Grouping → Prop
  | operand _ => True
  | join l left right =>
    l ∈ Label.binary ∧ left.Binds ∧ right.Binds ∧ l.leftRank ≤ left.rank ∧ l.rank < right.rank

def words : Grouping → List Word
  | operand o => o.words
  | join l left right => left.words ++ .of l.sign :: right.words

theorem words_flat (g : Grouping) : g.words =
    g.flat.1.words ++ g.flat.2.flatMap fun part => .of part.1.sign :: part.2.words := by
  induction g with
  | operand o => simp [words, flat]
  | join l left right ih ih' => simp [words, flat, ih, ih']

end Grouping

/-! ### Ranks in the table -/

/-- The category of what binds as tightly as a rank says. -/
def Category.ranked : Nat → Category
  | 0 => .disjunction
  | 1 => .conjunction
  | 2 => .comparison
  | 3 => .sum
  | 4 => .product
  | _ => .atom

variable {n : Terminal} {g : Grouping} {stack : Stack}

namespace Table

/-- The states in which what binds so tightly is expected, in a statement that is an expression. -/
def rankStates (k : Nat) : List Nat :=
  [(0, 0), (1, 61), (2, 63), (3, 27), (3, 64), (3, 65), (3, 66), (3, 67), (3, 68), (3, 69), (4, 70),
    (4, 71), (5, 73), (5, 74), (5, 75)].filterMap fun place => if place.1 ≤ k then some place.2 else none

/-- The words that may follow it there. -/
def rankNexts (k : Nat) : List Terminal :=
  .semicolon :: (Label.binary.filter fun l => l.leftRank ≤ k).map Label.sign

/-- The place of what binds so tightly. -/
def rankPlace : Place := fun c states nexts => (List.range 6).all fun k =>
  c = .ranked k → states.all (rankStates k).contains && nexts.all (rankNexts k).contains

theorem rankStates_mono {j k s : Nat} (less : k ≤ j) (member : s ∈ rankStates k) : s ∈ rankStates j := by
  obtain ⟨place, listed, here⟩ := List.mem_filterMap.mp member
  refine List.mem_filterMap.mpr ⟨place, listed, ?_⟩
  split at here
  next low => rw [if_pos (low.trans less), here]
  next => cases here

theorem rankNexts_mono {j k : Nat} (less : k ≤ j) (member : n ∈ rankNexts k) : n ∈ rankNexts j := by
  rcases List.mem_cons.mp member with rfl | member
  · exact List.mem_cons_self
  · obtain ⟨l, here, rfl⟩ := List.mem_map.mp member
    obtain ⟨binary, low⟩ := List.mem_filter.mp here
    refine List.mem_cons_of_mem _ (List.mem_map_of_mem (List.mem_filter.mpr ⟨binary, ?_⟩))
    simp only [decide_eq_true_eq] at low ⊢
    exact low.trans less

theorem sign_mem_rankNexts {l : Label} (binary : l ∈ Label.binary) {k : Nat} (low : l.leftRank ≤ k) :
    l.sign ∈ rankNexts k :=
  List.mem_cons_of_mem _ (List.mem_map_of_mem (List.mem_filter.mpr ⟨binary, by simpa using low⟩))

theorem rankPlace_ranked {k : Nat} (low : k < 6) {states : List Nat} {nexts : List Terminal}
    (placed : rankPlace (.ranked k) states nexts) {s : Nat} (member : s ∈ states) (here : n ∈ nexts) :
    s ∈ rankStates k ∧ n ∈ rankNexts k := by
  have at_k := List.all_eq_true.mp placed k (List.mem_range.mpr low)
  simp only [decide_eq_true_eq, forall_const, Bool.and_eq_true, List.all_eq_true,
    List.contains_iff_mem] at at_k
  exact ⟨at_k.1 s member, at_k.2 n here⟩

theorem operators_ranked : ∀ l ∈ Label.binary, ∃ i ∈ operators, production? i = some ⟨.ranked l.rank,
      [.part (.ranked l.leftRank), .word l.sign, .part (.ranked (l.rank + 1))], .node l⟩ ∧
    readable rankPlace (rankStates l.rank) i (rankNexts l.rank) := by decide +kernel

theorem climbs_ranked : ∀ k < 5, ∀ s ∈ rankStates k, ∀ n ∈ rankNexts k,
    climbs s n (.ranked k) 1 (.ranked (k + 1)) := by decide +kernel

theorem operandAt_ranked : operandAt (rankStates 5) (rankNexts 5) := by decide +kernel

/-- What binds more tightly stands for what binds less tightly. -/
theorem leads_ranked {j k s : Nat} (less : k ≤ j) (low : j ≤ 5) (member : s ∈ rankStates k)
    (here : n ∈ rankNexts k) {words : List Word} {ts : List Tree}
    (leads : Leads s words n [.of (.ranked j) ts]) : Leads s words n [.of (.ranked k) ts] := by
  induction j with
  | zero =>
    obtain rfl := Nat.le_zero.mp less
    exact leads
  | succ j ih =>
    by_cases same : k = j + 1
    · exact same ▸ leads
    · have less : k ≤ j := by omega
      have climbs := climbs_ranked j (by omega) s (rankStates_mono less member) n
        (rankNexts_mono less here)
      exact ih less (by omega) (leads_climb climbs leads)

end Table

theorem Category.firsts_ranked (k : Nat) : (Category.ranked k).firsts = Category.firsts .atom := by
  unfold ranked
  split <;> rfl

theorem Makes.leads_ranked {us : List Word} {ts : List Tree} (makes : Makes .atom us ts) {k s : Nat}
    (low : k ≤ 5) (member : s ∈ Table.rankStates k) (here : n ∈ Table.rankNexts k) :
    Leads s us n [.of (.ranked k) ts] :=
  Table.leads_ranked low (Nat.le_refl 5) member here (makes.leads 1 _ _ s n Table.operandAt_ranked
    (Table.rankStates_mono low member) (Table.rankNexts_mono low here))

/-- A whole expression before a semicolon is a statement. -/
theorem Leads.statement {words : List Word} {ts : List Tree} (starts : Starts .expr words)
    (leads : Leads 0 words .semicolon [.of (.ranked 0) ts]) :
    Leads 0 (words ++ [.of .semicolon]) .endOfText [.of .stmts [.node .expression none ts]] := by
  have whole : Leads 0 words .semicolon [.of .expr ts] :=
    Table.leads_climb (n := 1) (by decide +kernel) leads
  let place : Place := fun c states nexts =>
    if c = .expr then states = [0] && nexts = [.semicolon] else Table.placeAt 2 c states nexts
  have readable : Table.readable place [0] 14 [.endOfText] := by decide +kernel
  have contents : Contents place [.endOfText] [.part .expr, .part .semicolons]
      (words ++ ([.of .semicolon] ++ [])) [.of .expr ts, .of .semicolons []] := by
    refine .part starts (fun states s n placed member here => ?_) (.part Makes.semicolons.starts
      (fun states s n placed => Makes.semicolons.leads 2 states _ s n placed) .nil)
    obtain ⟨rfl, -⟩ : states = [0] ∧ _ := by simpa [place] using placed
    obtain rfl := List.mem_singleton.mp member
    obtain rfl := List.mem_singleton.mp here
    exact whole
  have made := Table.leads_readable readable rfl contents (List.mem_singleton_self 0)
    (List.mem_singleton_self _)
  have climbs : Table.climbs 0 .endOfText .stmts 2 .exprStmt := by decide +kernel
  exact Table.leads_climb climbs (by simpa [Shape.left, Item.of] using made)

/-- A text that is read is answered word by word. -/
theorem Reads.feedAll {cursor : Cursor} {tree : Tree} (reads : Reads stack cursor tree) :
    ∃ stack', Parser.feedAll (Parser.words stack cursor) stack = some stack' ∧
      Parser.feed Parser.ending stack' = .complete tree := by
  induction reads with
  | done empty complete =>
    rw [Parser.words_done empty]
    exact ⟨_, rfl, complete⟩
  | word next taken _ ih =>
    rw [Parser.words_word next taken, Parser.feedAll, taken]
    exact ih

theorem Operand.makes (o : Operand) : Makes .atom o.words [o.tree] := by
  obtain ⟨words, tree, isOperand⟩ := o
  cases isOperand with
  | number valid => exact .atom (i := 58) rfl (.word valid .nil)
  | name valid => exact .name valid
  | parens valid paired words parsed alone =>
    obtain ⟨stack, fed, complete⟩ := (parse_iff.mp parsed).feedAll
    obtain ⟨trees, makes⟩ := Makes.alone valid paired words fed
    have leads := makes.leads_ranked (k := 0) (Nat.zero_le 5) (s := 0) (by decide) (n := .semicolon) (by decide)
    obtain ⟨stack', tree', fed', complete', bare⟩ := (leads.statement makes.starts).complete words
    -- The tree is the one that was read alone.
    obtain rfl := Option.some.inj (fed.symm.trans fed')
    obtain rfl := Parser.Answer.complete.inj (complete.symm.trans complete')
    rw [alone, Tree.lone] at bare
    obtain rfl : [tree] = trees := by simpa using bare
    exact makes

/-- Operands joined by operators that bind at least as tightly as a rank says, with their tree: an
operator joins what binds more tightly, and on its left also what binds as tightly, if it is no
comparison. -/
inductive Joined : Nat → List Word → Tree → Prop
  | operand {k : Nat} {us : List Word} {t : Tree} (makes : Makes .atom us [t]) (low : k ≤ 5) :
      Joined k us t
  | join {k : Nat} {l : Label} {us ws : List Word} {t u : Tree} (binary : l ∈ Label.binary)
      (tight : k ≤ l.rank) (left : Joined l.leftRank us t) (right : Joined (l.rank + 1) ws u) :
      Joined k (us ++ .of l.sign :: ws) (.node l none [t, u])

namespace Joined

variable {k : Nat} {words : List Word} {t : Tree}

theorem starts (joined : Joined k words t) (j : Nat) : Starts (.ranked j) words := by
  rw [Starts, Category.firsts_ranked]
  induction joined with
  | operand makes => exact makes.starts
  | @join k l us ws t u _ _ _ _ ih _ =>
    obtain ⟨w, us, rfl, member⟩ := ih
    exact ⟨w, us ++ .of l.sign :: ws, List.cons_append, member⟩

/-- What is joined as its operators bind is read so. -/
theorem leads (joined : Joined k words t) {s : Nat} (member : s ∈ Table.rankStates k)
    (here : n ∈ Table.rankNexts k) : Leads s words n [.of (.ranked k) [t]] := by
  induction joined generalizing s n with
  | operand makes low => exact makes.leads_ranked low member here
  | @join k l us ws t u binary tight left right ih ih' =>
    obtain ⟨_, -, _, _, _, -, -, -, mark, trees⟩ := Label.exists_operator binary
    obtain ⟨i, -, found, readable⟩ := Table.operators_ranked l binary
    have low : l.leftRank < 5 ∧ l.rank < 5 := by
      have checked : ∀ l ∈ Label.binary, l.leftRank < 5 ∧ l.rank < 5 := by decide
      exact checked l binary
    have contents : Contents Table.rankPlace (Table.rankNexts l.rank)
        [.part (.ranked l.leftRank), .word l.sign, .part (.ranked (l.rank + 1))]
        (us ++ .of l.sign :: (ws ++ []))
        [.of (.ranked l.leftRank) [t], .ofWord (.of l.sign), .of (.ranked (l.rank + 1)) [u]] := by
      refine .part (left.starts _) (fun states s n placed member here => ?_)
        (.word (Word.of_valid mark) (.part (right.starts _)
          (fun states s n placed member here => ?_) .nil))
      · obtain ⟨member, here⟩ := Table.rankPlace_ranked (by omega) placed member here
        exact ih member here
      · obtain ⟨member, here⟩ := Table.rankPlace_ranked (by omega) placed member here
        exact ih' member here
    have made := Table.leads_readable readable found contents (Table.rankStates_mono tight member)
      (Table.rankNexts_mono tight here)
    refine Table.leads_ranked tight (by omega) member here ?_
    simpa [Shape.left, trees, Item.of] using made

end Joined

namespace Grouping

theorem joined {g : Grouping} (binds : g.Binds) {k : Nat} (tight : k ≤ g.rank) :
    Joined k g.words g.tree := by
  induction g generalizing k with
  | operand o => exact .operand o.makes tight
  | join l left right ih ih' =>
    obtain ⟨binary, binds, binds', tight', tight''⟩ := binds
    exact .join binary tight (ih binds tight') (ih' binds' tight'')

theorem starts (g : Grouping) : Starts .atom g.words := by
  induction g with
  | operand o => exact o.makes.starts
  | join l left right ih _ =>
    obtain ⟨w, ws, words, member⟩ := ih
    exact ⟨w, ws ++ .of l.sign :: right.words, by rw [Grouping.words, words, List.cons_append], member⟩

/-- What is grouped as its operators bind is read so. -/
theorem leads (binds : g.Binds) {k s : Nat} (tight : k ≤ g.rank) (member : s ∈ Table.rankStates k)
    (here : n ∈ Table.rankNexts k) :
    Leads s g.words n [.of (.ranked k) [g.tree]] := (joined binds tight).leads member here

/-- Whether a comparison stands behind the last logical operator. -/
def compares : Grouping → Bool
  | operand _ => false
  | join l _ right => if l.isLogical then right.compares else l.isComparison

end Grouping

/-! ### A second comparison -/

namespace Table

/-- The states behind a comparison with both its operands. -/
def compared : List Nat := [103, 104, 105, 106, 107, 108]

theorem through_ranked : ∀ l ∈ Label.binary, l.rank ≤ 2 → ∀ s ∈ rankStates l.rank,
    ∃ q ∈ rankStates (l.rank + 1), through s [.part (.ranked l.leftRank), .word l.sign] = some q ∧
      (l.isComparison → ∃ q' ∈ compared, through q [.part .sum] = some q') := by decide +kernel

theorem action_compared : ∀ q ∈ compared, (row q).action .plus = some (.shift 70) ∧
    ∀ l ∈ Label.binary, l.isComparison → (row q).action l.sign = none := by decide +kernel

/-- Where a sum can go on behind a word, a comparison can stand. -/
theorem accepts_comparison {q state : Nat} {t : Terminal}
    (shift : (row q).action t = some (.shift state)) (more : (row state).accepts .plus) {l : Label}
    (binary : l ∈ Label.binary) (comparison : l.isComparison) : (row state).accepts l.sign := by
  have checked : ∀ q < 158, (row q).shifts.all fun e => (row e.2).accepts .plus →
      ∀ l ∈ Label.binary, l.isComparison → (row e.2).accepts l.sign := by decide +kernel
  have at_q := List.all_eq_true.mp (checked q (Parser.row_lt shift))
  rw [Row.action] at shift
  split at shift
  next e found =>
    obtain rfl : e.2 = state := by simpa using shift
    exact of_decide_eq_true (at_q e (List.mem_of_find?_eq_some found)) more l binary comparison
  next => simp at shift

end Table

/-- A sum that is compared with another can go on, but it cannot be compared again. -/
theorem Grouping.leads_compared (binds : g.Binds) (compares : g.compares) {k s : Nat}
    (tight : k ≤ g.rank) (member : s ∈ Table.rankStates k) (here : n ∈ Table.rankNexts 3) :
    ∃ items, Leads s g.words n items ∧
      ∃ q ∈ Table.compared, Table.through s (items.map (·.symbol)) = some q := by
  induction g generalizing k s with
  | operand o => cases compares
  | join l left right ih ih' =>
    obtain ⟨binary, binds, binds', tight', tight''⟩ := binds
    have tight : k ≤ l.rank := tight
    have low : l.rank ≤ 2 := by
      by_cases logical : l.rank < 2
      · omega
      · have rank : l.rank = 2 := by
          simpa [Grouping.compares, Label.isLogical, Label.isComparison, logical] using compares
        omega
    have least : l.rank ≤ l.leftRank := by
      rw [Label.leftRank]
      split <;> omega
    obtain ⟨_, -, _, _, _, -, -, -, mark, -⟩ := Label.exists_operator binary
    obtain ⟨q, member', through, sum⟩ :=
      Table.through_ranked l binary low s (Table.rankStates_mono tight member)
    have front : ∀ n, Leads s (left.words ++ [.of l.sign]) n
        ([.of (.ranked l.leftRank) [left.tree]] ++ [.ofWord (.of l.sign)]) := by
      intro n
      refine Leads.append (Grouping.leads binds tight'
        (Table.rankStates_mono (tight.trans least) member)
        (Table.sign_mem_rankNexts binary (Nat.le_refl _))) fun q₁ reached => ?_
      refine Leads.word (Word.of_valid mark) (q := q) ?_ n
      have onward := Table.through_append s [.part (.ranked l.leftRank)] [.word l.sign]
      have reached : Table.through s [.part (.ranked l.leftRank)] = some q₁ := reached
      rw [List.singleton_append, through, reached] at onward
      simpa [Table.through, Word.of] using onward.symm
    -- Behind a logical operator the comparison is further to the right.
    obtain ⟨items, later, q', compared, reached⟩ : ∃ items, Leads q right.words n items ∧
        ∃ q' ∈ Table.compared, Table.through q (items.map (·.symbol)) = some q' := by
      by_cases logical : l.isLogical
      · exact ih' binds' (by simpa [Grouping.compares, logical] using compares) tight'' member'
      · have comparison : l.isComparison := by simpa [Grouping.compares, logical] using compares
        have rank : l.rank = 2 := by simpa [Label.isComparison] using comparison
        rw [rank] at member' tight''
        obtain ⟨q', compared, reached⟩ := sum comparison
        exact ⟨_, Grouping.leads binds' tight'' member' here, q', compared, reached⟩
    refine ⟨[.of (.ranked l.leftRank) [left.tree]] ++ [.ofWord (.of l.sign)] ++ items, ?_, q',
      compared, ?_⟩
    · rw [Grouping.words, List.append_cons]
      refine (front _).append fun q₁ reached => ?_
      rw [List.map_append, List.map_singleton, List.map_singleton, List.singleton_append] at reached
      obtain rfl := Option.some.inj (through.symm.trans reached)
      exact later
    · rw [List.map_append, Table.through_append]
      change (Table.through s [.part (.ranked l.leftRank), .word l.sign]).bind _ = _
      rw [through, Option.bind_some, reached]

/-- Of a text that is read, words that can be answered are answered, and then the next word, if it is
acceptable. -/
theorem Placed.takes {us ws : List Word} {w : Word} {cs : List Char}
    (placed : Placed (us ++ w :: ws) cs) (valid : ∀ u ∈ us, u.Valid) (valid' : w.Valid)
    {p : Position} {tree : Tree} (reads : Reads stack ⟨p, cs⟩ tree)
    (can : ∀ tokens : List Token, tokens.map Token.word = us → (Parser.feedAll tokens stack).isSome) :
    ∃ tokens stack', tokens.map Token.word = us ∧ Parser.feedAll tokens stack = some stack' ∧
      ((Table.row stack'.state).accepts w.2 →
        ∃ t stack'', t.word = w ∧ Parser.feed t stack' = .taken stack'') := by
  induction us generalizing cs p stack with
  | nil =>
    refine ⟨[], stack, rfl, rfl, fun acceptable => ?_⟩
    cases placed with
    | word between ends later =>
      have next := Scanner.ahead_word valid' acceptable between ends p
      cases reads with
      | done empty => cases next.symm.trans empty
      | word next' taken =>
        cases next.symm.trans next'
        exact ⟨_, _, rfl, taken⟩
  | cons u us ih =>
    obtain ⟨first, others⟩ := List.forall_mem_cons.mp valid
    cases placed with
    | @word gap rest _ _ between ends later =>
      let t : Token := ⟨u.2, u.1, ⟨p.after gap, (p.after gap).after u.1.toList⟩⟩
      have can : ∀ tokens : List Token, tokens.map Token.word = us →
          (Parser.feedAll (t :: tokens) stack).isSome :=
        fun tokens same => can (t :: tokens) (by rw [List.map_cons, same]; rfl)
      obtain ⟨stack₁, taken⟩ : ∃ stack₁, Parser.feed t stack = .taken stack₁ := by
        have some := can (us.map fun u => ⟨u.2, u.1, default⟩) (by simp [Token.word, Function.comp_def])
        rw [Parser.feedAll] at some
        split at some
        next stack₁ taken => exact ⟨stack₁, taken⟩
        next => cases some
      simp only [Parser.feedAll, taken] at can
      have next := Scanner.ahead_word first (Parser.accepts_of_feed taken) between ends p
      cases reads with
      | done empty => cases next.symm.trans empty
      | word next' taken' reads' =>
        cases next.symm.trans next'
        obtain rfl := Parser.Answer.taken.inj (taken.symm.trans taken')
        obtain ⟨tokens, stack', same, fed, onward⟩ := ih later others reads' can
        refine ⟨t :: tokens, stack', by rw [List.map_cons, same]; rfl, ?_, onward⟩
        rw [Parser.feedAll, taken]
        exact fed

/-- The last word that was answered led to the state. -/
theorem Parser.feedAll_state {tokens : List Token} {stack' : Stack} (nonempty : tokens ≠ [])
    (fed : feedAll tokens stack = some stack') :
    ∃ q t, (Table.row q).action t = some (.shift stack'.state) := by
  induction tokens generalizing stack with
  | nil => exact absurd rfl nonempty
  | cons t tokens ih =>
    rw [feedAll] at fed
    split at fed
    next stack₁ taken =>
      cases tokens with
      | nil =>
        cases fed
        obtain ⟨q, state, below, action, rfl⟩ := feed_taken taken
        exact ⟨q, _, action⟩
      | cons t' tokens => exact ih (List.cons_ne_nil _ _) fed
    next => cases fed

/-- No text has a second comparison behind the last logical operator. -/
theorem Grouping.refused (binds : g.Binds) (compares : g.compares) {l : Label}
    (binary : l ∈ Label.binary) (comparison : l.isComparison) {ws : List Word} {source : String}
    (placed : Placed (g.words ++ .of l.sign :: ws) source.toList) {tree : Tree} :
    parse source ≠ .ok tree := by
  intro parsed
  obtain ⟨_, -, _, _, _, -, -, -, mark, -⟩ := Label.exists_operator binary
  have least : l.leftRank = 3 := by
    have rank : l.rank = 2 := by simpa [Label.isComparison] using comparison
    rw [Label.leftRank, if_pos comparison, rank]
  have leads : ∀ n ∈ Table.rankNexts 3, ∃ items, Leads 0 g.words n items ∧
      ∃ q ∈ Table.compared, Table.through 0 (items.map (·.symbol)) = some q :=
    fun n here => Grouping.leads_compared binds compares (Nat.zero_le _) (by decide) here
  obtain ⟨_, goes, q', compared', through'⟩ := leads .plus (by decide)
  obtain ⟨_, stops, q, compared, through⟩ :=
    leads l.sign (Table.sign_mem_rankNexts binary (Nat.le_of_eq least))
  obtain ⟨tokens, stack, same, fed, onward⟩ :=
    placed.takes stops.valid (Word.of_valid mark) (parse_iff.mp parsed) fun tokens same => by
      obtain ⟨_, _, -, -, fed, -⟩ := stops.leads [] tokens rfl same
      simp [fed]
  obtain ⟨top, _, -, state, fed₁, answered⟩ := stops.leads [] tokens rfl same
  obtain ⟨top', _, -, state', fed₂, answered'⟩ := goes.leads [] tokens rfl same
  obtain rfl := Option.some.inj (fed.symm.trans fed₁)
  obtain rfl := Option.some.inj (fed.symm.trans fed₂)
  have more : (Table.row stack.state).accepts .plus := by
    obtain rfl := Option.some.inj (through'.symm.trans state')
    have shift := (Table.action_compared _ compared').1
    have taken := Parser.feed_shift (t := ⟨.plus, "+", default⟩) (Parser.complete?_of_ne (by decide) _) shift
    rw [← answered' _ rfl] at taken
    exact Parser.accepts_of_feed taken
  have some : tokens ≠ [] := by
    rintro rfl
    obtain ⟨w, ws, words, -⟩ := g.starts
    rw [words] at same
    cases same
  obtain ⟨_, _, shift⟩ := Parser.feedAll_state some fed
  obtain ⟨t, _, word, taken⟩ := onward (Table.accepts_comparison shift more binary comparison)
  have terminal : t.terminal = l.sign := congrArg Prod.snd word
  rw [answered t terminal] at taken
  have accepts := Parser.accepts_of_feed taken
  obtain rfl := Option.some.inj (through.symm.trans state)
  rw [terminal, Row.accepts, (Table.action_compared _ compared).2 l binary comparison] at accepts
  cases accepts

/-! ### Grouping a chain -/

namespace Grouping

/-- One more operator and operand behind the others: it takes from the right what binds at least as
tightly. -/
def extend (l : Label) (o : Operand) : Grouping → Grouping
  | operand p => join l (operand p) (operand o)
  | join m left right =>
    if m.rank < l.rank then join m left (right.extend l o)
    else join l (join m left right) (operand o)

variable {l : Label} (o : Operand)

theorem flat_extend (g : Grouping) : (g.extend l o).flat = (g.flat.1, g.flat.2 ++ [(l, o)]) := by
  induction g with
  | operand p => rfl
  | join m left right _ ih =>
    rw [extend]
    split
    · simp [flat, ih]
    · simp [flat]

theorem rank_extend (binary : l ∈ Label.binary) (g : Grouping) :
    (g.extend l o).rank = min g.rank l.rank := by
  have low : ∀ l ∈ Label.binary, l.rank < 5 := by decide
  have := low l binary
  cases g with
  | operand p => simp only [extend, rank]; omega
  | join m left right =>
    rw [extend]
    split <;> simp only [rank] <;> omega

theorem compares_extend (g : Grouping) : (g.extend l o).compares =
    if l.isLogical then false else if l.isComparison then true else g.compares := by
  induction g with
  | operand p => simp [extend, compares]
  | join m left right _ ih =>
    rw [extend]
    split
    · simp only [compares, ih]
      grind [Label.isLogical, Label.isComparison]
    · simp only [compares]
      grind [Label.isLogical, Label.isComparison]

theorem binds_extend (binary : l ∈ Label.binary) (binds : g.Binds)
    (separate : l.isComparison → g.compares = false) : (g.extend l o).Binds := by
  have low : ∀ l ∈ Label.binary, l.rank < 5 ∧ l.leftRank ≤ 5 := by decide
  obtain ⟨rank_lt, least⟩ := low l binary
  induction g with
  | operand p => exact ⟨binary, trivial, trivial, least, rank_lt⟩
  | join m left right _ ih =>
    obtain ⟨binary', binds, binds', tight, tight'⟩ := binds
    rw [extend]
    split
    next less =>
      refine ⟨binary', binds, ih binds' (fun comparison => ?_), tight, ?_⟩
      · have logical : m.isLogical := by
          simp only [Label.isComparison, Label.isLogical, decide_eq_true_eq] at comparison ⊢
          omega
        simpa [compares, logical] using separate comparison
      · rw [rank_extend o binary]
        exact Nat.lt_min.mpr ⟨tight', less⟩
    next less =>
      refine ⟨binary, ⟨binary', binds, binds', tight, tight'⟩, trivial, ?_, rank_lt⟩
      rw [Label.leftRank, rank]
      split
      next comparison =>
        have none := separate comparison
        simp only [compares, Label.isLogical, Label.isComparison] at none comparison
        grind
      next => omega

end Grouping

/-- Whether operators have no second comparison before the next logical operator, where one may have
come already. -/
def Label.separate : Bool → List Label → Bool
  | _, [] => true
  | seen, l :: rest =>
    if l.isLogical then separate false rest
    else if l.isComparison then !seen && separate true rest
    else separate seen rest

theorem Label.separate_iff (seen : Bool) (labels : List Label) : separate seen labels ↔
    ∀ first others, labels.splitOnP isLogical = first :: others →
      seen.toNat + first.countP isComparison ≤ 1 ∧ ∀ stretch ∈ others, stretch.countP isComparison ≤ 1 := by
  induction labels generalizing seen with
  | nil => cases seen <;> simp [separate]
  | cons l rest ih =>
    obtain ⟨first, others, split⟩ := List.exists_cons_of_ne_nil (List.splitOnP_ne_nil isLogical rest)
    simp only [split, List.cons.injEq, and_imp] at ih
    rw [List.splitOnP_cons_eq_if_modifyHead, split, separate]
    by_cases logical : l.isLogical
    · cases seen <;> simp [logical, ih]
    · by_cases comparison : l.isComparison
      · cases seen <;> simp [logical, comparison, ih, Nat.add_comm 1]
      · cases seen <;> simp [logical, comparison, ih]

/-- A chain is grouped operator by operator, up to a second comparison. -/
theorem Grouping.exists_chain {rest : List (Label × Operand)}
    (binary : ∀ part ∈ rest, part.1 ∈ Label.binary) (binds : g.Binds) :
    if Label.separate g.compares (rest.map (·.1)) then
      ∃ g' : Grouping, g'.flat = (g.flat.1, g.flat.2 ++ rest) ∧ g'.Binds
    else ∃ (g' : Grouping) (l : Label) (o : Operand) (more : List (Label × Operand)),
      (g'.flat.1, g'.flat.2 ++ (l, o) :: more) = (g.flat.1, g.flat.2 ++ rest) ∧ g'.Binds ∧
        g'.compares ∧ l ∈ Label.binary ∧ l.isComparison := by
  induction rest generalizing g with
  | nil => exact ⟨g, by simp, binds⟩
  | cons part rest ih =>
    obtain ⟨l, o⟩ := part
    obtain ⟨here, later⟩ := List.forall_mem_cons.mp binary
    by_cases second : l.isComparison ∧ g.compares
    · obtain ⟨comparison, compares⟩ := second
      have logical : l.isLogical = false := by
        simp only [Label.isComparison, Label.isLogical, decide_eq_true_eq, decide_eq_false_iff_not] at *
        omega
      simp only [List.map_cons, Label.separate, logical, comparison, compares]
      exact ⟨g, l, o, rest, rfl, binds, compares, here, comparison⟩
    · have separate : l.isComparison → g.compares = false := by simpa using second
      have onward := ih later (Grouping.binds_extend o here binds separate)
      have same : Label.separate (g.extend l o).compares (rest.map (·.1)) =
          Label.separate g.compares (l :: rest.map (·.1)) := by
        rw [Grouping.compares_extend, Label.separate]
        grind
      rw [same, Grouping.flat_extend, List.append_assoc] at onward
      exact onward

/-- What is grouped as its operators bind is what the text is read as. -/
theorem Grouping.parse (binds : g.Binds) {source : String}
    (placed : Placed (g.words ++ [.of .semicolon]) source.toList) :
    ∃ tree, Syntax.parse source = .ok tree ∧ tree.bare = g.tree.lone := by
  have leads : Leads 0 g.words .semicolon [.of (.ranked 0) [g.tree]] :=
    Grouping.leads binds (Nat.zero_le _) (by decide) (by decide)
  exact (leads.statement g.starts).parse placed

/-- Operands joined by binary operators are read as an expression exactly if no two comparisons stand
together without a logical operator between them. They can then be grouped as the operators bind,
and whoever groups them so has the tree that is read. -/
theorem parse_chain (c : Chain) {source : String}
    (placed : Placed (c.words ++ [.of .semicolon]) source.toList) :
    ((∃ tree, parse source = .ok tree) ↔ c.Separate) ∧
      (c.Separate → ∃ g : Grouping, g.flat = (c.first, c.rest) ∧ g.Binds) ∧
      ∀ g : Grouping, g.flat = (c.first, c.rest) → g.Binds →
        ∃ tree, parse source = .ok tree ∧ tree.bare = g.tree.lone := by
  have words : ∀ {g : Grouping}, g.flat = (c.first, c.rest) → g.words = c.words := by
    intro g flat
    rw [g.words_flat, flat]
    rfl
  have separate : Label.separate (Grouping.operand c.first).compares (c.rest.map (·.1)) ↔ c.Separate := by
    obtain ⟨first, others, split⟩ :=
      List.exists_cons_of_ne_nil (List.splitOnP_ne_nil Label.isLogical (c.rest.map (·.1)))
    rw [Label.separate_iff, Chain.Separate, split]
    simp [Grouping.compares]
  have grouped := Grouping.exists_chain (g := .operand c.first) c.binary trivial
  have groups : c.Separate → ∃ g : Grouping, g.flat = (c.first, c.rest) ∧ g.Binds := by
    intro holds
    rwa [if_pos (separate.mpr holds)] at grouped
  have read : ∀ g : Grouping, g.flat = (c.first, c.rest) → g.Binds →
      ∃ tree, parse source = .ok tree ∧ tree.bare = g.tree.lone :=
    fun g flat binds => Grouping.parse binds (words flat ▸ placed)
  refine ⟨⟨?_, ?_⟩, groups, read⟩
  · rintro ⟨tree, parsed⟩
    by_contra joined
    rw [← separate] at joined
    rw [if_neg joined] at grouped
    obtain ⟨g, l, o, more, flat, binds, compares, binary, comparison⟩ := grouped
    obtain ⟨first, rest⟩ := Prod.mk.inj flat
    have front : c.words ++ [.of .semicolon] = g.words ++ .of l.sign :: (o.words ++
        (more.flatMap fun part => .of part.1.sign :: part.2.words) ++ [.of .semicolon]) := by
      have rest : g.flat.2 ++ (l, o) :: more = c.rest := rest
      have first : g.flat.1 = c.first := first
      rw [Chain.words, ← rest, ← first, g.words_flat]
      simp
    exact Grouping.refused binds compares binary comparison (front ▸ placed) parsed
  · intro holds
    obtain ⟨g, flat, binds⟩ := groups holds
    obtain ⟨tree, parsed, -⟩ := read g flat binds
    exact ⟨tree, parsed⟩

/-- Operators of two ranks, one of them twice, and an operand in parentheses. -/
theorem parse_chain_difference :
    ∃ tree, parse "1-x - ( x ) * 1 ; " = .ok tree ∧ tree.bare =
      Tree.lone (.node .subtract none [.node .subtract none
        [.node .number none [.leaf ⟨.number, "1", none⟩], .node .var none [.leaf ⟨.name, "x", none⟩]],
        .node .multiply none [.node .var none [.leaf ⟨.name, "x", none⟩],
          .node .number none [.leaf ⟨.number, "1", none⟩]]]) := by
  have digit : NumberText (['1'] ++ []) :=
    .whole (List.cons_ne_nil _ _) (List.forall_mem_singleton.mpr (by decide)) .none
  have x : Word.Valid ("x", .name) := ⟨.name (c := 'x') (by decide) (by simp), fun _ => by decide⟩
  have paired : Word.paired [("x", .name)] :=
    ⟨fun front start => start.sublist.countP_le.trans (Nat.zero_le _), rfl⟩
  have enclosed : IsOperand (Word.parens [("x", .name)]) (.node .var none [.leaf ⟨.name, "x", none⟩]) := by
    have makes := ((Makes.name x).operand (.inl rfl)).parenthesised
    have leads := makes.leads_ranked (Nat.zero_le 5) (s := 0) (n := .semicolon) (by decide) (by decide)
    obtain ⟨tree, parsed, bare⟩ := (leads.statement makes.starts).parse (laid_text _).placed
    exact .parens (List.forall_mem_singleton.mpr x) paired (by decide +kernel) parsed bare
  let one : Operand := ⟨_, _, @IsOperand.number "1" ⟨.number digit, by simp⟩⟩
  let name : Operand := ⟨_, _, .name x⟩
  let other : Operand := ⟨_, _, enclosed⟩
  let c : Chain := ⟨one, [(.subtract, name), (.subtract, other), (.multiply, one)], by
    simp [Label.binary]⟩
  have placed : Placed (c.words ++ [.of .semicolon]) "1-x - ( x ) * 1 ; ".toList := by
    let words : List Word := [("x", .name), .of .minus, .of .leftParen, ("x", .name), .of .rightParen,
      .of .times, ("1", .number), .of .semicolon]
    have laid := laid_text words
    rw [Word.text, String.toList_ofList] at laid
    have text : "1-x - ( x ) * 1 ; ".toList = "1".toList ++ ((Word.of .minus).1.toList ++
        words.flatMap fun w => w.1.toList ++ [' ']) := by decide +kernel
    rw [text]
    change Placed (("1", .number) :: .of .minus :: words) _
    have ends : ∀ {t : Terminal} {cs rest : List Char} {c : Char}, rest.head? = some c →
        Scanner.endsAt t cs c → ∀ d ∈ rest.head?, Scanner.endsAt t cs d := by
      intro t cs rest c first stop d next
      rwa [← Option.some.inj (first.symm.trans next)]
    exact .word .nil (ends (c := '-') (by decide +kernel) (by decide +kernel))
      (.word .nil (ends (c := 'x') (by decide +kernel) (by decide +kernel)) laid.placed)
  have binds : Grouping.Binds (.join .subtract (.join .subtract (.operand one) (.operand name))
      (.join .multiply (.operand other) (.operand one))) := by
    simp only [Grouping.Binds, Grouping.rank]
    decide
  exact (parse_chain c placed).2.2 _ rfl binds

end DeskScript.Syntax
