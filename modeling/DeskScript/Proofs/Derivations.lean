import DeskScript.Proofs.Rules
import DeskScript.Proofs.Spelling

/-!
# Parsed scripts are derivations

The tree of a parsed script is the tree of a derivation by the rules of the language, and the words
that it derives are the words of the script. The parser works with productions in which optional
parts are written out and repetitions recur on the left. Each production is accounted for by a rule:
its body can be cut up along the rule, and the way it shapes the tree is the rule's way. So every
part on the stack stands for a derivation of the words that it was folded from.
-/

namespace DeskScript.Syntax

variable {w : List Token} {h : List Tree} {symbols : List Symbol} {p : Production} {r : Rule} {t : Terminal}
  {φ : Phrase}

/-! ### Productions and rules -/

/-- The phrases that a category stands for. Only the category of all built-in calls has more than
one. -/
def Category.phrases : Category → List Phrase
  | .start => [.rule .start]
  | .program => [.rule .program]
  | .stmt => [.rule .stmt]
  | .importStmt => [.rule .importStmt]
  | .outerStmt => [.rule .outerStmt]
  | .assignStmt => [.rule .assignStmt]
  | .exprStmt => [.rule .exprStmt]
  | .controlStmt => [.rule .controlStmt]
  | .builtinCall => [.rule .builtinCalls]
  | .builtin => Builtin.all.map fun b => .rule (.builtin b)
  | .define => [.rule .funcDef]
  | .parameters => [.rule .params]
  | .block => [.rule .block]
  | .loop => [.rule .whileStmt]
  | .expr => [.rule .expr]
  | .choice => [.rule .conditional]
  | .disjunction => [.rule .logicalOr]
  | .conjunction => [.rule .logicalAnd]
  | .comparison => [.rule .comparison]
  | .sum => [.rule .sum]
  | .product => [.rule .product]
  | .atom => [.rule .atom]
  | .items => [.rule .listItems]
  | .call => [.rule .call]
  | .args => [.rule .args]
  | .stmts => [.several (.rule .stmt)]
  | .moreNames => [.several (.seq (.literal ",") (.leaf .name))]
  | .semicolons => [.several (.literal ";")]
  | .moreAtoms => [.several (.seq (.literal ",") (.rule .atom))]
  | .moreExprs => [.several (.seq (.literal ",") (.rule .expr))]

/-- The tree that a word leaves, if it leaves one. -/
def Token.leaves (t : Token) : List Tree :=
  match t.terminal.leafKind? with
  | some kind => [.leaf ⟨kind, t.text, some t.span⟩]
  | none => []

theorem Token.leaves_of_kept {t : Token} {kind : LeafKind} (kept : t.terminal.leafKind? = some kind) :
    t.leaves = [.leaf ⟨kind, t.text, some t.span⟩] := by
  simp [Token.leaves, kept]

theorem Token.leaves_of_spelled {t : Token} (spelled : (t.text, t.terminal) ∈ Terminal.spelled) :
    t.leaves = [] := by
  obtain ⟨name, number, string⟩ := Scanner.spelled_ordinary spelled
  cases terminal : t.terminal <;> simp_all [Token.leaves, Terminal.leafKind?]

/-- The words that a symbol stands for, and the trees that it leaves. -/
inductive Symbol.Derives : Symbol → List Token → List Tree → Prop
  | word {t : Token} (spells : t.terminal.Spells t.text.toList) :
      Symbol.Derives (.word t.terminal) [t] t.leaves
  | part {c : Category} {φ : Phrase} {words : List Token} {trees : List Tree}
      (among : φ ∈ c.phrases) (derives : Syntax.Derives φ words trees) :
      Symbol.Derives (.part c) words trees

/-- The words that several symbols stand for, and the trees that they leave. -/
inductive Yields : List Symbol → List Token → List Tree → Prop
  | nil : Yields [] [] []
  | cons {s : Symbol} {symbols : List Symbol} {u v : List Token} {f g : List Tree}
      (head : s.Derives u f) (tail : Yields symbols v g) : Yields (s :: symbols) (u ++ v) (f ++ g)

/-- The spelling of a terminal that has only one. -/
def Terminal.spelling? (t : Terminal) : Option String :=
  match Terminal.spelled.filter (·.2 = t) with
  | [w] => some w.1
  | _ => none

theorem Terminal.spelling?_eq {w : String} (one : t.spelling? = some w) {text : String}
    (spells : t.Spells text.toList) : text = w ∧ (text, t) ∈ Terminal.spelled := by
  unfold Terminal.spelling? at one
  split at one
  next v same =>
    obtain rfl : v.1 = w := by simpa using one
    have all : ∀ text, (text, t) ∈ Terminal.spelled ↔ (text, t) = v := by
      intro text
      rw [← List.mem_singleton, ← same, List.mem_filter]
      simp
    have here : v ∈ Terminal.spelled.filter (·.2 = t) := same ▸ List.mem_singleton_self v
    obtain ⟨member, rfl⟩ : v ∈ Terminal.spelled ∧ v.2 = t := by simpa using here
    obtain ⟨text', member', equal⟩ := @Scanner.spells_fixed v.1 v.2 member _ spells
    obtain rfl := String.toList_inj.mp equal
    exact ⟨congrArg Prod.fst ((all text).mp member'), member'⟩
  next => cases one

/-- What is left of a row of symbols behind a category that stands for a phrase. -/
def Phrase.behind (φ : Phrase) : List Symbol → List (List Symbol)
  | .part c :: rest => if c.phrases = [φ] then [rest] else []
  | _ => []

/-- What can be left of a row of symbols once a phrase has been cut off its front. -/
def Phrase.rests (φ : Phrase) (symbols : List Symbol) : List (List Symbol) :=
  φ.behind symbols ++
  match φ with
  | .nothing => [symbols]
  | .literal text =>
    match symbols with
    | .word t :: rest => if t.spelling? = some text then [rest] else []
    | _ => []
  | .leaf kind =>
    match symbols with
    | .word t :: rest => if t.leafKind? = some kind then [rest] else []
    | _ => []
  | .rule _ => []
  | .seq a b => (a.rests symbols).flatMap b.rests
  | .maybe a => symbols :: a.rests symbols
  | .many a => symbols :: (Phrase.several a).behind symbols

theorem Yields.word_cons
    (yields : Yields (.word t :: symbols) w h) :
    ∃ word v g, word.terminal = t ∧ t.Spells word.text.toList ∧ Yields symbols v g ∧
      w = [word] ++ v ∧ h = word.leaves ++ g := by
  cases yields with
  | cons head tail =>
    cases head with
    | word spells => exact ⟨_, _, _, rfl, spells, tail, rfl, rfl⟩

theorem Phrase.derives_of_behind {symbols rest : List Symbol} (left : rest ∈ φ.behind symbols)
    (yields : Yields symbols w h) :
    ∃ u v f g, Derives φ u f ∧ Yields rest v g ∧ w = u ++ v ∧ h = f ++ g := by
  cases yields with
  | nil => cases left
  | cons head tail =>
    cases head with
    | word => cases left
    | part among derives =>
      simp only [Phrase.behind] at left
      split at left
      next only =>
        obtain rfl := List.mem_singleton.mp left
        obtain rfl := List.mem_singleton.mp (only ▸ among)
        exact ⟨_, _, _, _, derives, tail, rfl, rfl⟩
      next => cases left

/-- What is cut off is derived by the phrase. -/
theorem Phrase.derives_of_rests {symbols rest : List Symbol} (left : rest ∈ φ.rests symbols)
    (yields : Yields symbols w h) :
    ∃ u v f g, Derives φ u f ∧ Yields rest v g ∧ w = u ++ v ∧ h = f ++ g := by
  induction φ generalizing symbols rest w h <;>
    rcases List.mem_append.mp left with whole | left <;>
    try exact derives_of_behind whole yields
  case nothing.inr =>
    obtain rfl := List.mem_singleton.mp left
    exact ⟨[], w, [], h, .nothing, yields, rfl, rfl⟩
  case literal.inr text =>
    split at left
    next t rest' =>
      split at left
      next one =>
        obtain rfl := List.mem_singleton.mp left
        obtain ⟨word, v, g, rfl, spells, tail, rfl, rfl⟩ := yields.word_cons
        obtain ⟨rfl, member⟩ := Terminal.spelling?_eq one spells
        rw [Token.leaves_of_spelled member]
        exact ⟨[word], v, [], g, .literal member, tail, rfl, rfl⟩
      next => cases left
    next => cases left
  case leaf.inr kind =>
    split at left
    next t rest' =>
      split at left
      next kept =>
        obtain rfl := List.mem_singleton.mp left
        obtain ⟨word, v, g, rfl, -, tail, rfl, rfl⟩ := yields.word_cons
        rw [Token.leaves_of_kept kept]
        exact ⟨[word], v, _, g, .leaf kept, tail, rfl, rfl⟩
      next => cases left
    next => cases left
  case rule.inr r => cases left
  case seq.inr a b ihA ihB _ =>
    obtain ⟨middle, leftA, leftB⟩ := List.mem_flatMap.mp left
    obtain ⟨u, _, f, _, first, between, rfl, rfl⟩ := ihA leftA yields
    obtain ⟨v, x, g, k, second, tail, rfl, rfl⟩ := ihB leftB between
    exact ⟨u ++ v, x, f ++ g, k, .seq first second, tail, by simp, by simp⟩
  case maybe.inr a ih _ =>
    rcases List.mem_cons.mp left with rfl | left
    · exact ⟨[], w, [], h, .absent, yields, rfl, rfl⟩
    · obtain ⟨u, v, f, g, part, tail, same⟩ := ih left yields
      exact ⟨u, v, f, g, .present part, tail, same⟩
  case many.inr a _ _ =>
    rcases List.mem_cons.mp left with rfl | left
    · exact ⟨[], w, [], h, .none, yields, rfl, rfl⟩
    · obtain ⟨u, v, f, g, part, tail, same⟩ := derives_of_behind left yields
      exact ⟨u, v, f, g, part.many_of_several, tail, same⟩

/-- A row of symbols that can be cut up along a phrase is derived by it. -/
theorem Phrase.derives_of_whole (whole : (φ.rests symbols).contains [])
    (yields : Yields symbols w h) : Derives φ w h := by
  obtain ⟨u, v, f, g, derives, tail, rfl, rfl⟩ := derives_of_rests (by simpa using whole) yields
  cases tail
  simpa using derives

/-- Whether a row of symbols follows a rule in one of the ways with a label, or without one. -/
def Rule.followed (r : Rule) (label : Option Label) (symbols : List Symbol) : Bool :=
  r.alternatives.any fun way => way.label = label && (way.body.rests symbols).contains []

theorem Rule.derives_of_followed {label : Option Label}
    (followed : r.followed label symbols)
    (yields : Yields symbols w h) :
    Derives (.rule r) w [r.tree label (Token.extent w) h] := by
  obtain ⟨way, among, holds⟩ := List.any_eq_true.mp followed
  obtain ⟨rfl, whole⟩ : way.label = label ∧ (way.body.rests symbols).contains [] := by
    simpa only [Bool.and_eq_true, decide_eq_true_eq] using holds
  exact .rule among (Phrase.derives_of_whole whole yields)

/-- Whether a row of symbols is one category, and a rule can be followed by each of its phrases. -/
def Rule.offered (r : Rule) : List Symbol → Bool
  | [.part c] => c.phrases.all fun φ => r.alternatives.contains ⟨φ, none⟩
  | _ => false

theorem Rule.derives_of_offered (offered : r.offered symbols)
    (yields : Yields symbols w h) :
    Derives (.rule r) w [r.tree none (Token.extent w) h] := by
  unfold Rule.offered at offered
  split at offered
  next c =>
    cases yields with
    | cons head tail =>
      cases tail
      cases head with
      | part among derives =>
        have way := List.all_eq_true.mp offered _ among
        rw [List.append_nil, List.append_nil]
        exact .rule (List.contains_iff_mem.mp way) derives
  next => cases offered

/-- Whether a symbol leaves nothing. -/
def Symbol.silent : Symbol → Bool
  | word t => t.leafKind?.isNone
  | part _ => false

/-- Whether a symbol leaves one tree since it stands for a rule. -/
def Symbol.single : Symbol → Bool
  | word _ => false
  | part c => match c.phrases with
    | [.rule _] => true
    | _ => false

/-- Whether a row of symbols leaves the tree of one rule, and nothing more. -/
def Symbol.leaveOne : List Symbol → Bool
  | [] => false
  | s :: symbols => if s.silent then leaveOne symbols else s.single && symbols.all silent

theorem Symbol.nil_of_silent {s : Symbol} (silent : s.silent)
    (derives : s.Derives w h) : h = [] := by
  cases derives with
  | @word t spells =>
    have none : t.terminal.leafKind? = none := by simpa [Symbol.silent] using silent
    simp [Token.leaves, none]
  | part => cases silent

theorem Yields.nil_of_silent
    (yields : Yields symbols w h) (silent : symbols.all Symbol.silent) : h = [] := by
  induction yields with
  | nil => rfl
  | cons head _ ih =>
    obtain ⟨here, later⟩ : _ ∧ _ := by simpa only [List.all_cons, Bool.and_eq_true] using silent
    rw [Symbol.nil_of_silent here head, ih later, List.nil_append]

theorem Yields.exists_of_leaveOne
    (yields : Yields symbols w h) (one : Symbol.leaveOne symbols) : ∃ t, h = [t] := by
  induction yields with
  | nil => cases one
  | @cons s symbols u v f g head tail ih =>
    simp only [Symbol.leaveOne] at one
    split at one
    next silent =>
      obtain ⟨t, rfl⟩ := ih one
      exact ⟨t, by rw [Symbol.nil_of_silent silent head, List.nil_append]⟩
    next =>
      obtain ⟨single, silent⟩ : s.single ∧ symbols.all Symbol.silent := by
        simpa only [Bool.and_eq_true] using one
      rw [tail.nil_of_silent silent, List.append_nil]
      cases head with
      | word => cases single
      | part among derives =>
        simp only [Symbol.single] at single
        split at single
        next r only =>
          obtain rfl := List.mem_singleton.mp (only ▸ among)
          exact derives.rule_tree
        next => cases single

/-- Whether a production is accounted for by a rule: its body follows the rule, and it shapes the
tree as the rule does. A production of a repetition is its part, or the repetition and its part; a
production of a built-in call has the arguments that the call takes. -/
def Production.accounted (p : Production) : Bool :=
  match p.shape, p.head.phrases with
  | .node l, [.rule r] => r.followed (some l) p.body ||
    (!r.inlined && r.label = l && (r.followed none p.body || r.offered p.body))
  | .pass, [.rule r] => r.inlined && r.followed none p.body && Symbol.leaveOne p.body
  | .pass, [.seq a (.many b)] => a = b &&
    ((a.rests p.body).contains [] || match p.body with
      | .part c :: rest => c = p.head && (a.rests rest).contains []
      | _ => false)
  | .call, _ => p.head = .builtin &&
    match p.body with
    | .word t :: rest => [Arguments.many, .one, .empty, .twoNames].any fun a =>
      t = Terminal.ofArguments a && ((Rule.arguments a).rests rest).contains []
    | _ => false
  | _, _ => false

theorem accounted_of_mem_grammar : ∀ p ∈ grammar, p.accounted := by decide

/-- The label that a production leaves on a built-in call. -/
def Label.ofCall (word : String) : Label :=
  ((Builtin.ofWord? word).map Label.builtin).getD (.other word)

theorem Label.ofCall_word (b : Builtin) : Label.ofCall b.word = .builtin b := by
  have known : ∀ b ∈ Builtin.all, Builtin.ofWord? b.word = some b := by decide
  rw [Label.ofCall, known b b.mem_all]
  rfl

/-- The words of a terminal of built-in calls are the names of those that take such arguments. -/
theorem Terminal.exists_call {a : Arguments} {text : String}
    (spells : (Terminal.ofArguments a).Spells text.toList) :
    ∃ b : Builtin, text = b.word ∧ b.arguments = a := by
  have others : ∀ w ∈ Terminal.keywords ++ Terminal.marks, ∀ a, w.2 ≠ Terminal.ofArguments a := by
    intro w member a
    cases a <;> revert w <;> decide
  have called : ∃ b : Builtin, (b.word, Terminal.ofArguments b.arguments) ∈ Terminal.spelled ∧
      b.arguments = a := by
    cases a with
    | many => exact ⟨.print, by decide, rfl⟩
    | one => exact ⟨.len, by decide, rfl⟩
    | empty => exact ⟨.time, by decide, rfl⟩
    | twoNames => exact ⟨.foreachTick, by decide, rfl⟩
  obtain ⟨b, member, rfl⟩ := called
  obtain ⟨text', member', same⟩ := Scanner.spells_fixed member spells
  obtain rfl := String.toList_inj.mp same
  rw [Terminal.spelled, List.append_assoc] at member'
  rcases List.mem_append.mp member' with call | other
  · obtain ⟨b', -, pair⟩ := List.mem_map.mp call
    obtain ⟨rfl, terminal⟩ := Prod.mk.inj pair
    refine ⟨b', rfl, ?_⟩
    revert terminal
    cases b'.arguments <;> cases b.arguments <;> simp [Terminal.ofArguments]
  · exact absurd rfl (others _ other b.arguments)

/-- What a production leaves, given the words of its body and what the body left. -/
def Shape.leaves (shape : Shape) (words : List Token) (trees : List Tree) : List Tree :=
  match shape with
  | .pass => trees
  | .node l => [.node l (Token.extent words) trees]
  | .call =>
    [.node (.ofCall ((words.head?.map (·.text)).getD "")) (Token.extent words) trees]

theorem Production.derives_node {l : Label} (only : p.head.phrases = [.rule r])
    (followed : r.followed (some l) p.body ||
      (!r.inlined && r.label = l && (r.followed none p.body || r.offered p.body)))
    (yields : Yields p.body w h) :
    Symbol.Derives (.part p.head) w [.node l (Token.extent w) h] := by
  have among : Phrase.rule r ∈ p.head.phrases := by simp [only]
  simp only [Bool.or_eq_true, Bool.and_eq_true, Bool.not_eq_true', decide_eq_true_eq] at followed
  rcases followed with named | ⟨⟨apart, rfl⟩, own⟩
  · exact .part among (Rule.derives_of_followed named yields)
  · have tree : r.tree none (Token.extent w) h = .node r.label (Token.extent w) h := by
      unfold Rule.tree
      split <;> simp_all
    rw [← tree]
    rcases own with followed | offered
    · exact .part among (Rule.derives_of_followed followed yields)
    · exact .part among (Rule.derives_of_offered offered yields)

theorem Production.derives_inlined (only : p.head.phrases = [.rule r])
    (followed : r.inlined && r.followed none p.body && Symbol.leaveOne p.body)
    (yields : Yields p.body w h) :
    Symbol.Derives (.part p.head) w h := by
  have among : Phrase.rule r ∈ p.head.phrases := by simp [only]
  simp only [Bool.and_eq_true] at followed
  obtain ⟨⟨inlined, followed⟩, one⟩ := followed
  obtain ⟨t, rfl⟩ := yields.exists_of_leaveOne one
  have derives := Rule.derives_of_followed followed yields
  rw [Rule.tree, if_pos inlined] at derives
  exact .part among derives

theorem Production.derives_repeated {a : Phrase} (only : p.head.phrases = [.several a])
    (again : (a.rests p.body).contains [] || match p.body with
      | .part c :: rest => c = p.head && (a.rests rest).contains []
      | _ => false)
    (yields : Yields p.body w h) :
    Symbol.Derives (.part p.head) w h := by
  have among : Phrase.several a ∈ p.head.phrases := by simp [only]
  rcases Bool.or_eq_true_iff.mp again with once | more
  · have derives := Derives.seq (Phrase.derives_of_whole once yields) (@Derives.none a)
    rw [List.append_nil, List.append_nil] at derives
    exact .part among derives
  · split at more
    next c rest body =>
      rw [Bool.and_eq_true, decide_eq_true_eq] at more
      obtain ⟨rfl, last⟩ := more
      rw [body] at yields
      have left : rest ∈ (Phrase.several a).behind (.part p.head :: rest) := by
        simp [Phrase.behind, only]
      obtain ⟨u, v, f, g, before, tail, rfl, rfl⟩ := Phrase.derives_of_behind left yields
      exact .part among (before.several_concat (Phrase.derives_of_whole last tail))
    next => cases more

theorem Production.derives_call (head : p.head = .builtin)
    {rest : List Symbol} (body : p.body = .word t :: rest)
    (called : [Arguments.many, .one, .empty, .twoNames].any fun a =>
      t = Terminal.ofArguments a && ((Rule.arguments a).rests rest).contains [])
    (yields : Yields p.body w h) :
    Symbol.Derives (.part p.head) w (Shape.call.leaves w h) := by
  obtain ⟨a, -, holds⟩ := List.any_eq_true.mp called
  rw [Bool.and_eq_true, decide_eq_true_eq] at holds
  obtain ⟨rfl, whole⟩ := holds
  rw [body] at yields
  obtain ⟨word, v, g, terminal, spells, tail, rfl, rfl⟩ := yields.word_cons
  obtain ⟨b, text, rfl⟩ := Terminal.exists_call spells
  have member : (word.text, word.terminal) ∈ Terminal.spelled := by
    rw [text, terminal, Terminal.spelled, List.append_assoc]
    exact List.mem_append_left _ (List.mem_map.mpr ⟨b, b.mem_all, rfl⟩)
  have name : Derives (.literal b.word) [word] [] := text ▸ .literal member
  have among : Rule.as (.builtin b) [.literal b.word, Rule.arguments b.arguments] ∈
      (Rule.builtin b).alternatives := List.mem_singleton_self _
  have derives : Derives (.rule (.builtin b)) ([word] ++ v)
      [.node (.builtin b) (Token.extent ([word] ++ v)) ([] ++ g)] :=
    .rule among (.seq name (Phrase.derives_of_whole whole tail))
  rw [Shape.leaves, Token.leaves_of_spelled member]
  simp only [List.singleton_append, List.head?_cons, Option.map_some, Option.getD_some, text,
    Label.ofCall_word]
  refine .part ?_ derives
  rw [head]
  exact List.mem_map.mpr ⟨b, b.mem_all, rfl⟩

/-- The body of a production derives what its head derives, and leaves what its shape says. -/
theorem Production.derives (known : p ∈ grammar)
    (yields : Yields p.body w h) : Symbol.Derives (.part p.head) w (p.shape.leaves w h) := by
  have accounted := accounted_of_mem_grammar p known
  unfold Production.accounted at accounted
  split at accounted
  next l r shape only =>
    rw [shape]
    exact derives_node only accounted yields
  next r shape only =>
    rw [shape]
    exact derives_inlined only accounted yields
  next a b shape only =>
    rw [Bool.and_eq_true, decide_eq_true_eq] at accounted
    obtain ⟨rfl, again⟩ := accounted
    rw [shape]
    exact derives_repeated only again yields
  next shape =>
    rw [Bool.and_eq_true, decide_eq_true_eq] at accounted
    obtain ⟨head, called⟩ := accounted
    split at called
    next t rest body =>
      rw [shape]
      exact derives_call head body called yields
    next => cases called
  next => cases accounted

/-! ### Parts on the stack -/

theorem Span.join_assoc (a b c : Option Span) : join (join a b) c = join a (join b c) := by
  cases a <;> cases b <;> cases c <;> rfl

theorem Span.none_join (a : Option Span) : join none a = a := by
  cases a <;> rfl

theorem Token.extent_append (u v : List Token) :
    Token.extent (u ++ v) = Span.join (Token.extent u) (Token.extent v) := by
  induction u with
  | nil => rw [List.nil_append, Token.extent, Span.none_join]
  | cons t u ih => rw [List.cons_append, Token.extent, Token.extent, ih, Span.join_assoc]

/-- A part stands for words: it was folded from them, or it is the only one. -/
structure Part.Holds (part : Part) (words : List Token) : Prop where
  derives : part.symbol.Derives words part.forest.reverse
  extent : part.extent = Token.extent words
  text : ∀ t, part.symbol = .word t → words.head?.map (·.text) = some part.word

/-- Parts in order stand for the words of a stretch of text. -/
inductive Part.Hold : List Part → List Token → Prop
  | nil : Hold [] []
  | cons {part : Part} {parts : List Part} {u v : List Token} (here : part.Holds u)
      (later : Hold parts v) : Hold (part :: parts) (u ++ v)

namespace Part

variable {w : List Token} {parts : List Part}

theorem Hold.append {parts parts' : List Part} {u v : List Token} (hold : Hold parts u)
    (hold' : Hold parts' v) : Hold (parts ++ parts') (u ++ v) := by
  induction hold with
  | nil => exact hold'
  | cons here _ ih =>
    rw [List.cons_append, List.append_assoc]
    exact .cons here ih

theorem Hold.split {parts parts' : List Part} (hold : Hold (parts ++ parts') w) :
    ∃ u v, Hold parts u ∧ Hold parts' v ∧ w = u ++ v := by
  induction parts generalizing w with
  | nil => exact ⟨[], w, .nil, hold, rfl⟩
  | cons part parts ih =>
    cases hold with
    | cons here later =>
      obtain ⟨u, v, first, second, rfl⟩ := ih later
      exact ⟨_, v, .cons here first, second, (List.append_assoc ..).symm⟩

theorem forests_eq (parts : List Part) : forests parts = parts.flatMap (·.forest) := by
  fun_induction forests parts with
  | case1 => rfl
  | case2 part => simp
  | case3 part parts _ ih => rw [ih, List.flatMap_cons]

theorem children_cons (part : Part) (parts : List Part) :
    children (part :: parts) = part.forest.reverse ++ children parts := by
  simp [children, forests_eq, List.flatMap_append]

theorem Hold.yields (hold : Hold parts w) :
    Yields (parts.map (·.symbol)) w (children parts) := by
  induction hold with
  | nil => exact .nil
  | cons here _ ih =>
    rw [List.map_cons, children_cons]
    exact .cons here.derives ih

theorem Hold.extents (hold : Hold parts w) :
    extents parts = Token.extent w := by
  have onward : ∀ e, parts.foldl (fun e part => Span.join e part.extent) e =
      Span.join e (Token.extent w) := by
    induction hold with
    | nil => intro e; cases e <;> rfl
    | cons here _ ih =>
      intro e
      rw [List.foldl_cons, ih, here.extent, Token.extent_append, Span.join_assoc]
  rw [Part.extents, onward, Span.none_join]

/-- What a production leaves over parts that stand for words. -/
theorem Hold.leaves (hold : Hold parts w) (shape : Shape)
    (called : shape = .call → ∃ t, (parts.head?.map (·.symbol)) = some (.word t)) :
    (shape.apply parts).reverse = shape.leaves w (children parts) := by
  cases shape with
  | pass => rfl
  | node l => rw [Shape.apply, Shape.leaves, hold.extents, List.reverse_singleton]
  | call =>
    obtain ⟨t, symbol⟩ := called rfl
    cases hold with
    | nil => cases symbol
    | @cons part parts u v here later =>
      have first : u.head?.map (·.text) = some part.word := here.text t (by simpa using symbol)
      have word : ((u ++ v).head?.map (·.text)) = some part.word := by
        cases u <;> simp_all
      have extent : Part.extents (part :: parts) = Token.extent (u ++ v) :=
        (Hold.cons here later).extents
      simp only [Shape.apply, Shape.leaves, Label.ofCall, List.head?_cons, Option.map_some, word,
        extent, List.reverse_singleton]

theorem ofToken_holds (state : Nat) {t : Token} (spells : t.terminal.Spells t.text.toList) :
    (ofToken state t).Holds [t] where
  derives := by
    have forest : (ofToken state t).forest.reverse = t.leaves := by
      cases terminal : t.terminal <;>
        simp [ofToken, Token.leaves, Terminal.leafKind?, terminal]
    rw [forest]
    exact .word spells
  extent := rfl
  text := fun _ _ => rfl

end Part

/-- A production of a built-in call starts with its name. -/
theorem head_of_call (known : p ∈ grammar) (shape : p.shape = .call) :
    ∃ t rest, p.body = .word t :: rest := by
  have accounted := accounted_of_mem_grammar p known
  simp only [Production.accounted, shape, Bool.and_eq_true] at accounted
  obtain ⟨-, called⟩ := accounted
  split at called
  next t rest body => exact ⟨t, rest, body⟩
  next => cases called

namespace Parser

/-- A fold keeps the words that the stack stands for. -/
theorem hold_foldNumber? {i : Nat} {stack stack' : Stack} {w : List Token}
    (hold : Part.Hold stack.reverse w) (folded : foldNumber? i stack = some stack') :
    Part.Hold stack'.reverse w := by
  obtain ⟨p, found, folded⟩ := Option.bind_eq_some_iff.mp folded
  have known := mem_of_production? found
  simp only [fold?] at folded
  split at folded
  case isFalse => simp at folded
  case isTrue body =>
    obtain ⟨state, -, rfl⟩ := Option.map_eq_some_iff.mp folded
    rw [← List.take_append_drop p.body.length stack, List.reverse_append] at hold
    obtain ⟨u, v, below, parts, rfl⟩ := hold.split
    rw [List.reverse_cons]
    have yields := parts.yields
    rw [body.1] at yields
    have folds : Part.Holds ⟨state, .part p.head, "", p.shape.apply (stack.take p.body.length).reverse,
        Part.extents (stack.take p.body.length).reverse⟩ v := by
      refine ⟨?_, parts.extents, fun t symbol => by cases symbol⟩
      rw [parts.leaves p.shape ?_]
      · exact Production.derives known yields
      · intro shape
        obtain ⟨t, rest, start⟩ := head_of_call known shape
        exact ⟨t, by rw [← List.head?_map, body.1, start, List.head?_cons]⟩
    have last := Part.Hold.cons folds .nil
    rw [List.append_nil] at last
    exact below.append last

/-- The answer to a word keeps the words that the stack stands for, with the word itself if it is
taken; a script that is complete is derived from them. -/
theorem hold_feed (t : Token) (stack : Stack) {w : List Token} (hold : Part.Hold stack.reverse w) :
    (t.terminal.Spells t.text.toList → ∀ stack', feed t stack = .taken stack' →
      Part.Hold stack'.reverse (w ++ [t])) ∧
      ∀ tree, feed t stack = .complete tree → Derives (.rule .start) w [tree] := by
  have answered := @feed_keeps (fun stack => Part.Hold stack.reverse w) hold_foldNumber? t stack hold
  refine ⟨fun spells stack' same => ?_, fun tree same => ?_⟩
  · obtain ⟨state, below, hold, rfl, -⟩ := answered.1 stack' same
    rw [List.reverse_cons]
    exact hold.append (Part.Hold.cons (Part.ofToken_holds state spells) .nil)
  · obtain ⟨part, hold, symbol, forest⟩ := answered.2 tree same
    cases hold with
    | cons here later =>
      cases later
      have derives := here.derives
      rw [symbol, forest] at derives
      cases derives with
      | part among derives =>
        obtain rfl := List.mem_singleton.mp among
        rwa [List.append_nil]

/-- The words that the parser takes from a stack and a cursor on. -/
def words (stack : Stack) (cursor : Cursor) : List Token :=
  match cursor.next (Table.row (Stack.state stack)).accepts with
  | .done => []
  | .stray _ => []
  | .word t after _ =>
    match feed t stack with
    | .taken stack' => t :: words stack' after
    | _ => []
termination_by cursor.rest.length

theorem derives_run {stack : Stack} {last : Option Token} {cursor : Cursor} {tree : Tree}
    (parsed : run stack last cursor = .ok tree) {before : List Token}
    (hold : Part.Hold stack.reverse before) :
    Written cursor.position cursor.rest (words stack cursor) ∧
      Derives (.rule .start) (before ++ words stack cursor) [tree] := by
  fun_induction run stack last cursor generalizing before with
  | case1 stack last cursor empty t tree' complete =>
    obtain rfl : tree' = tree := by simpa using parsed
    have done : Scanner.ahead (Table.row stack.state).accepts cursor = .done := by
      rw [← Scanner.next_step, empty]
      rfl
    have none : words stack cursor = [] := by rw [words, empty]
    rw [none, List.append_nil]
    exact ⟨Scanner.written_of_done done, (hold_feed t stack hold).2 _ complete⟩
  | case2 => cases parsed
  | case3 => cases parsed
  | case4 stack last cursor t after shorter next stack' taken ih =>
    have word : Scanner.ahead (Table.row stack.state).accepts cursor = .word t after := by
      rw [← Scanner.next_step, next]
      rfl
    have more : words stack cursor = t :: words stack' after := by
      rw [words, next]
      simp only [taken]
    obtain ⟨_, text, -, -, spells, -, same, -⟩ := Scanner.spells_of_word word
    have spelled : t.terminal.Spells t.text.toList := by
      rw [same, String.toList_ofList]
      exact spells
    obtain ⟨laid, derives⟩ := ih parsed ((hold_feed t stack hold).1 spelled stack' taken)
    rw [more]
    refine ⟨Scanner.written_of_word word laid, ?_⟩
    rw [List.append_assoc] at derives
    exact derives
  | case5 => cases parsed

end Parser

/-- The words of a script, as far as the parser takes them. -/
def wordsOf (source : String) : List Token := Parser.words [] ⟨.start, source.toList⟩

/-- The tree of a parsed script is left by a derivation of the script's words by the rules. -/
theorem parse_derives {source : String} {tree : Tree} (parsed : parse source = .ok tree) :
    Written .start source.toList (wordsOf source) ∧
      Derives (.rule .start) (wordsOf source) [tree] :=
  Parser.derives_run parsed .nil

/-- A number with an exponent in a tuple that is indexed, a comment, and a part that is absent. -/
theorem parse_derives_pair : ∃ tree, parse "x = (y, 1.5e2)[0]; # z\nreturn;" = .ok tree ∧
    Written .start "x = (y, 1.5e2)[0]; # z\nreturn;".toList
      (wordsOf "x = (y, 1.5e2)[0]; # z\nreturn;") ∧
    Derives (.rule .start) (wordsOf "x = (y, 1.5e2)[0]; # z\nreturn;") [tree] := by
  obtain ⟨tree, parsed⟩ : ∃ tree, parse "x = (y, 1.5e2)[0]; # z\nreturn;" = .ok tree := by
    decide +kernel
  exact ⟨tree, parsed, parse_derives parsed⟩

end DeskScript.Syntax
