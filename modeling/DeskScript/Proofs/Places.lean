import DeskScript.Proofs.Scanning

/-!
# Places in a text

What a tree says besides where it was read, and how reading goes on further down a text: the same
words further down give the same tree, with every line larger by the distance.
-/

namespace DeskScript.Syntax

mutual

/-- A tree with other spans. -/
def Tree.respan (f : Option Span → Option Span) : Tree → Tree
  | .node label span children => .node label (f span) (respans f children)
  | .leaf l => .leaf { l with span := f l.span }
  | .datum d => .datum d

/-- Trees with other spans. -/
def respans (f : Option Span → Option Span) : List Tree → List Tree
  | [] => []
  | t :: ts => t.respan f :: respans f ts

end

theorem respans_eq_map (f : Option Span → Option Span) (ts : List Tree) :
    respans f ts = ts.map (Tree.respan f) := by
  induction ts with
  | nil => rfl
  | cons t ts ih => rw [respans, ih, List.map_cons]

@[simp]
theorem Tree.respan_node (f : Option Span → Option Span) (label : Label) (span : Option Span)
    (children : List Tree) :
    (Tree.node label span children).respan f = .node label (f span) (children.map (respan f)) := by
  rw [respan, respans_eq_map]

/-- A tree without its places. -/
def Tree.bare : Tree → Tree := Tree.respan fun _ => none

theorem Tree.bare_node (label : Label) (span : Option Span) (children : List Tree) :
    (Tree.node label span children).bare = .node label none (children.map Tree.bare) :=
  Tree.respan_node _ label span children

mutual

theorem Tree.bare_respan (f : Option Span → Option Span) :
    ∀ t : Tree, (t.respan f).bare = t.bare
  | .node label span children => by
    rw [Tree.bare, Tree.respan, Tree.respan, Tree.respan, bare_respans f children]
  | .leaf l => rfl
  | .datum d => rfl

theorem bare_respans (f : Option Span → Option Span) :
    ∀ ts : List Tree, respans (fun _ => none) (respans f ts) = respans (fun _ => none) ts
  | [] => rfl
  | t :: ts => by
    rw [respans, respans, respans, bare_respans f ts]
    exact congrArg (· :: _) (Tree.bare_respan f t)

end

/-! ### Other places -/

def Span.move (f : Position → Position) (s : Span) : Span := ⟨f s.first, f s.last⟩

/-- A tree as it is read at other places. -/
def Tree.move (f : Position → Position) : Tree → Tree := Tree.respan (Option.map (Span.move f))

def Token.move (f : Position → Position) (t : Token) : Token := { t with span := t.span.move f }

def Part.move (f : Position → Position) (part : Part) : Part :=
  { part with forest := part.forest.map (Tree.move f), extent := part.extent.map (Span.move f) }

def Parser.Answer.move (f : Position → Position) : Answer → Answer
  | .taken stack => .taken (stack.map (Part.move f))
  | .complete tree => .complete (tree.move f)
  | .refused => .refused

variable (f : Position → Position)

theorem Parser.Answer.move_eq_taken {answer : Answer} {stack : Stack}
    (same : answer.move f = .taken stack) :
    ∃ stack', answer = .taken stack' ∧ stack'.map (Part.move f) = stack := by
  cases answer <;> cases same
  exact ⟨_, rfl, rfl⟩

theorem Parser.Answer.move_eq_complete {answer : Answer} {tree : Tree}
    (same : answer.move f = .complete tree) :
    ∃ tree', answer = .complete tree' ∧ tree'.move f = tree := by
  cases answer <;> cases same
  exact ⟨_, rfl, rfl⟩

theorem Span.join_move (a b : Option Span) :
    (join a b).map (move f) = join (a.map (move f)) (b.map (move f)) := by
  cases a <;> cases b <;> rfl

namespace Part

theorem ofToken_move (state : Nat) (t : Token) :
    ofToken state (t.move f) = (ofToken state t).move f := by
  cases h : t.terminal <;> simp [ofToken, Token.move, move, h, Tree.move, Tree.respan]

theorem forests_move (parts : List Part) :
    forests (parts.map (move f)) = (forests parts).map (Tree.move f) := by
  fun_induction forests parts with
  | case1 => rfl
  | case2 part => rfl
  | case3 part parts more ih =>
    cases parts with
    | nil => exact absurd rfl more
    | cons next parts => simpa [forests, move] using ih

theorem children_move (parts : List Part) :
    children (parts.map (move f)) = (children parts).map (Tree.move f) := by
  rw [children, children, ← List.map_reverse, forests_move, List.map_reverse]

theorem extents_move (parts : List Part) :
    extents (parts.map (move f)) = (extents parts).map (Span.move f) := by
  have grow : ∀ e : Option Span,
      (parts.map (move f)).foldl (fun e part => Span.join e part.extent) (e.map (Span.move f)) =
        (parts.foldl (fun e part => Span.join e part.extent) e).map (Span.move f) := by
    induction parts with
    | nil => intro e; rfl
    | cons part parts ih =>
      intro e
      rw [List.map_cons, List.foldl_cons, List.foldl_cons, ← ih, Span.join_move]
      rfl
  exact grow none

end Part

theorem Shape.apply_move (shape : Shape) (parts : List Part) :
    shape.apply (parts.map (Part.move f)) = (shape.apply parts).map (Tree.move f) := by
  cases shape with
  | pass => rw [apply, apply, ← List.map_reverse, Part.forests_move]
  | node l => simp [apply, Part.extents_move, Part.children_move, Tree.move]
  | call =>
    have word : (parts.map (Part.move f)).head?.map (·.word) = parts.head?.map (·.word) := by
      cases parts <;> rfl
    simp only [apply, word, Part.extents_move, Part.children_move]
    simp [Tree.move]

namespace Parser

theorem state_move (stack : Stack) :
    Stack.state (stack.map (Part.move f)) = stack.state := by
  cases stack <;> rfl

theorem fold?_move (p : Production) (stack : Stack) :
    fold? p (stack.map (Part.move f)) = (fold? p stack).map (List.map (Part.move f)) := by
  have symbols : ∀ parts : List Part,
      (parts.map (Part.move f)).map (·.symbol) = parts.map (·.symbol) := by
    intro parts
    rw [List.map_map]
    rfl
  simp only [fold?, ← List.map_take, ← List.map_drop, ← List.map_reverse, symbols, state_move,
    Shape.apply_move, Part.extents_move, List.map_eq_nil_iff]
  split
  · cases (Table.row (Stack.state (stack.drop p.body.length))).goto? p.head <;> rfl
  · rfl

theorem complete?_move (t : Token) (stack : Stack) :
    complete? (t.move f) (stack.map (Part.move f)) = (complete? t stack).map (Tree.move f) := by
  rcases stack with _ | ⟨part, _ | ⟨next, below⟩⟩
  · rfl
  · simp only [complete?, List.map_cons, List.map_nil, Part.move, Token.move]
    rcases part.symbol with t | c
    · rfl
    · rcases part.forest with _ | ⟨tree, _ | ⟨tree', more⟩⟩
      · cases c <;> rfl
      · by_cases last : t.terminal = .endOfText <;> cases c <;> simp [last]
      · cases c <;> rfl
  · rfl

theorem feed_move (t : Token) (stack : Stack) :
    feed (t.move f) (stack.map (Part.move f)) = (feed t stack).move f := by
  fun_induction feed t stack with
  | case1 stack tree complete =>
    rw [feed, complete?_move, complete]
    rfl
  | case2 stack more none =>
    rw [feed, complete?_move, more, state_move]
    simp only [Option.map_none, Token.move, none]
    rfl
  | case3 stack more state shift =>
    rw [feed_shift (by rw [complete?_move, more]; rfl) (by rw [state_move]; exact shift),
      Part.ofToken_move]
    rfl
  | case4 stack more i fold none =>
    rw [feed, complete?_move, more, state_move]
    simp only [Option.map_none, Token.move, fold]
    have none' : foldNumber? i (stack.map (Part.move f)) = Option.none := by
      simp only [foldNumber?, fold?_move] at none ⊢
      cases found : production? i with
      | none => rfl
      | some p => simpa [found] using none
    split
    · rfl
    · rename_i folded; rw [none'] at folded; cases folded
  | case5 stack more i fold stack' folded ih =>
    have folded' : foldNumber? i (stack.map (Part.move f)) = some (stack'.map (Part.move f)) := by
      obtain ⟨p, found, folded⟩ := Option.bind_eq_some_iff.mp folded
      simp [foldNumber?, found, fold?_move, folded]
    rw [feed_fold (by rw [complete?_move, more]; rfl) (by rw [state_move]; exact fold) folded', ih]

end Parser

/-! ### Further down -/

/-- The place so many lines further down, in the same column. -/
def Position.down (n : Nat) (p : Position) : Position := ⟨p.line + n, p.column⟩

def Span.down (n : Nat) (s : Span) : Span := ⟨s.first.down n, s.last.down n⟩

/-- A tree as it is read so many lines further down. -/
def Tree.down (n : Nat) : Tree → Tree := Tree.respan (Option.map (Span.down n))

def Cursor.down (n : Nat) (c : Cursor) : Cursor := { c with position := c.position.down n }

def Step.down (n : Nat) : Step → Step
  | .word t after => .word (t.move (Position.down n)) (after.down n)
  | .done => .done
  | .stray place => .stray (place.down n)

theorem Position.next_down (n : Nat) (p : Position) (c : Char) :
    (p.down n).next c = (p.next c).down n := by
  simp only [next, down]
  split
  · rw [Nat.add_right_comm]
  · split <;> rfl

theorem Position.after_down (n : Nat) (p : Position) (cs : List Char) :
    (p.down n).after cs = (p.after cs).down n := by
  induction cs generalizing p with
  | nil => rfl
  | cons c cs ih => rw [after, List.foldl_cons, next_down]; exact ih (p.next c)

/-- Line feeds are what lines are counted by. -/
theorem Position.line_after (p : Position) (cs : List Char) :
    (p.after cs).line = p.line + cs.count '\n' := by
  induction cs generalizing p with
  | nil => rfl
  | cons c cs ih =>
    have later : (p.after (c :: cs)).line = (p.next c).line + cs.count '\n' := ih (p.next c)
    rw [later, next]
    by_cases feed : c = '\n'
    · subst feed
      simp only [if_true, List.count_cons_self]
      omega
    · rw [if_neg feed, List.count_cons_of_ne feed]
      split <;> rfl

/-- A line feed puts what follows at the start of the next line. -/
theorem Position.after_line (cs : List Char) :
    (start.after cs).next '\n' = start.down (cs.count '\n' + 1) := by
  simp only [next, if_true, down, line_after, start, Nat.add_assoc]

namespace Scanner

theorem skip_down (n : Nat) (inComment : Bool) (p : Position) (cs : List Char) :
    skip inComment (p.down n) cs = (skip inComment p cs).down n := by
  induction cs generalizing inComment p with
  | nil => rfl
  | cons c cs ih =>
    simp only [skip, Position.next_down, ih]
    split
    · rfl
    · split
      · rfl
      · split <;> rfl

theorem ahead_down (n : Nat) (accepts : Terminal → Bool) (cursor : Cursor) :
    ahead accepts (cursor.down n) = (ahead accepts cursor).down n := by
  simp only [ahead, Cursor.down, skip_down]
  cases skip false cursor.position cursor.rest with
  | mk p cs =>
    cases cs with
    | nil => rfl
    | cons c cs =>
      simp only [front]
      cases lexeme accepts (c :: cs) with
      | none => rfl
      | some found => simp [Step.down, Token.move, Cursor.down, Span.move, Position.after_down]

end Scanner

/-- The same words so many lines further down give the same tree, so many lines further down. -/
theorem Reads.down {stack : Stack} {cursor : Cursor} {tree : Tree} (reads : Reads stack cursor tree)
    (n : Nat) : Reads (stack.map (Part.move (Position.down n))) (cursor.down n) (tree.down n) := by
  induction reads with
  | @done stack cursor tree empty complete =>
    have same : Parser.ending.terminal = (Parser.ending.move (Position.down n)).terminal := rfl
    refine .done ?_ (Parser.feed_complete same ?_)
    · rw [Parser.state_move, Scanner.ahead_down, empty]
      rfl
    · rw [Parser.feed_move, complete]
      rfl
  | @word stack stack' cursor after t tree next taken _ ih =>
    refine @Reads.word _ _ _ (after.down n) (t.move (Position.down n)) _ ?_ ?_ ih
    · rw [Parser.state_move, Scanner.ahead_down, next]
      rfl
    · rw [Parser.feed_move, taken]
      rfl

end DeskScript.Syntax
