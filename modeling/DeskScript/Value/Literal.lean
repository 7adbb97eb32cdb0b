import DeskScript.Literal.Strings
import DeskScript.Value.Slots

/-!
# Literals

The value that a literal stands for: a string, bytes, a number, one of a few words, or a list, tuple,
set or table of literals.
-/

namespace DeskScript.Literal

/-- The number of a term: it may have a sign, but no other operator. -/
def number? : Term → Option Value
  | .int n => some (.int n)
  | .float x => some (.float x)
  | .imaginary x => some (.complex 0 ⟨0, x⟩)
  | _ => none

def negated : Value → Value
  | .int i => .int (-i)
  | .float x => .float (-x)
  | .complex serial z => .complex serial z.neg
  | v => v

def signedNumber? : Term → Option Value
  | .signed negative operand =>
    (number? operand).map fun v => if negative then negated v else v
  | term => number? term

def sum (negative : Bool) (left right : Term) : Except Error Value :=
  match (signedNumber? left).bind Value.numeric?, right with
  | some n, .imaginary x => do
    let real := Number.Complex.ofReal (← n.toFloat)
    return .complex 0 (if negative then real.sub ⟨0, x⟩ else real.add ⟨0, x⟩)
  | _, _ => .error (.value (.notLiteral false))

def checkKey (v : Value) : Except Error Unit :=
  match v.unhashable? with
  | some kind => .error (.kind (.unhashable kind.name))
  | none => .ok ()

mutual

/-- The value of a term. Each list, tuple and table is a new one. -/
def value (s : Store) : Term → Except Error (Value × Store)
  | .null => .ok (.null, s)
  | .bool b => .ok (.bool b, s)
  | .text t => .ok (.text t, s)
  | .bytes bs => .ok (.bytes bs, s)
  | .ellipsis => .ok (.ellipsis, s)
  | .tuple items => do
    let (values, s) ← placedValues s items
    return s.newTuple values
  | .list items => do
    let (values, s) ← placedValues s items
    return s.alloc values
  | .set items => do
    let (keys, s) ← keyValues s items
    return (.set (setItems keys), s)
  | .call (.name "set") true => .ok (.set [], s)
  | .dict entries => do
    let (table, s) ← entryValues s [] entries
    return s.newDict table
  | .sum negative left right => do return (← sum negative left right, s)
  | term =>
    match signedNumber? term with
    | some v => .ok (v, s)
    | none => .error (.value (.notLiteral false))

def placedValues (s : Store) : List (Spot × Term) → Except Error (List Value × Store)
  | [] => .ok ([], s)
  | (_, term) :: rest => do
    let (v, s) ← value s term
    let (values, s) ← placedValues s rest
    return (v :: values, s)

def keyValues (s : Store) : List Term → Except Error (List Value × Store)
  | [] => .ok ([], s)
  | term :: rest => do
    let (key, s) ← value s term
    checkKey key
    let (keys, s) ← keyValues s rest
    return (key :: keys, s)

def entryValues (s : Store) (before : List (Value × Value)) :
    List (Option Term × Term) → Except Error (List (Value × Value) × Store)
  | [] => .ok (before, s)
  | (none, _) :: _ => .error (.value (.notLiteral true))
  | (some key, term) :: rest => do
    let (k, s) ← value s key
    let (v, s) ← value s term
    checkKey k
    entryValues s (Value.addEntry before k v) rest

end

def lineFeeds : List Char → List Char
  | '\r' :: '\n' :: rest => '\n' :: lineFeeds rest
  | '\r' :: rest => '\n' :: lineFeeds rest
  | c :: rest => c :: lineFeeds rest
  | [] => []

/-- How many terms of a literal can lie within one another. -/
def depthLimit : Nat := 2940

def read (s : Store) (text : String) : Except Error (Value × Store) :=
  let cs := text.toList.dropWhile fun c => c == ' ' || c == '\t'
  let text := String.ofList cs
  match Text.encodeFault? false text with
  | some fault => .error (.encoding fault)
  | none =>
    if cs.contains '\x00' then .error .nullCharacter
    else match parse (cs.length + 1) none 0 (lineFeeds (Text.characters text)) with
      | .ok node => if depthLimit < node.depth then .error .nesting else value s node.term
      | .error (.fault fault) => .error (.literal fault)
      | .error .misplaced => .error .misplaced
      | .error .overflow => .error .memory

end DeskScript.Literal
