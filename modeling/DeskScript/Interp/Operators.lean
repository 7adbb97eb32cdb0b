import DeskScript.Interp.TreeText
import DeskScript.Machine
import DeskScript.Value.Format
import DeskScript.Value.Literal

/-!
# Words and operators

The values of single words, and what operators make of values.
-/

namespace DeskScript.Eval

open Syntax

/-! ### Words -/

/-- The number that a word stands for: a whole number if it has no fraction. -/
def number (l : Leaf) : Except Error Value :=
  match Number.readFloat? l.text with
  | none => .error (.value (.number l.quoted))
  | some x =>
    if Number.isWhole x then .ok (.int ((Number.truncate? x).getD 0)) else .ok (.float x)

def literal (text : String) : Op Value := do
  match Literal.read (← get).store text with
  | .ok (v, s) =>
    modify fun m => { m with store := s }
    return v
  | .error e => throw e

/-! ### Operators -/

/-- The sum of two values: with a text on either side, the texts of both are joined. -/
def add (a b : Value) : Op Value := do
  match a, b with
  | .list c, .list d =>
    let s := (← get).store
    Op.newList (s.get c ++ s.get d)
  | .text _, _ | _, .text _ => return .text ((← Op.shown a) ++ (← Op.shown b))
  | _, _ => a.add b

/-- The product of two values: a list is repeated as a new list. -/
def multiply (a b : Value) : Op Value := do
  let repeated := fun cell (count : Value) => do
    let items := (← get).store.get cell
    Op.newList (Value.repeatItems (← Value.repetitions items.length count) items)
  match a, b with
  | .list cell, count => repeated cell count
  | .text _, _ | .bytes _, _ | .tuple .., _ => a.mul b
  | count, .list cell => repeated cell count
  | _, _ => a.mul b

/-- The remainder of two numbers, whole if it has no fraction, or a format applied to a value. -/
def modulo (a b : Value) : Op Value := do
  match a with
  | .text template => return .text (← Op.ask fun s => s.format template b)
  | .bytes template => return .bytes (← Op.ask fun s => s.formatBytes template b)
  | _ =>
    match ← a.mod b with
    | .float x =>
      return if Number.isWhole x then .int ((Number.truncate? x).getD 0) else .float x
    | v => return v

def equals (a b : Value) : Op Bool :=
  if a.isNull || b.isNull then return a.isNull && b.isNull else Op.ask fun s => s.equal a b

/-- What a binary operator makes of two values, before a result that is not a number gets a number
of its own. -/
def operate (label : Label) (a b : Value) : Op Value := do
  let relation := fun r => do return Value.ofBool (← Op.ask fun s => s.related r a b)
  match label with
  | .add => add a b
  | .subtract => a.sub b
  | .multiply => multiply a b
  | .divide => a.div b
  | .modulo => modulo a b
  | .greater => relation .greater
  | .less => relation .less
  | .greaterEq => relation .greaterEq
  | .lessEq => relation .lessEq
  | .equal => return Value.ofBool (← equals a b)
  | _ => return Value.ofBool (!(← equals a b))

def binary (label : Label) (a b : Value) : Op Value := do
  Op.computed (← operate label a b)

def element (container index : Value) : Op Value := do
  match index.numeric?, index with
  | some (.whole i), _ =>
    match (← get).store.element container i with
    | .ok v => return v
    | .error (.missingKey _) => throw (.script (.element (.missingKey (← Op.shown index))))
    | .error fault => throw (.script (.element fault))
  | _, _ => throw (.script .indexKind)

end DeskScript.Eval
