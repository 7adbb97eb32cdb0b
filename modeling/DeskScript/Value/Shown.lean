import DeskScript.Value.Arithmetic

/-!
# Values as text

How values are shown: a text by itself at the top, in quotes inside other values; a value that
contains itself is cut off where it comes round again.
-/

namespace DeskScript

/-- How deeply values and calls may be nested. -/
def nestingLimit : Nat := 480

namespace Store

def intText (i : Int) : Except Error String :=
  if Number.tenTo Number.digitLimit ≤ i.natAbs then .error (.value .tooManyDigits)
  else .ok (toString i)

/-- A value inside another one. The path holds the kinds and numbers of the values that it lies in. -/
def quotedAt (s : Store) : Nat → List (Kind × Nat) → Value → Except Error String
  | 0, _, _ => .error .nesting
  | fuel + 1, path, v =>
    match v with
    | .null => .ok "None"
    | .bool b => .ok (if b then "True" else "False")
    | .int i => intText i
    | .float x => .ok (Number.plain x)
    | .nan _ => .ok (Number.plain Number.nan)
    | .complex _ z => .ok z.text
    | .text t => .ok (Text.quoted t)
    | .bytes bs => .ok (Text.quotedBytes bs)
    | .ellipsis => .ok "Ellipsis"
    | .tuple id items =>
      if id ≠ 0 && path.contains (.tuple, id) then .ok "(...)"
      else do
        let parts ← items.mapM fun item => quotedAt s fuel ((.tuple, id) :: path) item
        return "(" ++ ", ".intercalate parts ++ if items.length = 1 then ",)" else ")"
    | .list cell =>
      if path.contains (.list, cell) then .ok "[...]"
      else do
        let parts ← (s.get cell).mapM fun item => quotedAt s fuel ((.list, cell) :: path) item
        return "[" ++ ", ".intercalate parts ++ "]"
    | .set items => do
      let parts ← items.mapM fun item => quotedAt s fuel path item
      return if items.isEmpty then "set()" else "\x7b" ++ ", ".intercalate parts ++ "\x7d"
    | .dict id entries =>
      if id ≠ 0 && path.contains (.dict, id) then .ok "\x7b...\x7d"
      else do
        let parts ← entries.mapM fun (key, value) => do
          let path := (.dict, id) :: path
          return (← quotedAt s fuel path key) ++ ": " ++ (← quotedAt s fuel path value)
        return "\x7b" ++ ", ".intercalate parts ++ "\x7d"
    | .signal .. => .ok "<macroni.interpreter.macroni_interpret.ControlSignal object>"

def quoted (s : Store) (v : Value) : Except Error String := quotedAt s (2 * nestingLimit) [] v

def shown (s : Store) (v : Value) : Except Error String :=
  match v with
  | .text t => .ok t
  | _ => quoted s v

/-- Which values count as true: all but null, zero and what is empty. -/
def truth (s : Store) : Value → Bool
  | .null => false
  | .bool b => b
  | .int i => i != 0
  | .float x => x != 0
  | .nan _ => true
  | .complex _ z => !z.isZero
  | .text t => !t.isEmpty
  | .bytes bs => !bs.isEmpty
  | .tuple _ items => !items.isEmpty
  | .list cell => !(s.cell cell).isEmpty
  | .set items => !items.isEmpty
  | .dict _ entries => !entries.isEmpty
  | .ellipsis => true
  | .signal .. => true

end Store

end DeskScript
