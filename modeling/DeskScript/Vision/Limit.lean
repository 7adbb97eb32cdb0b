import DeskScript.Number.Single
import DeskScript.Value.Order
import DeskScript.Value.Sequence

/-!
# Limits

What the values of a map of fits are compared with: one limit for all of them, or a list of limits,
which may be nested. A list is laid over the map from its last column and row; where it has only one
row or column, that one counts for all. How precisely values are compared hangs on what kind of
numbers the limits are.
-/

namespace DeskScript.Vision

inductive Precision where
  | single | double | exact
  deriving DecidableEq, Repr

def Precision.reaches (p : Precision) (limit : Value) (v : Float) : Except Error Bool :=
  match p, limit.numeric? with
  | .single, some (.whole i) => .ok (Number.singleOfRatio (i < 0) i.natAbs 1 ≤ v)
  | .single, some (.real x) => .ok (Number.single x ≤ v)
  | .double, some n => do return (← n.toFloat) ≤ v
  | _, _ => Value.compares .greaterEq (.float v) limit

/-- Whether a whole number has a place among words of 64 bits, with a sign or without. -/
def fitsWord (i : Int) : Bool := -(Number.twoTo 63 : Int) ≤ i && i < Number.twoTo 64

/-- The precision for one limit. It is that of the map, unless a number is too large for that. -/
def precisionOf : Value → Precision
  | .int i => if fitsWord i then .single else .exact
  | .float x =>
    let size := if x < 0 then -x else x
    if size < 3.4e38 || Number.isInfinite x || Number.isNaN x then .single else .double
  | .bool _ | .nan _ => .single
  | _ => .exact

/-- The precision for several limits. Truth values alone leave the precision of the map. -/
def commonPrecision (limits : List Value) : Precision :=
  if limits.any (precisionOf · = .exact) then .exact
  else if limits.all (fun v => v.kind = .bool) && !limits.isEmpty then .single
  else .double

/-- Several limits: how they are nested, and all of them in order. -/
structure Limits where
  shape : List Nat
  values : List Value

def rows? (s : Store) (values : List Value) : Option (List (List Value)) :=
  values.mapM fun v => match v with
    | .list cell => some (s.get cell)
    | _ => none

/-- How lists are nested. Lists side by side have to be of one length, else the result has the
lengths so far. -/
def nested (s : Store) : Nat → List Value → Except (List Nat) Limits
  | 0, values => .ok ⟨[], values⟩
  | fuel + 1, values =>
    match rows? s values with
    | some (first :: rest) =>
      if rest.all (·.length = first.length) then
        match nested s fuel (first :: rest).flatten with
        | .ok inner => .ok ⟨first.length :: inner.shape, inner.values⟩
        | .error shape => .error (first.length :: shape)
      else .error []
    | _ => if values.any (·.kind = .list) then .error [] else .ok ⟨[], values⟩

def nestingDepth : Nat := 32

def Limits.ofValue (s : Store) (v : Value) : Except Error Limits :=
  match nested s nestingDepth [v] with
  | .error shape => .error (.value (.ragged shape))
  | .ok limits =>
    let isNumber := fun v : Value => v.numeric?.isSome
    if limits.values.any (·.kind = .text) &&
        limits.values.all fun v => v.kind = .text || isNumber v then .error .incomparable
    else .ok limits

namespace Limits

def columns (l : Limits) : Nat := l.shape.getLast?.getD 1

def rows (l : Limits) : Nat := (l.shape.dropLast.getLast?).getD 1

/-- How many times there are such rows. -/
def layers (l : Limits) : Nat := (l.shape.take (l.shape.length - 2)).foldl (· * ·) 1

end Limits

/-- The length that two lengths make up together: one can be repeated. -/
def joint? (a b : Nat) : Option Nat :=
  if a = b || b = 1 then some a else if a = 1 then some b else none

def placeIn (length i : Nat) : Nat := if length = 1 then 0 else i

/-- The places, by column and row, where a map reaches its limits, layer by layer and row by row. -/
def Limits.reached (l : Limits) (columns rows : Nat) (valueAt : Nat → Nat → Float) :
    Except Error (List (Nat × Nat)) := do
  match joint? columns l.columns, joint? rows l.rows with
  | some width, some height =>
    let precision := commonPrecision l.values
    let limits := l.values.toArray
    let places := (List.range l.layers).flatMap fun layer =>
      (List.range height).flatMap fun y => (List.range width).map fun x => (layer, x, y)
    let found ← places.filterM fun (layer, x, y) =>
      let i := (layer * l.rows + placeIn l.rows y) * l.columns + placeIn l.columns x
      precision.reaches (limits[i]?.getD .null) (valueAt (placeIn columns x) (placeIn rows y))
    return found.map (·.2)
  | _, _ => throw (.value (.shapes [rows, columns] l.shape))

end DeskScript.Vision
