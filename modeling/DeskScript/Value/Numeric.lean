import DeskScript.Error
import DeskScript.Value.Basic

/-!
# Values as numbers

What a value is as a number. Numbers are compared exactly, whatever their kinds.
-/

namespace DeskScript

def compareFloat? (x y : Float) : Option Ordering :=
  if x < y then some .lt else if x == y then some .eq else if y < x then some .gt else none

namespace Value

open Number

/-- A value as a number: a truth value counts as one or zero. -/
inductive Numeric where
  | whole (i : Int)
  | real (x : Float)
  deriving Repr

def numeric? : Value → Option Numeric
  | bool b => some (.whole (if b then 1 else 0))
  | int i => some (.whole i)
  | float x => some (.real x)
  | nan _ => some (.real Number.nan)
  | _ => none

def floatOfInt (i : Int) : Except Error Float :=
  match ofInt? i with
  | some x => .ok x
  | none => .error (.overflow .wholeToFloat)

namespace Numeric

def toFloat : Numeric → Except Error Float
  | whole i => floatOfInt i
  | real x => .ok x

def compare? : Numeric → Numeric → Option Ordering
  | .whole i, .whole j => some (compare i j)
  | .whole i, .real x => Number.compareInt? i x
  | .real x, .whole i => (Number.compareInt? i x).map Ordering.swap
  | .real x, .real y => compareFloat? x y

def equalsComplex (n : Numeric) (z : Number.Complex) : Bool :=
  z.im == 0 && n.compare? (.real z.re) = some .eq

end Numeric

def equalNumbers? (a b : Value) : Option Bool :=
  match a, b with
  | complex _ z, complex _ w => some (z.re == w.re && z.im == w.im)
  | complex _ z, _ => b.numeric?.map (·.equalsComplex z)
  | _, complex _ w => a.numeric?.map (·.equalsComplex w)
  | _, _ => a.numeric?.bind fun x => b.numeric?.map fun y => x.compare? y = some .eq

end Value

end DeskScript
