/-!
# Exact arithmetic on floating-point numbers

A finite double is a whole number times a power of two. This module takes doubles apart and puts
them together again by exact arithmetic on whole numbers: the nearest double to a ratio, the whole
part, the comparison with a whole number of any size, the remainder, and the length of a vector.
-/

namespace DeskScript.Number

abbrev twoTo (n : Nat) : Nat := Nat.pow 2 n

abbrev tenTo (n : Nat) : Nat := Nat.pow 10 n

/-- A double taken apart: `finite s m e` is `m * 2 ^ e`, negated if `s` is true. -/
inductive Binary where
  | nan
  | infinite (negative : Bool)
  | finite (negative : Bool) (mantissa : Nat) (exponent : Int)
  deriving DecidableEq, Repr, Inhabited

/-- Takes a double apart. The mantissa is below `2 ^ 53` and the exponent at least `-1074`. -/
def Binary.ofFloat (x : Float) : Binary :=
  let bits := x.toBits.toNat
  let negative : Bool := bits / twoTo 63 = 1
  let field : Nat := bits / twoTo 52 % twoTo 11
  let fraction : Nat := bits % twoTo 52
  if field = 2047 then
    if fraction = 0 then .infinite negative else .nan
  else if field = 0 then .finite negative fraction (-1074)
  else .finite negative (fraction + twoTo 52) ((field : Int) - 1075)

/-- The double with a mantissa below `2 ^ 53` and an exponent that is `-1074` or fits a full
mantissa; infinite when the exponent is too large. -/
def compose (negative : Bool) (mantissa : Nat) (exponent : Int) : Float :=
  let sign := if negative then twoTo 63 else 0
  let magnitude :=
    if mantissa < twoTo 52 then mantissa
    else
      let field := (exponent + 1075).toNat
      if 2047 ≤ field then 2047 * twoTo 52 else field * twoTo 52 + (mantissa - twoTo 52)
  Float.ofBits (UInt64.ofNat (sign + magnitude))

def infinity (negative : Bool) : Float := compose negative (twoTo 52) 2000

def nan : Float := Float.ofBits 0x7ff8000000000000

/-- Rounds a quotient to a whole number, a half going to the even neighbour. -/
def divHalfEven (num den : Nat) : Nat :=
  let q := num / den
  let r := num % den
  if 2 * r < den then q
  else if den < 2 * r then q + 1
  else if q % 2 = 0 then q else q + 1

/-- `num / den * 2 ^ (-e)` as a quotient of whole numbers. -/
def scaleDown (num den : Nat) (e : Int) : Nat × Nat :=
  if 0 ≤ e then (num, den * twoTo e.toNat) else (num * twoTo (-e).toNat, den)

/-- The double nearest to `num / den`, a half going to the even mantissa; infinite from `2 ^ 1024`
minus half a unit on. -/
def ofRatio (negative : Bool) (num den : Nat) : Float :=
  if num = 0 || den = 0 then compose negative 0 (-1074)
  else
    let guess : Int := (num.log2 : Int) - den.log2 - 53
    let fits := fun e : Int => let (n, d) := scaleDown num den e; n / d < twoTo 53
    let e := max (if fits guess then guess else guess + 1) (-1074)
    let (n, d) := scaleDown num den e
    let m := divHalfEven n d
    if m = twoTo 53 then compose negative (twoTo 52) (e + 1) else compose negative m e

def ofInt? (i : Int) : Option Float :=
  let x := ofRatio (i < 0) i.natAbs 1
  match Binary.ofFloat x with
  | .infinite _ => none
  | _ => some x

/-- The quotient of two whole numbers rounded once, unless it is too large; the divisor is not
zero. A zero quotient keeps the sign of the divisor's side. -/
def quotient? (a b : Int) : Option Float :=
  let negative := if a = 0 then b < 0 else (a < 0) != (b < 0)
  let x := ofRatio negative a.natAbs b.natAbs
  match Binary.ofFloat x with
  | .infinite _ => none
  | _ => some x

def isNaN (x : Float) : Bool := Binary.ofFloat x = .nan

def isInfinite (x : Float) : Bool :=
  match Binary.ofFloat x with
  | .infinite _ => true
  | _ => false

def truncate? (x : Float) : Option Int :=
  match Binary.ofFloat x with
  | .finite negative m e =>
    let whole : Nat := if 0 ≤ e then m * twoTo e.toNat else m / twoTo (-e).toNat
    some (if negative then -whole else whole)
  | _ => none

def isWhole (x : Float) : Bool :=
  match Binary.ofFloat x with
  | .finite _ m e => 0 ≤ e || m % twoTo (-e).toNat = 0
  | _ => false

/-- The order of a whole number and a double, decided exactly; none for a NaN. -/
def compareInt? (i : Int) (x : Float) : Option Ordering :=
  match Binary.ofFloat x with
  | .nan => none
  | .infinite negative => some (if negative then .gt else .lt)
  | .finite negative m e =>
    let v : Int := if negative then -m else m
    some (if 0 ≤ e then compare i (v * twoTo e.toNat) else compare (i * twoTo (-e).toNat) v)

/-- The remainder of a division rounded toward zero; it is exact. The divisor is not zero. -/
def remainder (x y : Float) : Float :=
  match Binary.ofFloat x, Binary.ofFloat y with
  | .finite s m e, .finite _ n f =>
    let g := min e f
    let a := m * twoTo (e - g).toNat
    let b := n * twoTo (f - g).toNat
    let r := a % b
    if 0 ≤ g then ofRatio s (r * twoTo g.toNat) 1 else ofRatio s r (twoTo (-g).toNat)
  | .finite .., .infinite _ => x
  | _, _ => nan

/-- The remainder of a division rounded down: it has the sign of the divisor, which is not zero. -/
def floorMod (x y : Float) : Float :=
  let r := remainder x y
  if r == 0 then compose (y < 0) 0 (-1074)
  else if (r < 0) != (y < 0) then r + y
  else r

/-- The largest whole number whose square is at most `n`, found bit by bit from the highest. -/
def rootBits (n : Nat) : Nat → Nat → Nat
  | 0, r => r
  | k + 1, r =>
    let t := r + twoTo k
    rootBits n k (if t * t ≤ n then t else r)

def root (n : Nat) : Nat := rootBits n (n.log2 / 2 + 1) 0

def hypot (x y : Float) : Float :=
  match Binary.ofFloat x, Binary.ofFloat y with
  | .infinite _, _ | _, .infinite _ => infinity false
  | .nan, _ | _, .nan => nan
  | .finite _ m e, .finite _ n f =>
    let g := min e f
    let a := m * twoTo (e - g).toNat
    let b := n * twoTo (f - g).toNat
    -- Sixty further bits make the last bit a mere witness that something was cut off.
    let square := (a * a + b * b) * twoTo 120
    let r := root square
    let r := 2 * r + if r * r = square then 0 else 1
    let g := g - 61
    if 0 ≤ g then ofRatio false (r * twoTo g.toNat) 1 else ofRatio false r (twoTo (-g).toNat)

end DeskScript.Number
