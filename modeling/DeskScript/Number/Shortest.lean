import DeskScript.Number.Binary

/-!
# Shortest decimals

The fewest digits that read back as a given double. The reals that round to a double form an
interval around it; for one digit, two digits and so on, the two neighbours of the double on the
grid of that many digits are tried, and the first grid with a neighbour in the interval wins.
-/

namespace DeskScript.Number

structure Decimal where
  digits : Nat
  exponent : Int
  deriving DecidableEq, Repr, Inhabited

def digitCount (n : Nat) : Nat := (Nat.toDigits 10 n).length

def leading (num den : Nat) : Int :=
  if den ≤ num then (digitCount (num / den) : Int) - 1
  else -(digitCount ((den - 1) / num) : Int)

/-- `num / den` in units of `10 ^ k`, as a quotient of whole numbers. -/
def onGrid (num den : Nat) (k : Int) : Nat × Nat :=
  if 0 ≤ k then (num, den * tenTo k.toNat) else (num * tenTo (-k).toNat, den)

/-- The interval of ratios that round to a double, all over one denominator. -/
structure Interval where
  low : Nat
  value : Nat
  high : Nat
  den : Nat
  closed : Bool
  deriving Repr

/-- The interval of the double `m * 2 ^ e`. Below a power of two the doubles are twice as dense. -/
def Interval.ofBinary (m : Nat) (e : Int) : Interval :=
  let below := if m = twoTo 52 ∧ -1074 < e then 1 else 2
  let (unit, den) := if 2 ≤ e then (twoTo (e - 2).toNat, 1) else (1, twoTo (2 - e).toNat)
  ⟨(4 * m - below) * unit, 4 * m * unit, (4 * m + 2) * unit, den, m % 2 = 0⟩

def Interval.holds (i : Interval) (digits : Nat) (k : Int) : Bool :=
  let (n, d) := if 0 ≤ k then (digits * tenTo k.toNat, 1) else (digits, tenTo (-k).toNat)
  let scaled := n * i.den
  if i.closed then i.low * d ≤ scaled && scaled ≤ i.high * d
  else i.low * d < scaled && scaled < i.high * d

/-- The neighbour of the interval's value on the grid `10 ^ k` that lies in the interval; of two,
the nearer, and the even one when they are equally near. -/
def Interval.neighbour? (i : Interval) (k : Int) : Option Nat :=
  let (n, d) := onGrid i.value i.den k
  let q := n / d
  let r := n % d
  let lower := i.holds q k
  let upper := i.holds (q + 1) k
  if lower && upper then
    some (if 2 * r < d then q else if d < 2 * r then q + 1 else if q % 2 = 0 then q else q + 1)
  else if lower then some q
  else if upper then some (q + 1)
  else none

/-- Tries the grids of `17 - fuel`, … digits in turn. -/
def Interval.shortest (i : Interval) (lead : Int) : Nat → Decimal
  | 0 => ⟨divHalfEven (onGrid i.value i.den (lead - 16)).1 (onGrid i.value i.den (lead - 16)).2,
      lead - 16⟩
  | fuel + 1 =>
    let k := lead - (16 - fuel)
    match i.neighbour? k with
    | some digits => ⟨digits, k⟩
    | none => i.shortest lead fuel

def stripZeros (d : Decimal) : Nat → Decimal
  | 0 => d
  | fuel + 1 =>
    if d.digits % 10 = 0 ∧ d.digits ≠ 0 then stripZeros ⟨d.digits / 10, d.exponent + 1⟩ fuel else d

/-- The fewest digits that read back as the double `m * 2 ^ e`, which is not zero. -/
def shortest (m : Nat) (e : Int) : Decimal :=
  let i := Interval.ofBinary m e
  stripZeros (i.shortest (leading i.value i.den) 17) 17

end DeskScript.Number
