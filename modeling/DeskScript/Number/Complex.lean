import DeskScript.Number.Layout

/-!
# Complex numbers

Numbers with a real and an imaginary part, which are doubles. They are added, multiplied and divided
part by part, and shown with the imaginary part behind the real one.
-/

namespace DeskScript.Number

structure Complex where
  re : Float
  im : Float
  deriving Repr, Inhabited

namespace Complex

def ofReal (x : Float) : Complex := ⟨x, 0⟩

def add (a b : Complex) : Complex := ⟨a.re + b.re, a.im + b.im⟩

def sub (a b : Complex) : Complex := ⟨a.re - b.re, a.im - b.im⟩

def mul (a b : Complex) : Complex :=
  ⟨a.re * b.re - a.im * b.im, a.re * b.im + a.im * b.re⟩

def neg (a : Complex) : Complex := ⟨-a.re, -a.im⟩

/-- The quotient, unless the divisor is zero. Everything is first divided by the larger part of the
divisor, so that no square of it is needed. -/
def div? (a b : Complex) : Option Complex :=
  let size := fun x : Float => if x < 0 then -x else x
  if size b.im ≤ size b.re then
    if b.re == 0 then none
    else
      let ratio := b.im / b.re
      let denominator := b.re + b.im * ratio
      some ⟨(a.re + a.im * ratio) / denominator, (a.im - a.re * ratio) / denominator⟩
  else if size b.re ≤ size b.im then
    let ratio := b.re / b.im
    let denominator := b.re * ratio + b.im
    some ⟨(a.re * ratio + a.im) / denominator, (a.im * ratio - a.re) / denominator⟩
  else some ⟨nan, nan⟩

def hasNaN (a : Complex) : Bool := isNaN a.re || isNaN a.im

def isZero (a : Complex) : Bool := a.re == 0 && a.im == 0

/-- The parts are shown as numbers in scripts are, but without a point for whole ones. -/
def layout : Layout := { Layout.script with point := false }

/-- A complex number as it is shown: the real part is left out if it is zero without a sign. -/
def text (a : Complex) : String :=
  let im := layout.text a.im
  if a.re == 0 && !isNegative a.re then im ++ "j"
  else "(" ++ layout.text a.re ++ (if isNegative a.im then "" else "+") ++ im ++ "j)"

end Complex

end DeskScript.Number
