import DeskScript.Number.Binary

/-!
# Single precision

The numbers of pictures are kept in single precision. Here a single is the double with the same
value, and every operation is rounded once more.
-/

namespace DeskScript.Number

def singleOfRatio (negative : Bool) (num den : Nat) : Float :=
  if num = 0 || den = 0 then compose negative 0 (-1074)
  else
    let guess : Int := (num.log2 : Int) - den.log2 - 24
    let fits := fun e : Int => let (n, d) := scaleDown num den e; n / d < twoTo 24
    let e := max (if fits guess then guess else guess + 1) (-149)
    let (n, d) := scaleDown num den e
    let m := divHalfEven n d
    if twoTo 128 ≤ (if 0 ≤ e then m * twoTo e.toNat else m / twoTo (-e).toNat) then infinity negative
    else if 0 ≤ e then ofRatio negative (m * twoTo e.toNat) 1
    else ofRatio negative m (twoTo (-e).toNat)

def single (x : Float) : Float :=
  match Binary.ofFloat x with
  | .finite negative m e =>
    if 0 ≤ e then singleOfRatio negative (m * twoTo e.toNat) 1
    else singleOfRatio negative m (twoTo (-e).toNat)
  | _ => x

/-- The nearest whole number, a half going to the even one; zero for what is not finite. -/
def nearest (x : Float) : Int :=
  match Binary.ofFloat x with
  | .finite negative m e =>
    let n : Nat := if 0 ≤ e then m * twoTo e.toNat else divHalfEven m (twoTo (-e).toNat)
    if negative then -n else n
  | _ => 0

end DeskScript.Number
