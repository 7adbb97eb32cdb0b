/-!
# The screen

A screen is a background with coloured rectangles painted over it in order; beyond its edges all is
black. Where the display is denser than its coordinates, the picture taken of it has more pixels.
-/

namespace DeskScript

structure Point where
  x : Int
  y : Int
  deriving DecidableEq, Repr, Inhabited

structure Color where
  red : Int
  green : Int
  blue : Int
  deriving DecidableEq, Repr, Inhabited

def Color.black : Color := ⟨0, 0, 0⟩

structure Patch where
  left : Int
  top : Int
  width : Int
  height : Int
  color : Color
  deriving DecidableEq, Repr

def Patch.covers (p : Patch) (x y : Int) : Bool :=
  p.left ≤ x && x < p.left + p.width && p.top ≤ y && y < p.top + p.height

structure Screen where
  width : Int := 64
  height : Int := 48
  background : Color := .black
  patches : List Patch := []
  /-- The size of a picture of the whole screen, where it differs. -/
  pixels : Option (Int × Int) := none
  deriving Repr, Inhabited

def Screen.colorAt (s : Screen) (x y : Int) : Color :=
  if 0 ≤ x && x < s.width && 0 ≤ y && y < s.height then
    match s.patches.reverse.find? (·.covers x y) with
    | some p => p.color
    | none => s.background
  else .black

end DeskScript
