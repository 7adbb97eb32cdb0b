import DeskScript.Text.Lowercase
import DeskScript.Value.Sequence
import DeskScript.Vision.Search

/-!
# Templates on the screen

Pictures of the screen, and the search for templates on them: all example pictures of a template are
looked for, and what they find together is grouped.
-/

namespace DeskScript.Vision

structure Region where
  left : Value
  top : Value
  width : Value
  height : Value
  deriving Inhabited

/-- The region in a table of its edge and its size. -/
def Region.ofValue (s : Store) (v : Value) : Except Error Region := do
  return ⟨← s.entry v "left", ← s.entry v "top", ← s.entry v "width", ← s.entry v "height"⟩

def wholeScreen : Action Region := do
  let s := (← get).screen
  let (w, h) := s.pixels.getD (s.width, s.height)
  return ⟨.int 0, .int 0, .int w, .int h⟩

def keepsSize (scale : Value) : Bool := scale.sameKey (.int 1)

def memoryLimit : Nat := Number.twoTo 36

def pictureLength : Value → Except Error Int
  | .int n =>
    if -(Number.twoTo 63 : Int) ≤ n && n < Number.twoTo 63 then .ok n
    else .error (.value .dimension)
  | .bool _ => .error (.kind .truthValue)
  | v => .error (.kind (.integer v.kind))

/-- The number of values in a picture of some lengths, one more after the other. Lengths of zero do not
count. -/
def pictureArea (before : Nat) : List Int → Except Error Nat
  | [] => .ok before
  | n :: rest =>
    if n < 0 then .error (.value .negativeDimension)
    else if n = 0 then pictureArea before rest
    else if Number.twoTo 63 ≤ before * n.toNat then .error (.value .area)
    else pictureArea (before * n.toNat) rest

/-- The shape of a picture with four channels, of which three are kept. -/
def pictureShape (width height : Value) : Except Error Shape := do
  let h ← pictureLength height
  let w ← pictureLength width
  let area ← pictureArea 1 [h, w, 4]
  if memoryLimit < area && h ≠ 0 && w ≠ 0 then throw (.pictureMemory [h.toNat, w.toNat, 4])
  return [h.toNat, w.toNat, 3]

/-- Takes a picture of a region, or of the whole screen, and brings it to a scale. -/
def screenshot (region : Option Region) (scale : Value := .int 1) : Action Shape := do
  let r ← match region with
    | some r => pure r
    | none => wholeScreen
  Action.note (.capture r.left r.top r.width r.height)
  let shape ← pictureShape r.width r.height
  if keepsSize scale then return shape
  else shape.resize (← scaledLength scale shape.width) (← scaledLength scale shape.height)

/-- How many pixels a picture of the screen has for each unit of its coordinates. -/
def density (picture : Shape) : Action (Value × Value) := do
  let s := (← get).screen
  return (← (Value.int picture.width).div (.int s.width),
    ← (Value.int picture.height).div (.int s.height))

def toScreen (x y sx sy : Value) : Except Error (Value × Value) := do
  return (← x.div sx, ← y.div sy)

def isExample (name : String) : Bool :=
  [".png", ".jpg", ".jpeg"].any fun ending => (Text.lower name).endsWith ending

def examples (directory name : String) : Action (List String) := do
  let files := (← get).files
  let target := joinPath directory name
  if files.isDirectory target then
    return ((files.list target).filter isExample).map (joinPath target)
  else return []

structure Request where
  scales : Value := .ofItems ((evenly 0.8 1.2 5).map .float)
  threshold : Value := .float 0.8
  gray : Bool := true
  scale : Value := .float 0.8
  /-- The number of places asked for; all of them without one. -/
  count : Value := .int 1
  display : Display := .none
  deriving Inhabited

/-- The needle of an example picture at a scale. A needle at another scale than its picture is
stored for a moment. -/
def exampleNeedle (path : String) (scale : Value) : Action Needle := do
  if !keepsSize scale then
    match (← get).files.get? path with
    | some (.image shape) =>
      let small ← Shape.enlarge shape scale
      let aside := path.replace ".png" "_temp.png"
      Action.note (.saveImage aside small.width small.height)
      let _ ← (← get).files.target aside
      modify fun w => { w with files := w.files.set aside (.image small) }
      let needle ← Needle.read aside
      modify fun w => { w with files := w.files.remove aside }
      return needle
    | _ => throw .image
  else Needle.read path

/-- All finds of all examples, one after the other. -/
def findExamples (screen : Shape) (scale : Value) (settings : Settings) :
    List String → Op (List Rectangle)
  | [] => pure []
  | path :: rest => do
    let needle ← exampleNeedle path scale
    let found ← findScaled needle screen settings
    return found ++ (← findExamples screen scale settings rest)

/-- Each rectangle twice, so that one found once is kept. -/
def twice (rects : List Rectangle) : List Rectangle := rects.flatMap fun r => [r, r]

def firstOf {α : Type} (count : Value) (items : List α) : Except Error (List α) :=
  let first := fun n : Int => items.take (if 0 ≤ n then n else items.length + n).toNat
  match count with
  | .null => .ok items
  | .int n => .ok (first n)
  | .bool b => .ok (first (if b then 1 else 0))
  | _ => .error (.kind .sliceBound)

/-- The times that a search reports: the clock stands still meanwhile. -/
def reportTimes : Action Unit := do
  Action.sayLine "Locating took 0.000 seconds"
  Action.sayLine "Total time: 0.000 seconds"

def locate (directory name : String) (r : Request := {}) : Op (List (Int × Int)) := do
  let screen ← screenshot none r.scale
  let (sx, sy) ← density screen
  Action.sayLine "Screenshot took 0.000 seconds"
  let paths ← examples directory name
  Action.sayLine "Start locating"
  let scale ← if (← get).desk.dense then r.scale.mul (.float 0.5) else pure r.scale
  let settings : Settings :=
    { scales := r.scales, threshold := r.threshold, gray := r.gray, display := r.display }
  let found ← findExamples screen scale settings paths
  if found.isEmpty then
    reportTimes
    return []
  let kept := if 1 < found.length then group (twice found) else found
  if 1 < found.length then
    Action.sayLine s!"Templates found: {found.length} -> {kept.length} after dedup"
  let points ← (← firstOf r.count kept).mapM fun rect => do
    let (x, y) ← toScreen (.int rect.center.1) (.int rect.center.2) sx sy
    return (← x.toInt, ← y.toInt)
  reportTimes
  return points

end DeskScript.Vision
