import DeskScript.Machine
import DeskScript.Vision.Limit
import DeskScript.Vision.Rectangle

/-!
# Searching a picture

A needle is laid over every place of a haystack, and a map says how well it fits there. Pictures
are known by their shapes alone: height, width and, for colours, the number of channels. Settings
are values; one of the wrong kind is refused where it is first used.
-/

namespace DeskScript.Vision

abbrev Shape := List Nat

namespace Shape

def height (s : Shape) : Nat := s[0]?.getD 0

def width (s : Shape) : Nat := s[1]?.getD 0

def isVoid (s : Shape) : Bool := s.height = 0 || s.width = 0

def toGray (s : Shape) : Except Error Shape :=
  match s with
  | [h, w, c] => if (c = 3 || c = 4) && h ≠ 0 && w ≠ 0 then .ok [h, w] else .error .image
  | _ => .error .image

def byteLimit : Nat := Number.twoTo 34

/-- A picture brought to another size. A single channel need not be named any more. -/
def resize (s : Shape) (width height : Int) : Except Error Shape :=
  let channels := (s[2]?).getD 1
  if s.isVoid || width ≤ 0 || height ≤ 0 then .error .image
  else if byteLimit ≤ width.toNat * height.toNat * channels then .error .image
  else .ok (height.toNat :: width.toNat :: if channels = 1 then [] else s.drop 2)

/-- A picture with both sides multiplied by a factor, to the nearest pixel. -/
def enlarge (s : Shape) (factor : Value) : Except Error Shape :=
  match factor.real with
  | .ok f =>
    let side := fun n : Nat => Number.nearest (Float.ofNat n * f)
    s.resize (side s.width) (side s.height)
  | .error _ => .error .image

end Shape

structure Needle where
  shape : Shape
  method : Value := .int 5
  deriving Repr

/-- The needle in an image file, without its transparency. -/
def Needle.read (path : String) (method : Value := .int 5) : Action Needle := do
  match (← get).files.get? path with
  | some (.image shape) =>
    let shape := match shape with
      | [h, w, 4] => [h, w, 3]
      | s => s
    return ⟨shape, method⟩
  | _ => throw (.missingName "'NoneType' object has no attribute 'shape'")

abbrev Spot := Int × Int

def Spot.before (a b : Spot) : Bool := a.2 < b.2 || (a.2 = b.2 && a.1 ≤ b.1)

/-- A map of fits: its size, the value that most places have, and the places that have another one.
Of several values for a place the first one counts. -/
structure Fit where
  columns : Nat
  rows : Nat
  base : Float
  peaks : List (Spot × Float)

/-- Lays a needle over a haystack. A needle that is one pixel larger fits nowhere; one that is
larger still is refused. -/
def lay (haystack needle : Shape) : Action Fit := do
  Action.note (.matchNeedle haystack.width haystack.height needle.width needle.height)
  if haystack.width + 1 < needle.width || haystack.height + 1 < needle.height then
    throw (.value .negativeDimension)
  let map ← modifyGet fun w => (w.maps.head?.getD {}, { w with maps := w.maps.drop 1 })
  return {
    columns := haystack.width + 1 - needle.width
    rows := haystack.height + 1 - needle.height
    base := Number.single map.base
    peaks := map.peaks.reverse.map fun (x, y, v) => ((x, y), Number.single v) }

namespace Fit

def valueAt (f : Fit) (p : Spot) : Float := (List.lookup p f.peaks).getD f.base

def has (f : Fit) (p : Spot) : Bool :=
  0 ≤ p.1 && p.1 < f.columns && 0 ≤ p.2 && p.2 < f.rows

def places (f : Fit) : List Spot :=
  (List.range f.rows).flatMap fun y =>
    (List.range f.columns).map fun x => (Int.ofNat x, Int.ofNat y)

/-- The places of a map that have a value of their own, row by row. -/
def summits (f : Fit) : List Spot :=
  ((f.peaks.map (·.1)).filter f.has).eraseDups.mergeSort Spot.before

/-- The first place that has the common value. It is among as many places as there are others, and
one more. -/
def firstLevel? (f : Fit) : Option Spot :=
  let others := f.peaks.map (·.1)
  ((List.range (min (others.length + 1) (f.columns * f.rows))).map fun i =>
    (Int.ofNat (i % f.columns), Int.ofNat (i / f.columns))).find? fun p => !others.contains p

/-- The places where the fit reaches one limit, row by row. A map without places compares nothing. -/
def above (f : Fit) (limit : Value) : Except Error (List Spot) := do
  if f.columns * f.rows = 0 then return []
  let reaches := (precisionOf limit).reaches limit
  (if ← reaches f.base then f.places else f.summits).filterM fun p => reaches (f.valueAt p)

/-- The places where the fit reaches a threshold: one limit, or a list of them. A text is no
threshold. -/
def reaching (f : Fit) (s : Store) (threshold : Value) : Except Error (List Spot) := do
  match threshold with
  | .text _ => throw .incomparable
  | .list _ =>
    let limits ← Limits.ofValue s threshold
    let found ← limits.reached f.columns f.rows fun x y => f.valueAt (Int.ofNat x, Int.ofNat y)
    return found.map fun (x, y) => (Int.ofNat x, Int.ofNat y)
  | _ => f.above threshold

/-- The first place with the best value, where a value is better than another under a test. Of the
places with the common value only the first can be it. -/
def best? (f : Fit) (better : Float → Float → Bool) : Option (Spot × Float) :=
  let candidates := (f.firstLevel?.toList ++ f.summits).mergeSort Spot.before
  candidates.foldl (fun best p =>
    let v := f.valueAt p
    match best with
    | some (_, b) => if better v b then some (p, v) else best
    | none => some (p, v)) none

end Fit

/-- A rectangle of a size at each place, each one twice, so that a place found once is kept. -/
def doubled (places : List Spot) (width height : Int) : List Rectangle :=
  places.flatMap fun (x, y) => [⟨x, y, width, height⟩, ⟨x, y, width, height⟩]

/-- How finds are shown while searching. -/
inductive Display where
  | none | boxes | crosses | other
  deriving DecidableEq, Repr, Inhabited

def Display.ofText (s : String) : Display :=
  if s = "rectangles" then .boxes
  else if s = "points" then .crosses
  else if s.isEmpty then .none
  else .other

def draw (display : Display) (title : String) (rects : List Rectangle) : Action Unit := do
  for r in rects do
    match display with
    | .boxes => Action.note (.drawBox r.x r.y r.right r.bottom)
    | .crosses => Action.note (.drawCross r.center.1 r.center.2)
    | _ => pure ()
  if display ≠ .none then Action.note (.showImage title)

def find (needle : Needle) (haystack : Shape) (threshold : Value) (display : Display) :
    Op (List (Int × Int)) := do
  let fit ← lay haystack needle.shape
  let width := needle.shape.width
  let height := needle.shape.height
  let rects := group (doubled (← Op.ask fun s => fit.reaching s threshold) width height)
  draw display "Matches" rects
  return rects.map (·.center)

/-- Values from one to another in equal steps, the last one exact. -/
def evenly (first last : Float) (count : Nat) : List Float :=
  (List.range count).map fun i =>
    if i + 1 = count then last
    else first + Float.ofNat i * ((last - first) / Float.ofNat (count - 1))

def scaledLength (scale : Value) (n : Nat) : Except Error Int :=
  match scale with
  | .list _ => .error (.kind (.wholeNumber .list))
  | _ => do (← (Value.int n).mul scale).toInt

/-- The size of a needle at a scale, if it can be looked for: at least five pixels each way, and
not larger than the haystack. -/
def scaledSize (needle haystack : Shape) (scale : Value) : Except Error (Option (Int × Int)) := do
  let w ← scaledLength scale needle.width
  let h ← scaledLength scale needle.height
  if w < 5 || h < 5 || (haystack.width : Int) < w || (haystack.height : Int) < h then return none
  else return some (w, h)

def layScaled (haystack needle : Shape) (w h : Int) : Action Fit := do
  lay haystack (← needle.resize w h)

def isDifference (method : Value) : Bool := method.sameKey (.int 0) || method.sameKey (.int 1)

def better (method : Value) (a b : Float) : Bool := if isDifference method then a < b else b < a

/-- The best place at the first scale whose best value reaches the threshold. -/
def findOne (needle : Needle) (haystack shape : Shape) (threshold : Value) (display : Display) :
    List Value → Action (List Rectangle)
  | [] => pure []
  | scale :: rest => do
    match ← scaledSize shape haystack scale with
    | none => findOne needle haystack shape threshold display rest
    | some (w, h) =>
      let fit ← layScaled haystack shape w h
      match fit.best? (better needle.method) with
      | some ((x, y), v) =>
        if ← Value.compares .greaterEq (.float v) threshold then
          let r : Rectangle := ⟨x, y, w, h⟩
          if display ≠ .none then
            Action.note (.drawCross r.center.1 r.center.2)
            Action.note (.showImage "Multiscale Matches")
          return [r]
        else findOne needle haystack shape threshold display rest
      | none => findOne needle haystack shape threshold display rest

def findAll (haystack shape : Shape) (threshold : Value) : List Value → Op (List Rectangle)
  | [] => pure []
  | scale :: rest => do
    match ← scaledSize shape haystack scale with
    | none => findAll haystack shape threshold rest
    | some (w, h) =>
      let fit ← layScaled haystack shape w h
      match ← Op.ask fun s => fit.reaching s threshold with
      | [] => findAll haystack shape threshold rest
      | places => return doubled places w h

structure Settings where
  /-- The scales to try; without any, ten of them around the size of the needle. -/
  scales : Value := .null
  threshold : Value := .float 0.5
  gray : Bool := true
  findOne : Bool := false
  display : Display := .none
  deriving Inhabited

def Settings.scaleList (s : Settings) : Op (List Value) :=
  match s.scales with
  | .null => return (evenly 0.7 1.3 10).map .float
  | v => Op.ask fun store => store.items v

def findScaled (needle : Needle) (haystack : Shape) (s : Settings) : Op (List Rectangle) := do
  let inGray := fun shape : Shape =>
    if s.gray && shape.length = 3 then shape.toGray else .ok shape
  let hay ← inGray haystack
  let shape ← inGray needle.shape
  let scales ← s.scaleList
  if s.findOne then findOne needle hay shape s.threshold s.display scales
  else
    match ← findAll hay shape s.threshold scales with
    | [] => return []
    | rects =>
      let found := group rects
      draw s.display "Multiscale Matches" found
      return found

end DeskScript.Vision
