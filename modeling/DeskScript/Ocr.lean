import DeskScript.Vision.Screenshot

/-!
# Reading text

Text is looked for in a picture of the screen at up to three sizes; the first one at which the
reader is sure enough of anything counts. A filter then selects by words, ignoring case. Settings
are values; one of the wrong kind is refused where it is first used.
-/

namespace DeskScript.Ocr

open Vision

/-- The picture that is given to the reader: brought to a size, and grey. A scale has to be one that
can be compared with a number. -/
def prepare (s : Store) (picture : Shape) (scale : Value) : Except Error Shape := do
  if s.truth scale && !keepsSize scale then
    let _ ← Value.compares .greater scale (.float 1)
    (← picture.enlarge scale).toGray
  else picture.toGray

def read (picture : Shape) : Action (List Json) := do
  Action.note (.readText picture.width picture.height)
  modifyGet fun w => (w.sightings.head?.getD [], { w with sightings := w.sightings.drop 1 })

/-- A text that the reader has found: its corners, the text, and how sure the reader is. -/
structure Sighting where
  box : Json
  text : Value
  confidence : Value

def Sighting.ofJson (j : Json) : Op Sighting := do
  match j with
  | .array [box, text, confidence] =>
    return ⟨box, ← Op.newDocument text, ← Op.newDocument confidence⟩
  | _ =>
    let v ← Op.newDocument j
    let _ ← Op.ask fun s => s.unpack 3 v
    throw (.kind (.notUnpackable v.kind))

/-- Text found on the screen: its corners there, the text, and how sure the reader is. -/
structure Finding where
  box : List (List Float)
  text : Value
  confidence : Float
  deriving Repr, Inhabited

def folded : Value → Except Error (List Nat)
  | .text t => .ok (Text.points (Text.lower t))
  | v => .error (.missingName s!"'{v.kind.name}' object has no attribute 'lower'")

def contains (text word : Value) : Except Error Bool := do
  let part ← folded word
  return Store.within part (← folded text)

/-- Whether a filter selects a text. One without content selects every text; several words select
a text that contains one of them. -/
def selects (s : Store) (filter text : Value) : Except Error Bool :=
  if !s.truth filter then .ok true
  else match filter with
    | .tuple _ words => words.anyM (contains text)
    | .list cell => (s.get cell).anyM (contains text)
    | word => contains text word

/-! ### Boxes -/

/-- What a box is made of: a number, numbers, or corners with as many coordinates each. -/
inductive Box where
  | number
  | flat (count : Nat)
  | corners (size : Nat) (corners : List (List Float))
  | deep (size : Nat)

def coordinate : Json → Except Error Float
  | .null => .ok Number.nan
  | j => do return Number.single (← (({} : Store).load j).1.toFloat)

def rows? (items : List Json) : Option (List (List Json)) :=
  items.mapM fun j => match j with
    | .array row => some row
    | _ => none

def isArray : Json → Bool
  | .array _ => true
  | _ => false

/-- The box in a document. Arrays side by side have to be of one length. -/
def Box.ofJson : Json → Except Error Box
  | .array items =>
    match rows? items with
    | some (first :: rest) =>
      if !rest.all (·.length = first.length) then .error (.value (.ragged [items.length]))
      else
        let inner := (first :: rest).flatten
        if !inner.isEmpty && inner.all isArray then .ok (.deep first.length)
        else if inner.any isArray then .error (.value (.ragged [items.length, first.length]))
        else do return .corners first.length (← (first :: rest).mapM fun row => row.mapM coordinate)
    | _ =>
      if items.any isArray then .error (.value (.ragged [items.length]))
      else do return .flat (← items.mapM coordinate).length
  | j => do
    let _ ← coordinate j
    return .number

/-- A way to move in single precision. A whole number has to fit a machine word. -/
def offset : Value → Except Error Float
  | .int i =>
    if fitsWord i then .ok (Number.singleOfRatio (i < 0) i.natAbs 1) else .error (.box .offset)
  | v => do return Number.single (← v.real)

/-- Makes sure that corners with so many coordinates can be moved, and says how far. -/
def offsets (size : Nat) (left top : Value) : Except Error (Float × Float) := do
  if size = 0 then throw (.box (.column 0 0))
  let dx ← offset left
  if size = 1 then throw (.box (.column 1 1))
  return (dx, ← offset top)

/-- A corner on the screen: brought back to scale and moved to the region, in single precision. -/
def place (scale : Float) (moved : Option (Float × Float)) (corner : List Float) : List Float :=
  let back := fun v : Float => Number.single (v / Number.single scale)
  match corner, moved with
  | [x, y], some (dx, dy) => [Number.single (back x + dx), Number.single (back y + dy)]
  | coordinates, _ => coordinates.map back

def checkPair (size : Nat) : Except Error Unit :=
  if size < 2 then .error (.value (.tooFewItems 2 size))
  else if 2 < size then .error (.value (.tooManyItems 2))
  else .ok ()

/-- The corners of a box on the screen, given the region that it was found in. -/
def Box.placed (scale : Float) (region : Option Region) : Box → Except Error (List (List Float))
  | .number => .error (.box (if region.isSome then .moveNumber else .number))
  | .flat count =>
    if region.isSome then .error (.box .moveFlat)
    else if count = 0 then .ok [] else .error (.box .flat)
  | .deep size => do
    if let some r := region then let _ ← offsets size r.left r.top
    checkPair size
    throw (.box .deep)
  | .corners size points => do
    let moved ← region.mapM fun r => offsets size r.left r.top
    checkPair size
    return points.map (place scale moved)

structure Query where
  region : Option Region := none
  confidence : Value := .float 0.45
  filter : Value := .null
  scale : Value := .float 1
  deriving Inhabited

/-- What a query asks for of a sighting that is sure enough. -/
def Query.finding? (q : Query) (store : Store) (scale : Float) (s : Sighting) :
    Except Error (Option Finding) := do
  if ← selects store q.filter s.text then
    let corners ← (← Box.ofJson s.box).placed scale q.region
    return some ⟨corners, s.text, ← s.confidence.toFloat⟩
  else return none

def Query.sure? (q : Query) (j : Json) : Op (Option Sighting) := do
  let s ← Sighting.ofJson j
  if ← Op.ask fun store => store.related .greaterEq s.confidence q.confidence then return some s
  else return none

/-- Looks at one size after the other until the reader is sure of something. -/
def look (q : Query) : List Value → Op (Option (List Finding))
  | [] => pure none
  | scale :: rest => do
    let picture ← screenshot q.region
    let seen ← read (← Op.ask fun s => prepare s picture scale)
    match ← seen.filterMapM q.sure? with
    | [] => look q rest
    | sure =>
      let factor ← scale.real
      return some (← Op.ask fun store => sure.filterMapM fun s => q.finding? store factor s)

/-- Finds text on the screen: at the given size, then a little larger, then a little smaller. -/
def find (q : Query) : Op (Option (List Finding)) := do
  look q [q.scale, ← q.scale.mul (.float 1.2), ← q.scale.mul (.float 0.8)]

def regionOf (left top right bottom : Value) : Except Error Region := do
  return ⟨left, top, ← right.sub left, ← bottom.sub top⟩

end DeskScript.Ocr
