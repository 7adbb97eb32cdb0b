import DeskScript.Cache

/-!
# Pointing things out

The user points at a place, a colour or a region and presses Enter. What was pointed out is kept,
and a script may ask for what was kept instead.
-/

namespace DeskScript.Capture

def rule (width : Nat) : String := Number.repeatChar '=' width

def checkCoordinate (n : Int) : Except Error Unit :=
  if n < -(Number.twoTo 63) || Number.twoTo 63 ≤ n then .error (.overflow .coordinate)
  else if Number.twoTo 31 ≤ n then .error (.overflow .coordinateHigh)
  else if n < -(Number.twoTo 31) then .error (.overflow .coordinateLow)
  else .ok ()

/-- Makes sure that a piece of the screen can be taken: its edges are in order, it has not too many
pixels, and its coordinates are not too large. -/
def checkGrab (left top right bottom : Int) : Except Error Unit := do
  if right < left then throw (.value .grabWidth)
  if bottom < top then throw (.value .grabHeight)
  let pixels := (max 1 (right - left)).toNat * (max 1 (bottom - top)).toNat
  if pixelLimit < pixels then throw (.pixelCount pixels)
  [left, top, right, bottom].forM checkCoordinate

def grab (left top right bottom : Int) : Action Unit := do
  Action.note (.grab left top right bottom)
  checkGrab left top right bottom

def pixelAt (x y : Int) : Action Color := do
  grab x y (x + 1) (y + 1)
  return (← get).screen.colorAt x y

def instruct (title hover press : String) : Action Unit := do
  Action.sayLine ("\n" ++ rule 50)
  Action.sayLine title
  Action.sayLine (rule 50)
  Action.sayLine ("1. " ++ hover)
  Action.sayLine ("2. " ++ press)
  Action.sayLine (rule 50 ++ "\n")
  let _ ← Action.ask "Press ENTER when ready: "

def listed (values : List Value) : Op String := do
  return ", ".intercalate (← values.mapM Op.shown)

def keep (kind : CacheKind) (noun name : String) (numbers : List Int) : Action (List Value) := do
  Cache.store kind name (.array (numbers.map Json.int))
  Action.sayLine s!"✓ Saved {noun} to cache for '{name}'"
  return numbers.map Value.int

def kept? (kind : CacheKind) (count : Nat) (name : String) : Op (Option (List Value)) := do
  let table ← Cache.load kind kind.path
  match ← Cache.lookup? table name with
  | some v => return some (← Op.ask fun s => s.unpack count v)
  | none => return none

/-- What is kept under a name if that is wanted, or else what the user points at. -/
def keptOr (kind : CacheKind) (noun label : String) (count : Nat) (name : String) (useCache : Bool)
    (pointOut : Op (List Value)) : Op (List Value) := do
  if useCache then
    match ← kept? kind count name with
    | some values =>
      let text ← listed values
      Action.sayLine s!"✓ Using cached {noun} for '{name}': {label}({text})"
      return values
    | none => Action.sayLine s!"! No cached {noun} found for '{name}', prompting user..."
  pointOut

def pointedPlace (name : String) : Op (List Value) := do
  instruct s!"SET COORDINATES FOR: {name}" "Hover your mouse over the desired position"
    "Press ENTER to capture the coordinates"
  let p := (← get).desk.cursor
  let text ← listed [.int p.x, .int p.y]
  Action.sayLine s!"✓ Captured coordinates: ({text})\n"
  keep .coordinates "coordinates" name [p.x, p.y]

def pointedColor (name : String) : Op (List Value) := do
  instruct s!"CAPTURE PIXEL COLOR FOR: {name}" "Hover your mouse over the desired pixel"
    "Press ENTER to capture the color"
  let p := (← get).desk.cursor
  let c ← pixelAt p.x p.y
  let place ← listed [.int p.x, .int p.y]
  let shades ← listed [.int c.red, .int c.green, .int c.blue]
  Action.sayLine s!"✓ Captured color at ({place}): RGB({shades})\n"
  keep .colors "color" name [c.red, c.green, c.blue]

def coordinates (name : String) (useCache : Bool) : Op (List Value) :=
  keptOr .coordinates "coordinates" "" 2 name useCache (pointedPlace name)

def color (name : String) (useCache : Bool) : Op (List Value) :=
  keptOr .colors "color" "RGB" 3 name useCache (pointedColor name)

def pointedCorner (step corner : String) : Op Point := do
  Action.sayLine step
  let _ ← Action.ask ""
  let p := (← get).desk.cursor
  let text ← listed [.int p.x, .int p.y]
  Action.sayLine s!"   {corner}: ({text})"
  return p

/-- The region between the two corners that the user points at, in whatever order. It is added to the
table of the others. -/
def pointedRegion (table : Json) (name : String) : Op Value := do
  Action.sayLine s!"\nCapturing region '{name}':"
  let p ← pointedCorner "1. Hover mouse over TOP-LEFT corner and press ENTER..." "Top-left"
  let q ← pointedCorner "2. Hover mouse over BOTTOM-RIGHT corner and press ENTER..." "Bottom-right"
  let corners := [min p.x q.x, min p.y q.y, max p.x q.x, max p.y q.y]
  let table ← Cache.insert table name (.array (corners.map Json.int))
  Cache.writeDocument Cache.regionsPath table
  let v := Value.ofItems (corners.map Value.int)
  let text ← Op.shown v
  Action.sayLine s!"Region '{name}' captured and cached: {text}\n"
  return v

/-- A region: the one kept under a name unless it is to be captured anew, or else the one that the user
points at. -/
def region (name : String) (anew : Bool) : Op Value := do
  let table ← Cache.loadRegions
  if !anew then
    match ← Cache.lookup? table name with
    | some v =>
      let text ← Op.shown v
      Action.sayLine s!"Using cached region '{name}': {text}"
      return .ofItems (← Op.ask fun s => s.items v)
    | none => pure ()
  pointedRegion table name

/-- Whether a colour is within a tolerance of another in every component. -/
def Color.near (tolerance : Int) (a b : Color) : Bool :=
  (a.red - b.red).natAbs ≤ tolerance && (a.green - b.green).natAbs ≤ tolerance &&
    (a.blue - b.blue).natAbs ≤ tolerance

/-- Whether a colour is to be seen within a radius around a point. The square around the circle is
looked at, without its last column and row. -/
def colorWithin (x y radius : Int) (target : Color) (tolerance : Int) : Action Bool := do
  grab (x - radius) (y - radius) (x + radius) (y + radius)
  let screen := (← get).screen
  let side := List.range (2 * radius).toNat
  return side.any fun i => side.any fun j =>
    let dx := (i : Int) - radius
    let dy := (j : Int) - radius
    dx * dx + dy * dy ≤ radius * radius &&
      Color.near tolerance (screen.colorAt (x + dx) (y + dy)) target

end DeskScript.Capture
