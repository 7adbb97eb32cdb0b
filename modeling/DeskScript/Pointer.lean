import DeskScript.Chance

/-!
# Moving the pointer

The pointer is moved at once, along a straight line, or along a curve that bends and trembles as a
hand does. Targets and settings come from scripts, so they are values; a setting of the wrong kind
is refused where it is first used.
-/

namespace DeskScript.Pointer

open Value (floatOfInt)

def pi : Float := 3.141592653589793

/-- An angle, which has to be finite or a NaN. -/
def angle (x : Float) : Except Error Float :=
  if Number.isInfinite x then .error (.value .domain) else .ok x

def span (dx dy : Value) : Except Error Float := do
  return Number.hypot (← dx.real) (← dy.real)

def distance (x₁ y₁ x₂ y₂ : Value) : Except Error Float := do
  span (← x₂.sub x₁) (← y₂.sub y₁)

/-- The seconds that a way takes at a speed in pixels per second; none at a speed that is not
positive. -/
def duration (x₁ y₁ x₂ y₂ speed : Value) : Except Error Value := do
  let d ← distance x₁ y₁ x₂ y₂
  if d == 0 then return .float 0
  else if ← Value.compares .greater speed (.int 0) then (Value.float d).div speed
  else return .float 0

def jump (x y duration : Value) : Action Unit := do
  Action.note (.moveTo x y duration)
  let x₀ ← x.toInt
  let y₀ ← y.toInt
  modify fun w => { w with cursor := ⟨x₀, y₀⟩ }

def position : Action (Value × Value) := do
  let p := (← get).cursor
  return (.int p.x, .int p.y)

def larger (a b : Float) : Float := if a < b then b else a

def smaller (a b : Float) : Float := if b < a then b else a

def smallerValue (a b : Value) : Except Error Value := do
  return if ← Value.compares .less b a then b else a

/-- A way to go: where from, where to, and in which direction. -/
structure Way where
  x₁ : Float
  y₁ : Float
  x₂ : Float
  y₂ : Float
  dx : Float
  dy : Float
  /-- Its length, or one for no way at all. -/
  length : Float
  deriving Repr

def Way.to (x y : Value) : Action Way := do
  let (x₀, y₀) ← position
  let dx ← x.sub x₀
  let dy ← y.sub y₀
  let d ← span dx dy
  return ⟨← x₀.real, ← y₀.real, ← x.real, ← y.real, ← dx.real, ← dy.real, if d == 0 then 1 else d⟩

/-- The components of the unit vector at a right angle to a way. -/
def Way.normal (w : Way) : Float × Float := (-(w.dy / w.length), w.dx / w.length)

/-- The number of steps for a way: as many as the time allows at a rate, but not more than the
distance is worth, and at least one. -/
def Way.steps (w : Way) (time : Float) (rate : Value) : Except Error Nat := do
  let byTime := max 1 (← ((← (Value.float time).mul rate).toInt))
  let reach := larger 8 (smaller (← floatOfInt byTime) (w.length * 0.35))
  let byDistance ← (Value.float reach).toInt
  return (max 1 (min byTime byDistance)).toNat

def keepTime (start stepTime : Float) (i : Nat) : Action Unit := do
  let target := start + Float.ofNat i * stepTime
  let now := (← get).clock
  if now < target then Action.sleep (target - now)

def follow (x y : Float) : Action Unit := do
  let x₀ ← (Value.float x).toInt
  let y₀ ← (Value.float y).toInt
  jump (.int x₀) (.int y₀) (.int 0)

def straightSteps (w : Way) (cx cy start stepTime : Float) (steps : Nat) : Nat → Action Unit
  | 0 => pure ()
  | left + 1 => do
    let i := steps - left
    let t := Float.ofNat i / Float.ofNat steps
    let u := 1 - t
    follow (u * u * w.x₁ + 2 * u * t * cx + t * t * w.x₂)
      (u * u * w.y₁ + 2 * u * t * cy + t * t * w.y₂)
    keepTime start stepTime i
    straightSteps w cx cy start stepTime steps left

def moveStraight (x y : Value) (time : Value := .float 0.25) (rate : Value := .int 240) :
    Action Unit := do
  let wanted ← (← time.mul (.float 0.90)).real
  let w ← Way.to x y
  let (nx, ny) := w.normal
  let steps ← w.steps wanted rate
  let cx := w.x₁ + w.dx * 0.5 + nx * 0
  let cy := w.y₁ + w.dy * 0.5 + ny * 0
  let start := (← get).clock
  straightSteps w cx cy start (wanted / Float.ofNat steps) steps steps
  jump x y (.int 0)

structure Curve where
  time : Value := .float 0.25
  rate : Value := .int 240
  accuracy : Value := .int 1
  /-- How far the curve bends; chosen from the distance when it is null. -/
  bend : Value := .null
  bendLimit : Value := .int 80
  tremble : Value := .int 2
  deriving Inhabited

/-- What has been decided about a curve before the first step. -/
structure Plan where
  way : Way
  x : Value
  y : Value
  accuracy : Value
  tremble : Value
  cx₁ : Float
  cy₁ : Float
  cx₂ : Float
  cy₂ : Float
  cycles : Float
  phase : Float
  frequency : Float
  time : Float
  start : Float
  stepTime : Float
  steps : Nat

def remaining (x y : Value) : Action Float := do
  let (x₀, y₀) ← position
  span (← x.sub x₀) (← y.sub y₀)

/-- How far the tremble takes the pointer aside at a moment. -/
def Plan.aside (p : Plan) (t : Float) : Except Error Float := do
  let swell := Float.pow (4 * t * (1 - t)) 1.4
  let settle := Float.pow (1 - t) 1.6
  if 0 < p.cycles then
    let a ← (← p.tremble.mul (.float swell)).mul (.float settle)
    let turn ← angle (p.phase + p.frequency * (t * p.time))
    (← a.mul (.float (Float.sin turn))).real
  else return 0

/-- Takes the steps that are left; stops when near enough. -/
def Plan.run (p : Plan) : Nat → Action Unit
  | 0 => pure ()
  | left + 1 => do
    let i := p.steps - left
    let t := Float.ofNat i / Float.ofNat p.steps
    let rest ← remaining p.x p.y
    if ← Value.compares .lessEq (.float rest) p.accuracy then return
    let u := 1 - t
    let w := p.way
    let cx := u * u * u * w.x₁ + 3 * (u * u) * t * p.cx₁ + 3 * u * (t * t) * p.cx₂
      + t * t * t * w.x₂
    let cy := u * u * u * w.y₁ + 3 * (u * u) * t * p.cy₁ + 3 * u * (t * t) * p.cy₂
      + t * t * t * w.y₂
    let aside ← p.aside t
    let (nx, ny) := w.normal
    follow (cx + nx * aside) (cy + ny * aside)
    keepTime p.start p.stepTime i
    p.run left

def moveCurved (x y : Value) (c : Curve := {}) : Action Unit := do
  let wanted ← (← c.time.mul (.float 0.8)).real
  let w ← Way.to x y
  let tenth := Value.float (w.length * 0.1)
  let limit := if ← Value.compares .less tenth c.bendLimit then tenth else c.bendLimit
  let (nx, ny) := w.normal
  let steps ← w.steps wanted c.rate
  let stepTime := wanted / Float.ofNat steps
  let apex₁ ← Chance.uniformReal 0.025 0.975
  let side₁ ← Chance.choice (-1) 1
  let apex₂ ← Chance.uniformReal 0.025 0.975
  let side₂ ← Chance.choice (-1) 1
  let bend ← if c.bend.isNull then do
      let share ← Chance.uniformReal 0.25 1.0
      pure (Value.float (Float.sqrt w.length * 5.0 * share))
    else pure c.bend
  let bend₁ ← (← (Value.int side₁).mul (← smallerValue limit bend)).real
  let bend₂ ← (← (Value.int side₂).mul (← smallerValue limit bend)).real
  let cycles ← Chance.uniformReal 0.5 (w.length / 100.0)
  let cycles := if w.length < 40 then 0 else cycles
  let phase ← Chance.uniformReal 0 (2 * pi)
  let start := (← get).clock
  let plan : Plan :=
    { way := w, x, y, accuracy := c.accuracy, tremble := c.tremble
      cx₁ := w.x₁ + w.dx * apex₁ + nx * bend₁
      cy₁ := w.y₁ + w.dy * apex₁ + ny * bend₁
      cx₂ := w.x₁ + w.dx * apex₂ + nx * bend₂
      cy₂ := w.y₁ + w.dy * apex₂ + ny * bend₂
      cycles, phase, frequency := 2 * pi * cycles / larger wanted 1e-3
      time := wanted, start, stepTime, steps }
  plan.run steps
  let rest ← remaining x y
  let elapsed := (← get).clock - start
  let timeLeft := larger (← (← c.time.sub (.float elapsed)).real) 0
  if 2 < rest then jump x y (.float (smaller 0.06 (larger 0.01 timeLeft)))
  else jump x y (.int 0)

/-- Moves the pointer to a place near a target, at a speed, like a hand or at once. -/
def moveTo (x y speed : Value) (handLike : Bool) (scatter : Value := .int 1) : Action Unit := do
  let (x₀, y₀) ← position
  let time ← duration x₀ y₀ x y speed
  let u ← Action.random
  if u < 0 then throw (.value .domain)
  let r ← (← scatter.mul (.float (Float.sqrt u))).real
  let theta ← angle (← Chance.uniformReal 0 (2 * pi))
  let dx ← (Value.float (r * Float.cos theta)).toInt
  let dy ← (Value.float (r * Float.sin theta)).toInt
  let x ← x.add (.int dx)
  let y ← y.add (.int dy)
  if handLike then moveCurved x y { time } else jump x y time

def moveBy (dx dy speed : Value) (handLike : Bool) : Action Unit := do
  let (x₀, y₀) ← position
  let x ← x₀.add dx
  let y ← y₀.add dy
  let _ ← duration x₀ y₀ x y speed
  moveTo x y speed handLike

end DeskScript.Pointer
