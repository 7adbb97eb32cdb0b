import DeskScript.Keyboard
import DeskScript.Recording.Squash

/-!
# Recording

A recording listens to mouse and keyboard from a start key to a stop key.
-/

namespace DeskScript.Recording

/-- The key with a name, if a keyboard has it. Without a name it is the given one. -/
def listenedKey (name : Value) (otherwise : Key) : Except Error (Option Key) :=
  match name with
  | .null => .ok (some otherwise)
  | _ => Keyboard.keyNamed? name

def calledKey (name : Value) (otherwise : String) : String :=
  match name with
  | .text n => if n.isEmpty then otherwise else n
  | _ => otherwise

def recorder : Action Recorder := do
  return (← get).recorder.getD { startKey := none, stopKey := none, stopName := "" }

def awaitStart : Nat → Action Unit
  | 0 => throw .noMoreEvents
  | fuel + 1 => do
    if (← recorder).started then return
    Action.deliverNext
    awaitStart fuel

/-- Delivers events one after the other until the recording is stopped, with a short rest after
each. -/
def awaitStop : Nat → Action Unit
  | 0 => throw .noMoreEvents
  | fuel + 1 => do
    if (← recorder).stopped then return
    Action.deliverNext
    if (← recorder).stopped then return
    Action.sleep 0.01
    awaitStop fuel

def notLater (a b : RecordedEvent) : Bool :=
  match a.timestamp, b.timestamp with
  | .float x, .float y => !(y < x)
  | _, _ => true

def listening (startName stopName : Value) : Except Error Recorder := do
  return {
    startKey := ← listenedKey startName (.special "space")
    stopKey := ← listenedKey stopName (.special "esc")
    stopName := calledKey stopName "ESC" }

/-- The recorder once it has been told where the pointer is at the start. -/
def placed (r : Recorder) (time : Float) (cursor : Point) : Recorder :=
  { r.add (Recorder.moveEvent time cursor none) with last := some cursor }

/-- Listens from the start key to the stop key. What has been put down comes in the order in which it
was heard. -/
def gather (startName stopName : Value) : Action (List RecordedEvent) := do
  let atWork ← listening startName stopName
  let called := calledKey startName "SPACE"
  Action.sayLine s!"Press {called} to start recording..."
  modify fun w => { w with recorder := some atWork }
  awaitStart ((← get).events.length + 1)
  Action.heard fun d => Desk.deliverUntil d.clock d.events d
  modify fun w => { w with recorder := w.recorder.map fun r => placed r w.clock w.cursor }
  awaitStop ((← get).events.length + 1)
  let events := (← recorder).events
  modify fun w => { w with recorder := none }
  return events

/-- Records what the user does. Moves farther apart than the threshold are kept. -/
def record (threshold : Value := .int 50) (startName stopName : Value := .null) :
    Action (List RecordedEvent) := do
  let events ← gather startName stopName
  let events ← attachDurations (← squash (farther threshold) (events.mergeSort notLater))
  Action.sayLine s!"✓ Recording stopped! Captured {events.length} events (compressed).\n"
  return events

end DeskScript.Recording
