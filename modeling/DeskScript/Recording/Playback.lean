import DeskScript.Data.Insertion
import DeskScript.Keyboard
import DeskScript.Machine
import DeskScript.Recording.Squash

/-!
# Playback

A recording is played back event by event, each at its time, until the stop key is pressed.
-/

namespace DeskScript.Recording

/-- The first move with coordinates gets other ones. -/
def retarget (target : List Value) : List RecordedEvent → List RecordedEvent
  | [] => []
  | e :: rest =>
    if e.isMove && e.place?.isSome then { e with target := some target } :: rest
    else e :: retarget target rest

/-- Brings the pointer near the place where the recording starts, and lets the recording start
there. -/
def approach (jitter : Value) (events : List RecordedEvent) : Action (List RecordedEvent) := do
  match (events.find? fun e => e.isMove && e.place?.isSome).bind (·.place?) with
  | none => return events
  | some place =>
    let x ← coordinate place 0
    let x ← x.add (← Chance.uniform (← jitter.neg) jitter)
    let y ← coordinate place 1
    let y ← y.add (← Chance.uniform (.int (-5)) (.int 5))
    Pointer.moveTo x y (.int 800) true
    return retarget [x, y] events

/-- The button of a recorded click: what follows the last point of its text. -/
def clickedButton (key : Value) : Except Error String :=
  match key with
  | .text t => Keyboard.buttonOf ((t.splitOn ".").getLast?.getD "")
  | _ => .error (.missingName s!"'{key.kind.name}' object has no attribute 'split'")

/-- The key of a recorded key event. One that counts as nothing is none. -/
def recordedKey? (key : Value) : Option Key :=
  match key with
  | .text t => (Key.ofText? t).filter Key.isSet
  | _ => none

def perform (e : RecordedEvent) : Action Unit := do
  match e.place? with
  | some place =>
    if e.isMove then
      let (x₀, y₀) ← Pointer.position
      let x ← coordinate place 0
      let y ← coordinate place 1
      let _ ← Pointer.distance x₀ y₀ x y
      Pointer.moveTo x y (.int 2000) true
    else if e.isClick then
      let button ← clickedButton e.key
      Keyboard.sendButton button (RecordedEvent.holds e.action "down")
    else performKey
  | none => performKey
where
  performKey : Action Unit :=
    let down := RecordedEvent.holds e.kind "key_down"
    if down || RecordedEvent.holds e.kind "key_up" then
      match recordedKey? e.key with
      | some key => Keyboard.send key down
      | none => pure ()
    else pure ()

def watchFor (key : Key) : Action Nat := modifyGet fun w =>
  (w.watches.length, { w with watches := w.watches ++ [{ key }] })

def endWatch (watch : Nat) : Action Unit := modify fun w =>
  { w with watches := w.watches.modify watch fun s => { s with active := false } }

def isStopped (watch : Nat) : Action Bool := do
  return ((← get).watches[watch]?.map (·.stopped)).getD false

def awaitTurn (zero : Value) (start : Float) (e : RecordedEvent) : Action Unit := do
  let due ← e.timestamp.sub zero
  let wait ← due.sub (.float ((← get).clock - start))
  if ← Value.compares .greater wait (.int 0) then Action.sleep (← wait.real)

def play (watch : Nat) (zero : Value) (start : Float) : List RecordedEvent → Action Unit
  | [] => pure ()
  | e :: rest => do
    if ← isStopped watch then return
    awaitTurn zero start e
    perform e
    play watch zero start rest

/-- The stop key with a name. An unknown one is the escape key, and so is one without a name. -/
def stopKey (s : Store) (name : Value) : Except Error Key := do
  let escape : Key := .special "esc"
  if s.truth name then return (← Keyboard.keyNamed? name).getD escape else return escape

/-- Gets ready to play events: listens for the stop key, and brings the pointer to where they start. -/
def opening (events : List RecordedEvent) (stopName jitter : Value) :
    Op (Nat × List RecordedEvent) := do
  let key ← stopKey (← get).store stopName
  let watch ← watchFor key
  let events ← approach jitter events
  Action.sayLine "Starting playback..."
  return (watch, events)

/-- Listens no more, and says how a playback went. -/
def closing (watch : Nat) : Action Unit := do
  endWatch watch
  Action.sayLine (if ← isStopped watch then "Playback interrupted." else "Playback finished.")

def playback (events : List RecordedEvent) (stopName : Value := .text "esc")
    (jitter : Value := .int 1) : Op Unit := do
  Action.sayLine "Playing back..."
  match events with
  | [] => Action.sayLine "No events to play back."
  | first :: _ =>
    let (watch, events) ← opening events stopName jitter
    play watch first.timestamp (← get).desk.clock events
    closing watch

/-- How many times a value asks for something: none for a negative number. -/
def counted (v : Value) : Except Error Nat :=
  match v.numeric? with
  | some (.whole n) => .ok n.toNat
  | _ => .error (.kind (.integer v.kind))

def square (x : Float) : Except Error Float :=
  let y := x * x
  if Number.isInfinite y && !Number.isInfinite x then .error (.overflow .power) else .ok y

/-- Points scattered around the line between two others, nearest to the first one first. -/
def scatter (x₁ y₁ x₂ y₂ count : Value) : Action (List (Value × Value)) := do
  let points ← (List.range (← counted count)).mapM fun _ => do
    let t ← Chance.uniform (.int 0) (.int 1)
    let x ← (← x₁.add (← t.mul (← x₂.sub x₁))).add (← Chance.uniform (.int (-3)) (.int 3))
    let y ← (← y₁.add (← t.mul (← y₂.sub y₁))).add (← Chance.uniform (.int (-3)) (.int 3))
    return (x, y)
  let keyed ← points.mapM fun (x, y) => do
    let dx ← square (← (← x.sub x₁).real)
    let dy ← square (← (← y.sub y₁).real)
    return (dx + dy, x, y)
  return (Insertion.sort (fun a b => a.1 < b.1) keyed).map (·.2)

end DeskScript.Recording
