import DeskScript.Recording.Event
import DeskScript.Value.Arithmetic
import DeskScript.World.Files
import DeskScript.World.Key
import DeskScript.World.Random
import DeskScript.World.Routine

/-!
# The world

What a script can sense and do: a clock, a console, a mouse and a keyboard, a screen, files, and a
user who acts now and then. A world is a value; an action on it is a routine that may also stop with
an error, and what was done up to then stays done.
-/

namespace DeskScript

inductive Deed where
  | press (key : Key)
  | release (key : Key)
  | move (target : Point)
  | click (target : Point) (button : Button) (down : Bool)
  deriving DecidableEq, Repr, Inhabited

structure UserEvent where
  time : Float
  deed : Deed
  deriving Repr, Inhabited

/-- How well a needle fits at each place: a base value, and other values at some places. -/
structure MatchMap where
  base : Float := 0
  peaks : List (Int × Int × Float) := []
  deriving Repr, Inhabited

inductive DeviceAct where
  | moveTo (x y duration : Value)
  | sleep (seconds : Float)
  | press (label : String)
  | release (label : String)
  | grab (left top right bottom : Int)
  | capture (left top width height : Value)
  | readText (width height : Int)
  | matchNeedle (width height needleWidth needleHeight : Int)
  | saveImage (path : String) (width height : Int)
  | drawBox (left top right bottom : Int)
  | drawCross (x y : Int)
  | showImage (title : String)
  deriving Repr, Inhabited

structure StopWatch where
  key : Key
  active : Bool := true
  stopped : Bool := false
  deriving Repr, Inhabited

structure Recorder where
  /-- The key that starts the recording; without one no key does. -/
  startKey : Option Key
  stopKey : Option Key
  stopName : String
  started : Bool := false
  stopped : Bool := false
  /-- Whether keys are still heard; the stop key ends that. -/
  hearsKeys : Bool := true
  last : Option Point := none
  events : List RecordedEvent := []
  deriving Repr, Inhabited

structure Desk where
  clock : Float := 0
  cursor : Point := ⟨0, 0⟩
  random : RandomStream := {}
  events : List UserEvent := []
  screen : Screen := {}
  files : Files := {}
  /-- What the text reader is going to find: each time a list of texts, each with its corners and how
  sure the reader is. -/
  sightings : List (List Json) := []
  maps : List MatchMap := []
  dense : Bool := false
  watches : List StopWatch := []
  recorder : Option Recorder := none
  acts : Array DeviceAct := #[]
  deriving Inhabited

structure World extends Desk, Console where
  deriving Inhabited

abbrev Action := Routine Desk

namespace Action

def sayAs (speaker : Speaker) (s : String) : Action Unit := .say speaker s (pure ())

def sayLine (s : String) : Action Unit := sayAs .script (s ++ "\n")

def note (act : DeviceAct) : Action Unit := modify fun d => { d with acts := d.acts.push act }

def askAs (speaker : Speaker) (prompt : String) : Action String :=
  .ask speaker prompt fun reply => do
    modify fun d => { d with cursor := reply.cursor.getD d.cursor }
    if reply.interrupt then throw .interrupted else return reply.line

def ask (prompt : String) : Action String := askAs .script prompt

def random : Action Float := modifyGet fun d =>
  let (x, r) := d.random.draw
  (x, { d with random := r })

end Action

namespace Recorder

def add (r : Recorder) (e : RecordedEvent) : Recorder := { r with events := r.events ++ [e] }

def moveEvent (time : Float) (target : Point) (origin : Option Point) : RecordedEvent :=
  { timestamp := .float time, kind := .text "mouse_move", key := .text "move",
    action := .text "move", target := some (RecordedEvent.point target.x target.y),
    origin := origin.map fun p => RecordedEvent.point p.x p.y }

def keyEvent (time : Float) (key : Key) (down : Bool) : RecordedEvent :=
  { timestamp := .float time, kind := .text (if down then "key_down" else "key_up"),
    key := .text key.text, action := .text (if down then "down" else "up") }

def clickEvent (time : Float) (target : Point) (button : Button) (down : Bool) : RecordedEvent :=
  { timestamp := .float time, kind := .text "mouse_click", key := .text button.text,
    action := .text (if down then "down" else "up"),
    target := some (RecordedEvent.point target.x target.y) }

def startText (stopName : String) : String :=
  s!"\n✓ Recording started! Press {stopName} to stop.\n\n"

/-- Hears of a deed at a time. The recording runs from the start key on; the stop key ends the
hearing of keys, while the mouse is heard to the end. -/
def hear (r : Recorder) (time : Float) : Deed → Recorder × String
  | .press key =>
    if !r.hearsKeys then (r, "")
    else if !r.started && some key = r.startKey then
      ({ r with started := true }, startText r.stopName)
    else if r.started && some key = r.stopKey then
      ({ r with stopped := true, hearsKeys := false }, "")
    else if r.started then (r.add (keyEvent time key true), "")
    else (r, "")
  | .release key =>
    if r.hearsKeys && r.started then (r.add (keyEvent time key false), "") else (r, "")
  | .move target =>
    if r.started then ({ r.add (moveEvent time target r.last) with last := some target }, "")
    else (r, "")
  | .click target button down =>
    if r.started then (r.add (clickEvent time target button down), "") else (r, "")

end Recorder

namespace StopWatch

def stopText : String := "\n✓ Playback stopped by user.\n\n"

def hear (s : StopWatch) : Deed → StopWatch × String
  | .press key =>
    if s.active && s.key = key then ({ s with active := false, stopped := true }, stopText)
    else (s, "")
  | _ => (s, "")

end StopWatch

/-- Something the user does reaches the desk: the clock does not run backwards, a move takes the
cursor along, and every listener hears of it. What the listeners print comes with it. -/
def Desk.deliver (d : Desk) (e : UserEvent) : List String × Desk :=
  let clock := if d.clock < e.time then e.time else d.clock
  let cursor := match e.deed with
    | .move target => target
    | _ => d.cursor
  let heard := d.watches.map (·.hear e.deed)
  let recorded := d.recorder.map (·.hear clock e.deed)
  let texts := heard.map (·.2) ++ (recorded.map (·.2)).toList
  (texts.filter (!·.isEmpty),
    { d with clock, cursor, watches := heard.map (·.1), recorder := recorded.map (·.1) })

def Desk.deliverUntil (limit : Float) : List UserEvent → Desk → List String × Desk
  | [], d => ([], { d with events := [] })
  | e :: rest, d =>
    if e.time ≤ limit then
      let (texts, d) := d.deliver e
      let (later, d) := deliverUntil limit rest d
      (texts ++ later, d)
    else ([], { d with events := e :: rest })

namespace Action

/-- A step of the desk after which listeners print. -/
def heard (f : Desk → List String × Desk) : Action Unit := do
  let texts ← modifyGet f
  texts.forM (sayAs .script)

def deliverNext : Action Unit := do
  match (← get).events with
  | [] => throw .noMoreEvents
  | e :: rest => heard fun d => ({ d with events := rest }).deliver e

def sleep (seconds : Float) : Action Unit := do
  if Number.isNaN seconds then throw (.value .sleepNotANumber)
  else if 9223372036 ≤ seconds then throw (.overflow .time)
  else if seconds < 0 then throw (.value .sleepNegative)
  else
    if Number.fixed 6 seconds != "0.000000" && Number.fixed 6 seconds != "-0.000000" then
      note (.sleep seconds)
    heard fun d =>
      let limit := d.clock + seconds
      let (texts, d) := Desk.deliverUntil limit d.events d
      (texts, { d with clock := limit })

end Action

end DeskScript
