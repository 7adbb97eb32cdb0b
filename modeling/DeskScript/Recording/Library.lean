import DeskScript.Capture
import DeskScript.Recording.Playback
import DeskScript.Recording.Record

/-!
# The library of recordings

Recordings are kept under names. An event is written with all of its fields; reading it back asks
for the fields it cannot do without.
-/

namespace DeskScript.Recording

def fieldJson : Value → Json
  | .bool b => .bool b
  | .int i => .int i
  | .float x => .float x
  | .text s => .text s
  | _ => .null

def placeJson : Option (List Value) → Json
  | some vs => .array (vs.map fieldJson)
  | none => .null

def eventJson (e : RecordedEvent) : Json :=
  .object
    [("timestamp", fieldJson e.timestamp), ("kind", fieldJson e.kind), ("key", fieldJson e.key),
      ("action", fieldJson e.action), ("to_coordinates", placeJson e.target),
      ("from_coordinates", placeJson e.origin), ("duration_ms", fieldJson e.duration)]

/-- The coordinates in a field of an event: none unless the field is there and true. -/
def readPlace (s : Store) (data : Value) (field : String) : Except Error (Option (List Value)) := do
  if ← s.contains data field then
    let v ← s.entry data field
    if s.truth v then return some (← s.items v) else return none
  else return none

def optionalField (data : Value) (field : String) : Value :=
  match data with
  | .dict _ entries => (Value.under? entries (.text field)).getD .null
  | _ => .null

def readEvent (s : Store) (data : Value) : Except Error RecordedEvent := do
  return {
    timestamp := ← s.entry data "timestamp"
    kind := ← s.entry data "kind"
    key := ← s.entry data "key"
    action := ← s.entry data "action"
    target := ← readPlace s data "to_coordinates"
    origin := ← readPlace s data "from_coordinates"
    duration := optionalField data "duration_ms" }

def keep (name : String) (events : List RecordedEvent) : Action Unit :=
  Cache.store .recordings name (.array (events.map eventJson))

def eventsOf (data : Value) : Op (List RecordedEvent) := do
  let items ← Op.ask fun s => s.items data
  Op.ask fun s => items.mapM (readEvent s)

def recordAs (name : String) (startName stopName : String) : Op Unit := do
  let rule := Capture.rule 60
  Action.sayLine ("\n" ++ rule)
  Action.sayLine s!"RECORD MODE: {name}"
  Action.sayLine rule
  Action.sayLine "Recording will compress mouse movements for natural playback"
  Action.sayLine (rule ++ "\n")
  let events ← record (.float (Number.infinity false)) (.text startName) (.text stopName)
  keep name events
  Action.sayLine s!"✓ Saved recording '{name}' to cache."

def heading (name : String) : Action Unit := do
  let rule := Capture.rule 60
  Action.sayLine ("\n" ++ rule)
  Action.sayLine s!"PLAYBACK MODE: {name}"
  Action.sayLine rule

def countdown (count : Nat) : Action Unit := do
  let rule := Capture.rule 60
  Action.sayLine s!"Total events: {count}"
  Action.sayLine "Mouse movements will use randomized human-like curves"
  Action.sayLine rule
  Action.sayLine "Playback will start in 3 seconds..."
  Action.sayLine (rule ++ "\n")
  Action.sleep 3

def playBack (name stopName : String) : Op Unit := do
  let table ← Cache.load .recordings CacheKind.recordings.path
  match ← Cache.lookup? table name with
  | none => Action.sayLine s!"✗ Error: No recording found with name '{name}'"
  | some data =>
    heading name
    let count ← Op.ask fun s => s.length data
    countdown count
    let events ← eventsOf data
    playback events (.text stopName)

end DeskScript.Recording
