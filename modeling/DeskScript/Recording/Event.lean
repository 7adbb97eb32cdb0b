import DeskScript.Value.Basic

/-!
# Recorded events

One thing a user did while a recording ran. Recordings are kept in files that anyone may edit, so
the fields hold whatever value was found there.
-/

namespace DeskScript

structure RecordedEvent where
  timestamp : Value
  kind : Value
  key : Value
  action : Value
  target : Option (List Value) := none
  origin : Option (List Value) := none
  /-- The milliseconds until the next event. -/
  duration : Value := .null
  deriving Inhabited, Repr

namespace RecordedEvent

def holds (v : Value) (s : String) : Bool :=
  match v with
  | .text t => t = s
  | _ => false

theorem holds_iff {v : Value} {s : String} : holds v s = true ↔ v = .text s := by
  cases v <;> simp [holds]

def isMove (e : RecordedEvent) : Bool := holds e.kind "mouse_move"

def isClick (e : RecordedEvent) : Bool := holds e.kind "mouse_click"

/-- The place an event led to, if it has coordinates at all. -/
def place? (e : RecordedEvent) : Option (List Value) := e.target.filter (!·.isEmpty)

def point (x y : Int) : List Value := [.int x, .int y]

end RecordedEvent

/-- Takes everything out of a queue: what was in it, and the queue that is left. -/
def drain (queue : List RecordedEvent) : List RecordedEvent × List RecordedEvent := (queue, [])

end DeskScript
