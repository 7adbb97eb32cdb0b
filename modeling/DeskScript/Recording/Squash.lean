import DeskScript.Pointer

/-!
# Squashing moves

A mouse reports far more moves than a recording needs. Consecutive moves that stay near the first of
them become one move, from where the first began to where the last ended. Everything else is kept.
-/

namespace DeskScript.Recording

/-- The move that stands for a group: its last move, from where its first one began. -/
def merge (first last : RecordedEvent) : RecordedEvent :=
  { last with
    origin := if (first.origin.filter (!·.isEmpty)).isSome then first.origin else first.target }

/-- Squashes events, given the first and the last move of a group still open. A move that is too
far from the first one of its group starts a new group; anything but a move closes the group. -/
def squashFrom (far : RecordedEvent → RecordedEvent → Except Error Bool) :
    Option (RecordedEvent × RecordedEvent) → List RecordedEvent →
      Except Error (List RecordedEvent)
  | none, [] => .ok []
  | some (first, last), [] => .ok [merge first last]
  | none, e :: rest =>
    if e.isMove then squashFrom far (some (e, e)) rest
    else do return e :: (← squashFrom far none rest)
  | some (first, last), e :: rest => do
    if e.isMove then
      if ← far first e then return merge first last :: (← squashFrom far (some (e, e)) rest)
      else squashFrom far (some (first, e)) rest
    else return merge first last :: e :: (← squashFrom far none rest)

def squash (far : RecordedEvent → RecordedEvent → Except Error Bool) (events : List RecordedEvent) :
    Except Error (List RecordedEvent) :=
  squashFrom far none events

def coordinate (place : List Value) (i : Nat) : Except Error Value :=
  match place[i]? with
  | some v => .ok v
  | none => .error (.outOfRange .tuple)

/-- Whether a move is farther than a threshold from the first one of its group. A move without
coordinates is near. -/
def farther (threshold : Value) (first e : RecordedEvent) : Except Error Bool :=
  match first.place?, e.place? with
  | some a, some b => do
    let d ← Pointer.distance (← coordinate a 0) (← coordinate a 1) (← coordinate b 0)
      (← coordinate b 1)
    Value.compares .greater (.float d) threshold
  | _, _ => .ok false

def gap (e next : RecordedEvent) : Except Error Int := do
  let ms ← (← next.timestamp.sub e.timestamp).mul (.float 1000.0)
  return max 0 (← ms.toInt)

/-- Gives each event the time until the next one, and the last one none. -/
def attachDurations : List RecordedEvent → Except Error (List RecordedEvent)
  | [] => .ok []
  | [e] => .ok [{ e with duration := .int 0 }]
  | e :: next :: rest => do
    let ms ← gap e next
    return { e with duration := .int ms } :: (← attachDurations (next :: rest))

end DeskScript.Recording
