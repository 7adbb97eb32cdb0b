import DeskScript.Data.Json.Reader
import DeskScript.Machine

/-!
# Caches

What a user has pointed out or recorded is kept in files, one table for each purpose. A table that
cannot be read counts as empty, with a warning; the table of regions alone insists on being
readable.
-/

namespace DeskScript

/-- The kinds of caches: what their file is called by default and in warnings. -/
inductive CacheKind where
  | coordinates | colors | recordings
  deriving DecidableEq, Repr, Inhabited

namespace CacheKind

def path : CacheKind → String
  | coordinates => "coordinates_cache.json"
  | colors => "pixel_colors_cache.json"
  | recordings => "recordings_cache.json"

def noun : CacheKind → String
  | coordinates => "cache file"
  | colors => "pixel colors cache file"
  | recordings => "recordings cache file"

end CacheKind

namespace Cache

def regionsPath : String := "regions_cache.json"

def document (s : String) : Except Error Json :=
  match Json.read s with
  | .ok j => .ok j
  | .error (.tooLong digits) => .error (.value (.wholeNumberDigits digits))
  | .error (.nesting object) => .error (.documentNesting object)
  | .error fault => .error (.json (fault.message s))

def readDocument (path : String) : Action Json := do
  let s ← (← get).files.read path
  document s

def writeDocument (path : String) (j : Json) : Action Unit := do
  let files ← (← get).files.write path j.write
  modify fun w => { w with files }

/-- The table in a cache file; empty when there is none, or none that can be read. -/
def load (kind : CacheKind) (path : String) : Action Json := do
  if (← get).files.has path then
    tryCatch (readDocument path) fun e => do
      Action.sayLine s!"Warning: Could not load {kind.noun}: {e.message}"
      return .object []
  else return .object []

/-- Stores a table in a cache file. A failure is only reported. -/
def save (kind : CacheKind) (path : String) (j : Json) : Action Unit :=
  tryCatch (writeDocument path j) fun e =>
    Action.sayLine s!"Warning: Could not save {kind.noun}: {e.message}"

def kindOf : Json → Kind
  | .null => .null
  | .bool _ => .bool
  | .int _ => .int
  | .float _ => .float
  | .text _ => .text
  | .array _ => .list
  | .object _ => .dict

def insert (j : Json) (key : String) (value : Json) : Except Error Json :=
  match j with
  | .object members => .ok (.object (Json.setMember key value members))
  | .array _ => .error (.kind (.listSubscript .text))
  | _ => .error (.kind (.itemAssignment (kindOf j)))

def lookup? (table : Json) (key : String) : Op (Option Value) := do
  let v ← Op.newDocument table
  if ← Op.ask fun s => s.contains v key then
    return some (← Op.ask fun s => s.entry v key)
  else return none

def store (kind : CacheKind) (key : String) (value : Json) : Action Unit := do
  let table ← load kind kind.path
  save kind kind.path (← insert table key value)

/-- The table of regions, which has to be readable. -/
def loadRegions : Action Json := do
  if (← get).files.has regionsPath then readDocument regionsPath else return .object []

def hasRecording (name : String) (path : String := CacheKind.recordings.path) : Op Bool := do
  let table ← load .recordings path
  let v ← Op.newDocument table
  Op.ask fun s => s.contains v name

end Cache

end DeskScript
