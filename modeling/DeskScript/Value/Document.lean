import DeskScript.Data.Json
import DeskScript.Value.Basic

/-!
# Values from documents

A document read into the store: each array becomes a list of its own.
-/

namespace DeskScript.Store

mutual

def load (s : Store) : Json → Value × Store
  | .null => (.null, s)
  | .bool b => (.bool b, s)
  | .int i => (.int i, s)
  | .float x => (if Number.isNaN x then .nan 0 else .float x, s)
  | .text t => (.text t, s)
  | .array items =>
    let (values, s) := loadItems s items
    s.alloc values
  | .object members =>
    let (entries, s) := loadMembers s members
    s.newDict entries

def loadItems (s : Store) : List Json → List Value × Store
  | [] => ([], s)
  | item :: rest =>
    let (value, s) := load s item
    let (values, s) := loadItems s rest
    (value :: values, s)

def loadMembers (s : Store) : List (String × Json) → List (Value × Value) × Store
  | [] => ([], s)
  | (key, item) :: rest =>
    let (value, s) := load s item
    let (entries, s) := loadMembers s rest
    ((.text key, value) :: entries, s)

end

end DeskScript.Store
