import DeskScript.Number.Complex
import DeskScript.Value.Kind

/-!
# Values and the store

Lists are shared: two variables may hold the same list, and a change through one is seen through
the other. So a list value is the number of a cell in a store, and the items live in the cell. All
other values are what they are, but the store gives each tuple and each table a number of its own,
by which a value that lies within itself is recognised.
-/

namespace DeskScript

inductive SignalKind where
  | giveBack | breakLoop | continueLoop
  deriving DecidableEq, Repr, Inhabited

inductive Value where
  | null
  | bool (b : Bool)
  | int (i : Int)
  | float (x : Float)
  /-- A result that is not a number. Each such result has a number of its own, because it is equal
  to nothing but, as an item, to itself. -/
  | nan (serial : Nat)
  /-- A complex number. One with a part that is not a number has a number of its own, like a
  result that is none. -/
  | complex (serial : Nat) (z : Number.Complex)
  | text (s : String)
  | bytes (bs : List UInt8)
  /-- A tuple. Its number is zero as long as the store has not given it one. -/
  | tuple (id : Nat) (items : List Value)
  | list (cell : Nat)
  /-- A set, in the order in which its items are gone through. -/
  | set (items : List Value)
  /-- A table, with a number like that of a tuple. Its keys are no lists, sets or tables. -/
  | dict (id : Nat) (entries : List (Value × Value))
  | ellipsis
  /-- A signal on its way out of blocks and loops. Each signal has a number of its own; what it
  carries is a list or a tuple, or else a single value. -/
  | signal (id : Nat) (kind : SignalKind) (payload : Value)
  deriving Inhabited, Repr

namespace Value

def kind : Value → Kind
  | null => .null
  | bool _ => .bool
  | int _ => .int
  | float _ | nan _ => .float
  | complex .. => .complex
  | text _ => .text
  | bytes _ => .bytes
  | tuple .. => .tuple
  | list _ => .list
  | set _ => .set
  | dict .. => .dict
  | ellipsis => .ellipsis
  | signal .. => .signal

/-- Scripts write truth as one and zero. -/
def ofBool (b : Bool) : Value := int (if b then 1 else 0)

def ofItems (items : List Value) : Value := tuple 0 items

def isNull : Value → Bool
  | null => true
  | _ => false

end Value

/-- The cells of all lists, and how many signals, results that are not numbers, tuples and tables
there have been. The first result that is no number is the one that all documents share. -/
structure Store where
  cells : Array (Array Value) := #[]
  signals : Nat := 0
  nans : Nat := 1
  marks : Nat := 1
  deriving Inhabited

namespace Store

def cell (s : Store) (cell : Nat) : Array Value := s.cells[cell]?.getD #[]

def get (s : Store) (cell : Nat) : List Value := (s.cell cell).toList

def alloc (s : Store) (items : List Value) : Value × Store :=
  (.list s.cells.size, { s with cells := s.cells.push items.toArray })

def push (s : Store) (cell : Nat) (item : Value) : Store :=
  { s with cells := s.cells.modify cell (·.push item) }

def eraseIdx (s : Store) (cell i : Nat) : Store :=
  { s with cells := s.cells.modify cell (·.eraseIdxIfInBounds i) }

def swap (s : Store) (cell i j : Nat) : Store :=
  { s with cells := s.cells.modify cell (·.swapIfInBounds i j) }

def newTuple (s : Store) (items : List Value) : Value × Store :=
  (.tuple s.marks items, { s with marks := s.marks + 1 })

def newDict (s : Store) (entries : List (Value × Value)) : Value × Store :=
  (.dict s.marks entries, { s with marks := s.marks + 1 })

mutual

/-- A value that has just been computed: it gets the numbers that it has not got yet. -/
def fresh (s : Store) : Value → Value × Store
  | .float x =>
    if Number.isNaN x then (.nan s.nans, { s with nans := s.nans + 1 }) else (.float x, s)
  | .complex serial z =>
    if serial = 0 && z.hasNaN then (.complex s.nans z, { s with nans := s.nans + 1 })
    else (.complex serial z, s)
  | .tuple 0 items =>
    let (items, s) := freshItems s items
    s.newTuple items
  | .dict 0 entries => s.newDict entries
  | v => (v, s)

def freshItems (s : Store) : List Value → List Value × Store
  | [] => ([], s)
  | v :: rest =>
    let (v, s) := fresh s v
    let (rest, s) := freshItems s rest
    (v :: rest, s)

end

def signal (s : Store) (kind : SignalKind) (payload : Value) : Value × Store :=
  (.signal s.signals kind payload, { s with signals := s.signals + 1 })

end Store

end DeskScript
