import DeskScript.Value.Order

/-!
# Sequences and tables

Length, items, elements and membership of the values that hold others.
-/

namespace DeskScript.Store

/-- The items of a value that can be gone through: the code points of a text, the numbers of bytes,
the keys of a table. -/
def items? (s : Store) : Value → Option (List Value)
  | .text t => some ((Text.points t).map fun n => .text (Text.single n))
  | .bytes bs => some (bs.map fun b => .int b.toNat)
  | .tuple _ items => some items
  | .list cell => some (s.get cell)
  | .set items => some items
  | .dict _ entries => some (entries.map (·.1))
  | _ => none

def items (s : Store) (v : Value) : Except Error (List Value) :=
  match s.items? v with
  | some items => .ok items
  | none => .error (.kind (.notIterable v.kind))

def length (s : Store) (v : Value) : Except Error Nat :=
  match v with
  | .list cell => .ok (s.cell cell).size
  | .text t => .ok (Text.length t)
  | _ =>
    match s.items? v with
    | some items => .ok items.length
    | none => .error (.kind (.noLength v.kind))

/-- Takes a value apart into exactly `n` items. -/
def unpack (s : Store) (n : Nat) (v : Value) : Except Error (List Value) :=
  match s.items? v with
  | none => .error (.kind (.notUnpackable v.kind))
  | some items =>
    if items.length < n then .error (.value (.tooFewItems n items.length))
    else if n < items.length then .error (.value (.tooManyItems n))
    else .ok items

/-- The place of an item in a sequence of a length; a negative index counts from the end. -/
def position? (length : Nat) (i : Int) : Option Nat :=
  if 0 ≤ i then some i.toNat else if 0 ≤ i + length then some (i + length).toNat else none

def nth? (s : Store) (v : Value) (i : Nat) : Option Value :=
  match v with
  | .list cell => (s.cell cell)[i]?
  | .text t => (Text.point? t i).map fun n => .text (Text.single n)
  | _ => ((s.items? v).getD [])[i]?

/-- The element of a value at an index, for a script: null when the value is false or the index is
past the end. -/
def element (s : Store) (v : Value) (i : Int) : Except ElementFault Value :=
  if !s.truth v then .ok .null
  else match s.length v with
    | .error _ => .error (.noLength v.kind)
    | .ok length =>
      if (length : Int) ≤ i then .ok .null
      else match v with
        | .dict _ entries =>
          match Value.under? entries (.int i) with
          | some value => .ok value
          | none => .error (.missingKey (toString i))
        | .set _ => .error (.notSubscriptable .set)
        | _ =>
          if i < -Number.twoTo 63 then .error .tooFar
          else match (position? length i).bind (s.nth? v) with
            | some item => .ok item
            | none => .error (.outOfRange v.kind)

def entryAt (s : Store) (v key : Value) : Except Error Value :=
  match v with
  | .dict _ entries =>
    match Value.under? entries key with
    | some value => .ok value
    | none => do .error (.missingKey (← s.quoted key))
  | .list _ => .error (.kind (.listSubscript key.kind))
  | .tuple .. => .error (.kind (.tupleSubscript key.kind))
  | .text _ => .error (.kind (.textSubscript key.kind))
  | .bytes _ => .error (.kind (.byteSubscript key.kind))
  | _ => .error (.kind (.notSubscriptable v.kind))

def entry (s : Store) (v : Value) (key : String) : Except Error Value := s.entryAt v (.text key)

def item (s : Store) (v : Value) (i : Nat) : Except Error Value :=
  match v with
  | .text _ | .bytes _ | .tuple .. | .list _ =>
    match s.nth? v i with
    | some item => .ok item
    | none => .error (.outOfRange v.kind)
  | .dict _ entries =>
    match Value.under? entries (.int i) with
    | some value => .ok value
    | none => .error (.missingKey (toString i))
  | _ => .error (.kind (.notSubscriptable v.kind))

def carried (s : Store) (payload : Value) : List Value :=
  match payload with
  | .tuple _ items => items
  | .list cell => s.get cell
  | v => [v]

def carriedOne (s : Store) (payload : Value) : Except Error Value :=
  match s.carried payload with
  | [v] => .ok v
  | _ => .error (.script .severalValues)

def within (part : List Nat) : List Nat → Bool
  | [] => part.isEmpty
  | n :: rest => part.isPrefixOf (n :: rest) || within part rest

def anyEqual (s : Store) (key : String) : List Value → Except Error Bool
  | [] => .ok false
  | item :: rest => do if ← s.itemEqual item (.text key) then return true else anyEqual s key rest

def contains (s : Store) (v : Value) (key : String) : Except Error Bool :=
  match v with
  | .dict _ entries => .ok (Value.under? entries (.text key)).isSome
  | .text t => .ok (within (Text.points key) (Text.points t))
  | .tuple _ items => s.anyEqual key items
  | .set items => .ok ((Value.text key).isIn items)
  | .list cell => s.anyEqual key (s.get cell)
  | _ => .error (.kind (.notContainer v.kind))

end DeskScript.Store
