import DeskScript.Text.Bytes
import DeskScript.Value.Slots

/-!
# Arithmetic

The operators on values. Whole numbers are exact and of any size; with a fraction on either side
both become doubles, and with a complex number both become complex. Texts, bytes and tuples can be
joined and repeated. Lists can too, but a new list needs the store, so here they only appear in
refusals.
-/

namespace DeskScript.Value

open Number

def arith (onWhole : Int → Int → Except Error Value) (onReal : Float → Float → Except Error Value) :
    Numeric → Numeric → Except Error Value
  | .whole i, .whole j => onWhole i j
  | a, b => do onReal (← a.toFloat) (← b.toFloat)

/-- Two values as complex numbers, if one of them is complex and the other one is a number. -/
def complexes? (a b : Value) : Option (Except Error (Number.Complex × Number.Complex)) :=
  match a, b with
  | complex _ z, complex _ w => some (.ok (z, w))
  | complex _ z, _ => b.numeric?.map fun n => do return (z, .ofReal (← n.toFloat))
  | _, complex _ w => a.numeric?.map fun n => do return (.ofReal (← n.toFloat), w)
  | _, _ => none

def onComplex (op : Number.Complex → Number.Complex → Number.Complex)
    (pair : Except Error (Number.Complex × Number.Complex)) : Except Error Value := do
  let (z, w) ← pair
  return complex 0 (op z w)

def isSequence (k : Kind) : Bool := k = .text || k = .tuple || k = .list

/-- Two tuples joined. With nothing to add a tuple stays the same. -/
def joinTuples (a : Value) (items : List Value) (b : Value) (others : List Value) : Value :=
  if items.isEmpty then b else if others.isEmpty then a else tuple 0 (items ++ others)

def add (a b : Value) : Except Error Value :=
  match a.numeric?, b.numeric? with
  | some x, some y =>
    arith (fun i j => .ok (int (i + j))) (fun u v => .ok (float (u + v))) x y
  | _, _ =>
    match complexes? a b, a, b with
    | some pair, _, _ => onComplex Number.Complex.add pair
    | none, text s, text t => .ok (text (s ++ t))
    | none, bytes s, bytes t => .ok (bytes (s ++ t))
    | none, tuple _ s, tuple _ t => .ok (joinTuples a s b t)
    | none, bytes _, _ => .error (.kind (.byteConcatenation b.kind))
    | none, _, _ =>
      if isSequence a.kind then .error (.kind (.concatenation a.kind b.kind))
      else .error (.kind (.operands "+" a.kind b.kind))

def sub (a b : Value) : Except Error Value :=
  match a.numeric?, b.numeric? with
  | some x, some y =>
    arith (fun i j => .ok (int (i - j))) (fun u v => .ok (float (u - v))) x y
  | _, _ =>
    match complexes? a b, a, b with
    | some pair, _, _ => onComplex Number.Complex.sub pair
    | none, set items, set others => .ok (set (setDifference items others))
    | none, _, _ => .error (.kind (.operands "-" a.kind b.kind))

def sizeLimit : Nat := Number.twoTo 32

/-- Checks how often a sequence is to be repeated: a whole number that fits a machine word, and not
so large that the result cannot be held. A length beyond a machine word has a fault of its own. -/
def repetitions (length : Nat) (count : Value) (tooLong : Error := .memory) : Except Error Nat :=
  match count.numeric? with
  | some (.whole n) =>
    if n < -Number.twoTo 63 || Number.twoTo 63 ≤ n then .error (.overflow .index)
    else if Number.twoTo 63 ≤ n.toNat * length then .error tooLong
    else if sizeLimit < n.toNat * length then .error .memory
    else .ok (if length = 0 then 0 else n.toNat)
  | _ => .error (.kind (.repetition count.kind))

def repeatItems {α : Type} (n : Nat) (items : List α) : List α :=
  (List.replicate n items).flatten

def repeatString (s : String) (n : Nat) : String :=
  if n = 0 then ""
  else
    let half := repeatString s (n / 2)
    if n % 2 = 0 then half ++ half else half ++ half ++ s
termination_by n

def repeatText (s : String) (count : Value) : Except Error Value := do
  return text (repeatString s (← repetitions (Text.length s) count (.overflow (.repetition .text))))

def repeatBytes (bs : List UInt8) (count : Value) : Except Error Value := do
  return bytes (repeatItems (← repetitions bs.length count (.overflow (.repetition .bytes))) bs)

def repeatTuple (id : Nat) (items : List Value) (count : Value) : Except Error Value := do
  let n ← repetitions items.length count
  return if n = 1 || items.isEmpty then tuple id items else tuple 0 (repeatItems n items)

/-- The product of numbers, or a sequence repeated; of two sequences the first is the one to be
repeated. -/
def mul (a b : Value) : Except Error Value :=
  match a.numeric?, b.numeric? with
  | some x, some y =>
    arith (fun i j => .ok (int (i * j))) (fun u v => .ok (float (u * v))) x y
  | _, _ =>
    match complexes? a b, a with
    | some pair, _ => onComplex Number.Complex.mul pair
    | none, text s => repeatText s b
    | none, bytes bs => repeatBytes bs b
    | none, tuple id s => repeatTuple id s b
    | none, list _ => .error (.kind (.repetition b.kind))
    | none, _ =>
      match b with
      | text s => repeatText s a
      | bytes bs => repeatBytes bs a
      | tuple id s => repeatTuple id s a
      | list _ => .error (.kind (.repetition a.kind))
      | _ => .error (.kind (.operands "*" a.kind b.kind))

def div (a b : Value) : Except Error Value :=
  match a.numeric?, b.numeric? with
  | some x, some y =>
    arith
      (fun i j =>
        if j = 0 then .error (.division .whole)
        else match quotient? i j with
          | some q => .ok (float q)
          | none => .error (.overflow .quotient))
      (fun u v => if v == 0 then .error (.division .fractional) else .ok (float (u / v))) x y
  | _, _ =>
    match complexes? a b with
    | some pair => do
      let (z, w) ← pair
      match z.div? w with
      | some q => return complex 0 q
      | none => .error (.division .complex)
    | none => .error (.kind (.operands "/" a.kind b.kind))

def mod (a b : Value) : Except Error Value :=
  match a.numeric?, b.numeric? with
  | some x, some y =>
    arith
      (fun i j => if j = 0 then .error (.division .wholeRemainder) else .ok (int (i.fmod j)))
      (fun u v =>
        if v == 0 then .error (.division .fractionalRemainder) else .ok (float (floorMod u v))) x y
  | _, _ => .error (.kind (.operands "%" a.kind b.kind))

def neg (a : Value) : Except Error Value :=
  match a.numeric?, a with
  | some (.whole i), _ => .ok (int (-i))
  | some (.real x), _ => .ok (float (-x))
  | none, complex _ z => .ok (complex 0 z.neg)
  | none, _ => .error (.kind (.negation a.kind))

/-- The whole number that a text says, which is shown in a certain way if it is none. -/
def wholeOf (s shown : String) : Except Error Int :=
  match readInt s with
  | .ok i => .ok i
  | .error .malformed => .error (.value (.wholeNumber shown))
  | .error (.tooLong digits) => .error (.value (.wholeNumberDigits digits))

def realOf (s shown : String) : Except Error Float :=
  match readFloat? s with
  | some x => .ok x
  | none => .error (.value (.number shown))

/-- The text of bytes that are ASCII. Other bytes stand for a character that no number has. -/
def byteText (bs : List UInt8) : String :=
  String.ofList (bs.map fun b => if b < 128 then Char.ofNat b.toNat else '?')

def toInt (a : Value) : Except Error Int :=
  match a with
  | text s => wholeOf s (Text.quoted s)
  | bytes bs => wholeOf (byteText bs) (Text.quotedBytes bs)
  | _ =>
    match a.numeric? with
    | some (.whole i) => .ok i
    | some (.real x) =>
      match truncate? x with
      | some i => .ok i
      | none =>
        if isNaN x then .error (.value .notANumber) else .error (.overflow .infinityToWhole)
    | none => .error (.kind (.wholeNumber a.kind))

def toFloat (a : Value) : Except Error Float :=
  match a with
  | text s => realOf s (Text.quoted s)
  | bytes bs => realOf (byteText bs) (Text.quotedBytes bs)
  | _ =>
    match a.numeric? with
    | some n => n.toFloat
    | none => .error (.kind (.number a.kind))

def real (a : Value) : Except Error Float :=
  match a.numeric? with
  | some n => n.toFloat
  | none => .error (.kind (.realNumber a.kind))

end DeskScript.Value
