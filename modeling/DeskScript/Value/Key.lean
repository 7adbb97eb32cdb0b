import DeskScript.Value.Numeric

/-!
# Keys

The values that can be keys of tables and items of sets, and when two of them are the same. Equal
numbers are the same key, whatever their kinds.
-/

namespace DeskScript.Value

mutual

def sameKey : Value → Value → Bool
  | null, null => true
  | ellipsis, ellipsis => true
  | text s, text t => s = t
  | bytes s, bytes t => s = t
  | tuple _ items, tuple _ others => sameKeys items others
  | a, b => (equalNumbers? a b).getD false

def sameKeys : List Value → List Value → Bool
  | [], [] => true
  | a :: as, b :: bs => a.sameKey b && sameKeys as bs
  | _, _ => false

end

def under? (entries : List (Value × Value)) (key : Value) : Option Value :=
  (entries.find? (·.1.sameKey key)).map (·.2)

def isIn (key : Value) (items : List Value) : Bool := items.any (·.sameKey key)

mutual

/-- The kind of a value that keeps another from being a key. -/
def unhashable? : Value → Option Kind
  | list _ => some .list
  | set _ => some .set
  | dict .. => some .dict
  | tuple _ items => unhashableIn? items
  | _ => none

def unhashableIn? : List Value → Option Kind
  | [] => none
  | v :: rest => (unhashable? v).or (unhashableIn? rest)

end

/-- A table with one more entry. The first form of a key and the last value for it count. -/
def addEntry (entries : List (Value × Value)) (key v : Value) : List (Value × Value) :=
  if entries.any (·.1.sameKey key) then
    entries.map fun e => if e.1.sameKey key then (e.1, v) else e
  else entries ++ [(key, v)]

/-! ### Hashes -/

/-- Numbers are hashed by their remainder of this prime. -/
def hashPrime : Nat := Number.twoTo 61 - 1

def signedHash (negative : Bool) (n : Nat) : UInt64 :=
  let word := UInt64.ofNat n
  if negative then if n = 1 then -2 else -word else word

def hashFloat (x : Float) : UInt64 :=
  match Number.Binary.ofFloat x with
  | .nan => 0
  | .infinite negative => signedHash negative 314159
  | .finite negative m e =>
    -- Two to the sixty-first is one under the prime.
    signedHash negative (m * Number.twoTo (e % 61).toNat % hashPrime)

mutual

/-- The hash of a key. Equal keys have the same one. -/
def hash : Value → UInt64
  | bool b => if b then 1 else 0
  | int i => signedHash (i < 0) (i.natAbs % hashPrime)
  | float x => hashFloat x
  | complex _ z =>
    let h := hashFloat z.re + 1000003 * hashFloat z.im
    if h = -1 then -2 else h
  | text s => UInt64.ofNat (s.toList.foldl (fun h c => (h * 31 + c.toNat) % Number.twoTo 64) 0)
  | bytes bs => UInt64.ofNat (bs.foldl (fun h b => (h * 31 + b.toNat) % Number.twoTo 64) 0)
  | tuple _ items =>
    let h := hashItems 2870177450012600261 items +
      (UInt64.ofNat items.length ^^^ (2870177450012600261 ^^^ 3527539))
    if h = -1 then 1546275796 else h
  | _ => 0

/-- The hash of the items of a tuple, mixed one after the other. -/
def hashItems (acc : UInt64) : List Value → UInt64
  | [] => acc
  | v :: rest =>
    let mixed := acc + v.hash * 14029467366897019727
    hashItems (((mixed <<< 31) ||| (mixed >>> 33)) * 11400714785074694791) rest

end

end DeskScript.Value
