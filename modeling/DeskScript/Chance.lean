import DeskScript.Value.Order
import DeskScript.World.Basic

/-!
# Chance

Numbers, choices and shuffles made from the stream of random numbers.
-/

namespace DeskScript.Chance

def uniform (low high : Value) : Action Value := do
  let width ← high.sub low
  let u ← Action.random
  low.add (← width.mul (.float u))

def uniformReal (low high : Float) : Action Float := do
  let u ← Action.random
  return low + (high - low) * u

def floor (x : Float) : Except Error Int := do
  let i ← (Value.float x).toInt
  return if Number.compareInt? i x = some .gt then i - 1 else i

def resolution : Int := Number.twoTo 53

/-- Draws until a number falls below a limit. A stream that repeats without one has none. -/
def drawBelow (limit : Float) : Nat → Action Float
  | 0 => throw .endless
  | fuel + 1 => do
    let r ← Action.random
    if limit ≤ r then drawBelow limit fuel else return r

/-- A whole number from zero to below a positive `n`. Numbers that would favour some results are
drawn again. -/
def below (n : Int) : Action Int := do
  if resolution ≤ n then
    let r ← Action.random
    floor (r * (← Value.floatOfInt n))
  else
    let limit := (Number.quotient? (resolution - resolution.emod n) resolution).getD 1
    let r ← drawBelow limit ((← get).random.values.length + 1)
    return (← floor (r * 9007199254740992)).fmod n

/-- The whole number of a bound, which may be any value equal to a whole number. -/
def bound (v : Value) (fault : ValueFault) : Except Error Int :=
  match v.numeric? with
  | some (.whole i) => .ok i
  | _ => do
    let i ← v.toInt
    match v.numeric? with
    | some n => if n.compare? (.whole i) = some .eq then return i else .error (.value fault)
    | none => .error (.value fault)

def whole (low high : Value) : Action Value := do
  let stop ← high.add (.int 1)
  let first ← bound low .rangeStart
  let last ← bound stop .rangeStop
  if first < last then return .int (first + (← below (last - first)))
  else
    let _ ← ([first, last, last - first].mapM Store.intText : Except Error (List String))
    throw (.value (.emptyRange first last))

def choice {α : Type} (a b : α) : Action α := do
  return if (← below 2) = 0 then a else b

/-- Exchanges each of the first items, from the last of them on, with one at or before it. -/
def shuffleFirst {α : Type} : Nat → Array α → Action (Array α)
  | 0, items => pure items
  | 1, items => pure items
  | n + 2, items => do
    let j ← below (n + 2)
    shuffleFirst (n + 1) (items.swapIfInBounds (n + 1) j.toNat)

def shuffle {α : Type} (items : Array α) : Action (Array α) := shuffleFirst items.size items

end DeskScript.Chance
