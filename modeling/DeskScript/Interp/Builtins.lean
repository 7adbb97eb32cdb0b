import DeskScript.Ocr
import DeskScript.Recording.Library
import DeskScript.Syntax.Builtin

/-!
# The built-in operations

What each built-in call does with its arguments. Every call checks the number of its arguments
first, and then takes them one after the other. An argument that is not there is a fault only when
it is taken.
-/

namespace DeskScript.Builtins

open Syntax

/-- An argument of a call, or the fault of taking it. -/
abbrev Argument := Except Error Value

/-- The argument with a number, of a call on a table: what the table has under the number. Keys to
be pressed are taken as a stretch of the arguments, which a table does not have. -/
def tableArgument (b : Builtin) (s : Store) (v : Value) (i : Nat) : Argument :=
  if b = .pressAndRelease ∧ 0 < i then .error (.kind (.unhashable "slice")) else s.item v i

def arguments (b : Builtin) (v : Value) : Op (List Argument) := Op.ask fun s =>
  match v, s.items? v with
  | .dict .., some keys => .ok ((List.range keys.length).map (tableArgument b s v))
  | .set _, some items => .ok (items.map fun _ => .error (.kind (.notSubscriptable .set)))
  | _, some items => .ok (items.map .ok)
  | _, none => .error (.kind (.noLength v.kind))

def optional (args : List Argument) (i : Nat) : Argument := args[i]?.getD (.ok .null)

def shownArgument (v : Argument) : Op String := do Op.shown (← v)

def misuse {α : Type} (b : Builtin) (args : List Argument) : Op α :=
  throw (.script (.usage b args.length))

def printItems (blank : String) : List Value → Op Unit
  | [] => Action.sayAs .script "\n"
  | v :: rest => do
    Action.sayAs .script blank
    Action.sayAs .script (← Op.shown v)
    printItems " " rest

def print (v : Value) : Op Value := do
  match (← get).store.items? v with
  | none => throw (.kind (.notSpreadable v.kind))
  | some items =>
    printItems "" items
    return .null

def wait (duration range : Value) : Op Value := do
  let low ← Op.ask fun s => s.item range 0
  let high ← Op.ask fun s => s.item range 1
  let total ← duration.add (← Chance.uniform low high)
  let text ← Op.shown total
  Action.sayLine s!"Waiting for {text} ms..."
  match ← total.div (.int 1000) with
  | .complex _ z =>
    throw (if z.hasNaN then .value .sleepNotANumber else .kind (.ordering ">=" .complex .float))
  | seconds => Action.sleep (← seconds.real)
  return total

def append (target item : Value) : Op Value := do
  match target with
  | .list cell =>
    Op.modifyStore (·.push cell item)
    return target
  | _ => throw (.script (.listExpected .append target.kind))

def pop (target : Value) (index : Option Argument) : Op Value := do
  match target with
  | .list cell =>
    let size := ((← get).store.cell cell).size
    if size = 0 then throw (.script .popEmpty)
    let i ← match index with
      | some v => (← v).toInt
      | none => pure ((size : Int) - 1)
    if i < 0 || (size : Int) ≤ i then
      let _ ← (Store.intText i : Except Error String)
      throw (.script (.popRange i size))
    let item := (((← get).store.cell cell)[i.toNat]?).getD .null
    Op.modifyStore (·.eraseIdx cell i.toNat)
    return item
  | _ => throw (.script (.listExpected .pop target.kind))

def swap (target : Value) (i j : Int) : Op Value := do
  match target with
  | .list cell =>
    let size : Int := ((← get).store.cell cell).size
    if i < 0 || size ≤ i || j < 0 || size ≤ j then throw (.script .swapRange)
    Op.modifyStore (·.swap cell i.toNat j.toNat)
    return target
  | _ => throw (.script .swapExpectsList)

/-- A list of its own with the same items; other values are the same. -/
def copy (v : Value) : Op Value := do
  match v with
  | .list cell => Op.newList ((← get).store.get cell)
  | _ => return v

def len (v : Value) : Op Value := do
  match v with
  | .null => return .int 0
  | .tuple .. | .list _ | .text _ => return .int (← Op.ask fun s => s.length v)
  | _ => throw (.script (.lenKind v.kind))

def shuffle (v : Value) : Op Value := do
  match v with
  | .null => return .ofItems []
  | .tuple _ items => return .ofItems (← Chance.shuffle items.toArray).toList
  | .list cell =>
    let items ← Chance.shuffle ((← get).store.cell cell)
    Op.newList items.toList
  | _ => throw (.script (.shuffleKind v.kind))

def setTemplates (v : Value) : Op Value := do
  if (← Op.ask fun s => s.length v) = 0 then throw (.script (.usage .setTemplateDir 0))
  let directory ← Op.shown v
  modify fun m => { m with templates := directory }
  Action.sayLine s!"Template directory set to: {directory}"
  return .text directory

def locate (name : String) (count : Int) : Op (List (Int × Int)) := do
  Vision.locate (← get).templates name { scale := .int 1, count := .int count }

def pointValue (p : Int × Int) : Value := .ofItems [.int p.1, .int p.2]

def filterWords (v : Value) : Op (List String) := do
  match v with
  | .null => return []
  | .tuple _ items => items.mapM Op.shown
  | .list cell => ((← get).store.get cell).mapM Op.shown
  | _ => return [← Op.shown v]

/-- A finding as a tuple of its text, its confidence and its corners. -/
def findingValue (f : Ocr.Finding) : Op Value := do
  let corners ← f.box.mapM fun corner => Op.newList (corner.map Value.float)
  Op.computed (.ofItems [f.text, .float f.confidence, ← Op.newList corners])

def regionValue (v : Value) : Op (Option Vision.Region) := do
  match v with
  | .null => return none
  | _ =>
    match ← Op.ask fun s => s.unpack 4 v with
    | [a, b, c, d] => return some (← Ocr.regionOf a b c d)
    | _ => return none

def findText (args : List Argument) : Op Value := do
  let place ← optional args 0
  let confidence ← match args[1]? with
    | some v => (← v).toFloat
    | none => pure 0.45
  let words ← filterWords (← optional args 2)
  let scale ← match args[3]? with
    | some v => (← v).toFloat
    | none => pure 1
  let region ← regionValue place
  let filter := Value.ofItems (words.map .text)
  match ← Ocr.find { region, confidence := .float confidence, filter, scale := .float scale } with
  | none => Op.newList []
  | some findings =>
    let values ← findings.mapM findingValue
    Op.newList values

def flag (v : Option Argument) : Op Bool := do
  match v with
  | some v => Op.truth (← v)
  | none => return false

def checkColor (args : List Argument) : Op Value := do
  match ← args.mapM (fun v => (v >>= Value.toInt : Except Error Int)) with
  | [x, y, radius, r, g, b] =>
    return Value.ofBool (← Capture.colorWithin x y radius ⟨r, g, b⟩ 0)
  | [x, y, radius, r, g, b, tolerance] =>
    return Value.ofBool (← Capture.colorWithin x y radius ⟨r, g, b⟩ tolerance)
  | _ => misuse .checkPixelColor args

def performMany (b : Builtin) (args : List Argument) : Op Value := do
  match b, args with
  | .wait, [d] => wait (← d) (.ofItems [.int 0, .int 0])
  | .wait, [d, high] => wait (← d) (.ofItems [.int 0, ← high])
  | .wait, [d, low, high] => wait (← d) (.ofItems [← low, ← high])
  | .rand, [high] => Chance.uniform (.int 0) (← high)
  | .rand, [low, high] => Chance.uniform (← low) (← high)
  | .randI, [high] => Chance.whole (.int 0) (← high)
  | .randI, [low, high] => Chance.whole (← low) (← high)
  | .mouseMove, x :: y :: speed :: rest =>
    let x ← x
    let y ← y
    if x.isNull || y.isNull then return .null
    let speed ← speed
    let handLike ← match rest with
      | v :: _ => Op.truth (← v)
      | [] => pure true
    Pointer.moveTo x y speed handLike
    return .int 0
  | .findTemplate, name :: region =>
    if !region.isEmpty && region.length ≠ 4 then misuse b args
    let name ← shownArgument name
    let _ ← (region.mapM id : Except Error (List Value))
    match ← locate name 1 with
    | p :: _ => return pointValue p
    | [] => return .ofItems [.null, .null]
  | .findTemplates, name :: rest =>
    if 5 < rest.length then misuse b args
    let name ← shownArgument name
    if 4 ≤ rest.length then let _ ← ((rest.take 4).mapM id : Except Error (List Value))
    let count ← match rest with
      | [k] | [_, _, _, _, k] => (← k).toInt
      | _ => pure 10
    return .ofItems ((← locate name count).map pointValue)
  | .getCoordinates, name :: rest =>
    if 1 < rest.length then misuse b args
    let name ← shownArgument name
    return .ofItems (← Capture.coordinates name (← flag rest.head?))
  | .getPixelColor, name :: rest =>
    if 1 < rest.length then misuse b args
    let name ← shownArgument name
    return .ofItems (← Capture.color name (← flag rest.head?))
  | .captureRegion, name :: rest =>
    if 1 < rest.length then misuse b args
    let name ← shownArgument name
    Capture.region name (← flag rest.head?)
  | .checkPixelColor, args =>
    if args.length < 6 || 7 < args.length then misuse b args else checkColor args
  | .getPixelAt, [x, y] =>
    let x ← (← x).toInt
    let c ← Capture.pixelAt x (← (← y).toInt)
    return .ofItems [.int c.red, .int c.green, .int c.blue]
  | .sendInput, [device, key, action] =>
    let device ← shownArgument device
    let key ← shownArgument key
    Keyboard.sendInput device key (← shownArgument action)
    return .int 0
  | .pressAndRelease, delay :: key :: keys =>
    let ms ← (← delay).toInt
    let names ← (key :: keys).mapM shownArgument
    Keyboard.pressAndRelease ms names
    return .int 0
  | .record, name :: rest =>
    if 2 < rest.length then misuse b args
    let name ← shownArgument name
    let start ← (rest[0]?).mapM shownArgument
    let stop ← (rest[1]?).mapM shownArgument
    Recording.recordAs name (start.getD "space") (stop.getD "esc")
    return .int 0
  | .playback, name :: rest =>
    if 1 < rest.length then misuse b args
    let name ← shownArgument name
    let stop ← rest.head?.mapM shownArgument
    Recording.playBack name (stop.getD "esc")
    return .int 0
  | .append, [target, item] => append (← target) (← item)
  | .pop, [target] => pop (← target) none
  | .pop, [target, index] => pop (← target) (some index)
  | .swap, [target, i, j] =>
    let target ← target
    let i ← (← i).toInt
    swap target i (← (← j).toInt)
  | .ocrFindText, args => if 4 < args.length then misuse b args else findText args
  | _, _ => misuse b args

/-- What a built-in does with the value between its brackets. -/
def perform (b : Builtin) (v : Value) : Op Value := do
  match b with
  | .print => print v
  | .setTemplateDir => setTemplates v
  | .len => len v
  | .shuffle => shuffle v
  | .copy => copy v
  | .recordingExists => return Value.ofBool (← Cache.hasRecording (← Op.shown v))
  | _ => performMany b (← arguments b v)

def performEmpty (b : Builtin) : Op Value := do
  match b with
  | .leftClick =>
    Keyboard.leftClick
    return .int 0
  | .time => return .float (← get).desk.clock
  | _ =>
    let p := (← get).desk.cursor
    return .ofItems [.int p.x, .int p.y]

end DeskScript.Builtins
