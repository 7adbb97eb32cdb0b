import DeskScript.Chance
import DeskScript.Text.Lowercase

/-!
# Keys and clicks

Pressing and releasing keys and buttons. A key is given by a name people use, in any case, or by
the character that it types.
-/

namespace DeskScript.Keyboard

def keyOf (name : String) : Key :=
  match Key.aliases.lookup (Text.lower name) with
  | some special => .special special
  | none => .typed name

/-- What a value stands for as the name of a key, if it is known. A name has to be a text. -/
def keyNamed? : Value → Except Error (Option Key)
  | .text name => .ok (Key.lookUp? name)
  | v => .error (.kind (.nameKind v.kind))

/-- Presses or releases a key. Only a single character can be typed. -/
def send (key : Key) (down : Bool) : Action Unit :=
  match key with
  | .typed t =>
    if Text.length t = 1 then Action.note (if down then .press t else .release t)
    else throw (.value (.unknownKey t))
  | _ => Action.note (if down then .press key.label else .release key.label)

def sendButton (button : String) (down : Bool) : Action Unit :=
  Action.note (if down then .press button else .release button)

def buttonOf (name : String) : Except Error String :=
  match Button.lookUp? name with
  | some button => .ok button
  | none => .error (.missingName name)

/-- Sends one input to a device. Devices and actions other than the known ones do nothing. -/
def sendInput (device key action : String) : Action Unit := do
  if device = "keyboard" then
    if action = "down" then send (keyOf key) true
    else if action = "up" then send (keyOf key) false
  else if device = "mouse" then
    let button ← buttonOf key
    if action = "down" then sendButton button true
    else if action = "up" then sendButton button false

def leftClick : Action Unit := do
  sendInput "mouse" "left" "down"
  Action.sleep (0.05 + (← Chance.uniformReal 0 0.05))
  sendInput "mouse" "left" "up"

/-- A delay in seconds, up to two in a hundred longer or shorter than asked for. -/
def variedDelay (delay : Int) : Action Float := do
  let ms ← Value.floatOfInt delay
  let margin := ms * 0.02
  return ((← Chance.uniformReal (-margin) margin) + ms) / 1000.0

def sendAll (delay : Int) (down : Bool) : List String → Action Unit
  | [] => pure ()
  | key :: rest => do
    sendInput "keyboard" key (if down then "down" else "up")
    if 0 < delay then Action.sleep ((← variedDelay delay) / 2)
    sendAll delay down rest

def pressAndRelease (delay : Int) (keys : List String) : Action Unit := do
  let _ ← Value.floatOfInt delay
  sendAll delay true keys
  Action.sleep (← variedDelay delay)
  sendAll delay false keys.reverse

end DeskScript.Keyboard
