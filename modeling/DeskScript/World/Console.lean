import DeskScript.World.Screen

/-!
# The console

Lines are asked for at the console, and everything that is printed goes there, whoever prints it.
-/

namespace DeskScript

/-- What happens when a line is asked for at the console. -/
structure Reply where
  /-- The cursor may be elsewhere by then. -/
  cursor : Option Point := none
  interrupt : Bool := false
  line : String := ""
  deriving Repr, Inhabited

inductive Speaker where
  | script | debugger | session
  deriving DecidableEq, Repr, Inhabited

/-- The replies still to come, and all that has been printed, in order. -/
structure Console where
  replies : List Reply := []
  printed : Array (Speaker × String) := #[]
  deriving Inhabited

def Console.say (c : Console) (speaker : Speaker) (s : String) : Console :=
  { c with printed := c.printed.push (speaker, s) }

end DeskScript
