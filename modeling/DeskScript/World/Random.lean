/-!
# Random numbers

A stream of numbers from zero to one that repeats without end.
-/

namespace DeskScript

/-- The numbers of a stream and how many have been drawn. -/
structure RandomStream where
  values : List Float := [0.5]
  drawn : Nat := 0
  deriving Repr, Inhabited

def RandomStream.draw (r : RandomStream) : Float × RandomStream :=
  (r.values[r.drawn % r.values.length]?.getD 0.5, { r with drawn := r.drawn + 1 })

end DeskScript
