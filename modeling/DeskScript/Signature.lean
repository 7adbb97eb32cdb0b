import DeskScript.Error

/-!
# Signatures

What the callers of an operation may pass to it. A signature has the parameters of an operation in
their order, and `Signature.bind` gives each argument to its parameter: those by position from the
first parameter on, then those by name. A name that is no parameter, or that already has its
argument, comes before too many arguments, and these come before parameters that have none.
-/

namespace DeskScript

/-- The parameters of an operation: those it needs, then those it can do without. -/
structure Signature where
  name : String
  required : List String := []
  optional : List String := []
  deriving DecidableEq, Repr

namespace Signature

variable {α : Type}

def parameters (s : Signature) : List String := s.required ++ s.optional

/-- An argument by name is for a parameter that has none by position. -/
def checkName (s : Signature) (taken : List (String × α)) (name : String) : Except Error Unit :=
  if !s.parameters.contains name then .error (.call (.unknownName s.name name))
  else if (taken.lookup name).isSome then .error (.call (.repeatedName s.name name))
  else .ok ()

def bind (s : Signature) (position : List α) (byName : List (String × α)) :
    Except Error (List (String × α)) := do
  let taken := s.parameters.zip position
  byName.forM fun argument => s.checkName taken argument.1
  if s.parameters.length < position.length then
    throw (.call (.tooMany s.name s.required.length s.parameters.length position.length))
  let bound := taken ++ byName
  match s.required.filter fun name => (bound.lookup name).isNone with
  | [] => return bound
  | names => throw (.call (.missing s.name names))

end Signature

end DeskScript
