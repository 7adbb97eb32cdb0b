import DeskScript.Interp.Task

/-!
# Statements

Words, blocks, assignments, functions, calls and loops as tasks.
-/

namespace DeskScript.Eval

open Syntax

def readVariable (name : String) : Task Value := do
  match (← Task.stack).read? name with
  | some v => return v
  | none => .fail (.script (.unknownVariable name))

def leaf (l : Leaf) : Task Value :=
  match l.kind with
  | .number => do .request (.computed (← number l))
  | .string => .request (.literal l.text)
  | .name => readVariable l.text
  | .other _ => return .text l.text

def isSignal : Value → Bool
  | .signal .. => true
  | _ => false

/-- Runs statements one after the other; a signal ends them. -/
def block : Value → List Tree → Task Value
  | last, [] => return last
  | _, t :: rest => do
    .checked t
    let v ← .value t
    if isSignal v then return v else block v rest

/-- Spreads tuples and lists, one level deep. -/
def spread (s : Store) (values : List Value) : List Value :=
  values.flatMap fun v =>
    match v with
    | .tuple _ items => items
    | .list cell => s.get cell
    | v => [v]

/-- The values for as many names: several names take the items of tuples and lists. -/
def assigned (s : Store) (names : List String) (values : List Value) : Except Error (List Value) :=
  match names with
  | _ :: _ :: _ =>
    let values := spread s values
    if values.length ≠ names.length then .error (.script .spreadArity) else .ok values
  | _ => if values.length ≠ 1 then .error (.script (.singleArity values.length)) else .ok values

def assignAll : List (String × Value) → Task Unit
  | [] => return
  | (name, v) :: rest => .change (.assign name v) (assignAll rest)

def assign (names : List String) (values : List Value) : Task Unit := do
  let values ← assigned (← Task.store) names values
  assignAll (names.zip values)

/-- The names and the expressions of an assignment: as many children are names as there are words
among all but the last. -/
def assignment (children : List Tree) : List String × List Tree :=
  let count := (children.dropLast.filter Tree.isName).length
  ((children.take count).map Tree.text, children.drop count)

/-- The parameters and the body in the definition of a function: the last of each. -/
def definition (rest : List Tree) : List String × Option Tree :=
  rest.foldl (fun (parameters, body) t =>
    match t with
    | .node .parameters _ names => (names.map Tree.text, body)
    | .node .block _ _ => (parameters, some t)
    | _ => (parameters, body)) ([], none)

def define (name : String) (rest : List Tree) : Task Value := do
  match definition rest with
  | (_, none) => .fail (.script (.bodyMissing name))
  | (parameters, some body) =>
    .changed (.define name ⟨parameters, body⟩)
    return .text (s!"Defined {name}(" ++ ", ".intercalate parameters ++ ")")

/-- What a call makes of the value of a body: a signal to give back is opened, and nothing counts as
zero. -/
def result (s : Store) : Value → Value
  | .signal _ .giveBack payload =>
    match s.carried payload with
    | [item] => item
    | _ => payload
  | .null => .int 0
  | v => v

def function (name : String) (missing : ScriptFault) : Task Function := do
  match (← Task.stack).current.functions.get? name with
  | some f => return f
  | none => .fail (.script missing)

def call (name : String) (args : List Value) : Task Value := do
  let f ← function name (.unknownFunction name)
  if args.length ≠ f.parameters.length then .fail (.script (.arity name f.parameters.length))
  else
    let v ← .called (f.parameters.zip args) f.body
    return result (← Task.store) v

def repeatUntil {α : Type} (body : Task (Option α)) : Nat → Task α
  | 0 => .fail .endless
  | n + 1 => do
    match ← body with
    | some a => return a
    | none => repeatUntil body n

/-- Whether a condition keeps a loop going: everything but zero does. -/
def continues (v : Value) : Bool :=
  Value.equalNumbers? v (.int 0) ≠ some true

/-- One round of a loop: its result if the loop ends. -/
def round (condition body : Tree) : Task (Option Value) := do
  if continues (← .value condition) then
    match ← Task.value body with
    | .signal _ .breakLoop _ => return some (.int 0)
    | .signal id .giveBack payload => return some (.signal id .giveBack payload)
    | _ => return none
  else return some (.int 0)

/-- One tick: the provider runs, and unless it gives null, the function. -/
def tick (provider name : String) : Task (Option Value) := do
  let p ← function provider (.unknownTickProvider provider)
  let v ← .value p.body
  if v.isNull then return some .null
  let f ← function name (.unknownFunction name)
  let _ ← .value f.body
  return none

def roundLimit : Nat := Number.twoTo 60

end DeskScript.Eval
