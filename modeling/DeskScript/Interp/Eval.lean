import DeskScript.Interp.Pause
import DeskScript.Interp.Statements

/-!
# Evaluation

The meaning of trees. What a node asks for is a task; a level of the evaluator runs the task, with
the level below for the trees that have to be evaluated on the way. There are as many levels as
trees and calls may be nested. Where no level is left, a script is nested too deeply.
-/

namespace DeskScript

open Syntax

namespace Eval

/-- The fault of a node whose children are not the ones its label calls for. -/
def strange {α : Type} : Task α :=
  .fail (.script (.unknownNode "<class 'lark.tree.Tree'>"))

def callParts (children : List Tree) : Option (String × Option Tree) :=
  match children with
  | [name] => some (name.text, none)
  | [name, .node .args span args] => some (name.text, some (.node .args span args))
  | _ => none

def argumentValues : Option Tree → Task (List Value)
  | some t => do
    let v ← .value t
    return ((← Task.store).items? v).getD []
  | none => return []

def node (label : Label) (children : List Tree) : Task Value := do
  match label with
  | .importFile => return .null
  | .null => return .null
  | .yes => return .int 1
  | .no => return .int 0
  | .breakLoop => .request (.signal .breakLoop (.ofItems []))
  | .continueLoop => .request (.signal .continueLoop (.ofItems []))
  | .outer =>
    match children with
    | [name] =>
      .changed (.outer name.text)
      return .null
    | _ => strange
  | .block => block (.int 0) children
  | .parameters => .request (.newList (children.map fun t => .text t.text))
  | .args | .items => do
    let values ← children.mapM fun t => Task.value t
    .request (.newList values)
  | .tuple => do
    let values ← children.mapM fun t => Task.value t
    .request (.computed (.ofItems values))
  | .list =>
    match children with
    | [.node .items span items] => .value (.node .items span items)
    | _ => .request (.newList [])
  | .index =>
    match children with
    | [container, index] =>
      let c ← .value container
      let i ← .value index
      .request (.element c i)
    | _ => strange
  | .store =>
    let (names, expressions) := assignment children
    assign names (← expressions.mapM fun t => Task.value t)
    return .null
  | .expression =>
    match children with
    | [e] => .value e
    | _ => strange
  | .giveBack =>
    match children with
    | [e] =>
      let v ← .value e
      .request (.signal .giveBack v)
    | _ => strange
  | .both =>
    match children with
    | [a, b] =>
      let v ← .value a
      if ← .truth v then
        let w ← .value b
        return Value.ofBool (← .truth w)
      else return .int 0
    | _ => .fail (.script (.operandCount label.name))
  | .either =>
    match children with
    | [a, b] =>
      let v ← .value a
      if ← .truth v then return .int 1
      else
        let w ← .value b
        return Value.ofBool (← .truth w)
    | _ => .fail (.script (.operandCount label.name))
  | .define =>
    match children with
    | name :: rest => define name.text rest
    | [] => strange
  | .call =>
    match callParts children with
    | none => .fail (.script .callShape)
    | some (name, args) => call name (← argumentValues args)
  | .add | .subtract | .multiply | .divide | .modulo
  | .greater | .less | .greaterEq | .lessEq | .equal | .notEqual =>
    match children with
    | [a, b] =>
      let v ← .value a
      let w ← .value b
      .request (.binary label v w)
    | _ => strange
  | .negate =>
    match children with
    | [a] => do
      let v ← .value a
      .request (.computed (← v.neg))
    | _ => strange
  | .loop =>
    match children with
    | [condition, body] => repeatUntil (round condition body) roundLimit
    | _ => strange
  | .choice =>
    match children with
    | [condition, yes] =>
      let c ← .value condition
      if ← .truth c then .value yes else return .null
    | [condition, yes, no] =>
      let c ← .value condition
      if ← .truth c then .value yes else .value no
    | _ => strange
  | .builtin .foreachTick =>
    match children with
    | [provider, name] => repeatUntil (tick provider.text name.text) roundLimit
    | _ => strange
  | .builtin b =>
    match b.arguments with
    | .empty => .request (.bareBuiltin b)
    | _ =>
      match children with
      | [t] =>
        -- Nothing is checked while the arguments of a recording or a playback are evaluated.
        let v ← .value t (b = .record || b = .playback)
        .request (.builtin b v)
      | _ => strange
  | .start | .builtinCall | .number | .string | .var | .other _ =>
    match children with
    | [t] => .value t
    | _ => .fail (.script (.unknownLabel label.name))

def task : Tree → Task Value
  | .node label _ children => node label children
  | .leaf l => leaf l
  | .datum d => .fail (.script (.unknownNode d.describe))

/-- Runs a step in a frame of its own, which is gone afterwards however the step ends. -/
def inFrame (parameters : Bindings Value) (body : Interp Value) : Interp Value := do
  Interp.modifyStack (·.enter parameters)
  tryFinally body (Interp.modifyStack CallStack.leave)

end Eval

def Task.run {α : Type} (below : Evaluate) (mode : Mode) : Task α → Interp α
  | done a => return a
  | fail e => throw e
  | perform r next => do
    let v ← r.carryOut
    (next v).run below mode
  | look next => do
    let s ← get
    (next s.machine.store s.stack).run below mode
  | change c next => do
    Interp.modifyStack (·.change c)
    next.run below mode
  | check t next => do
    Eval.check below mode t
    next.run below mode
  | evaluate quiet t next => do
    let v ← below { mode with debug := mode.debug && !quiet } t
    (next v).run below mode
  | call parameters body next => do
    let v ← Eval.inFrame parameters (below mode body)
    (next v).run below mode

/-- The value of a tree, with so many levels of nesting left. -/
def evalAt : Nat → Evaluate
  | 0 => fun _ _ => throw .nesting
  | n + 1 => fun mode t => (Eval.task t).run (evalAt n) mode

def eval (mode : Mode) (t : Tree) : Interp Value := evalAt nestingLimit mode t

end DeskScript
