import DeskScript.Interp.Builtins
import DeskScript.Interp.Operators

/-!
# Requests

What a script can ask the machine for. A request names the operation and its operands; nothing else
of a script reaches the machine.
-/

namespace DeskScript

open Syntax

inductive Request where
  | newList (items : List Value)
  | computed (v : Value)
  | signal (kind : SignalKind) (payload : Value)
  | literal (text : String)
  | binary (operator : Label) (a b : Value)
  | element (container index : Value)
  | builtin (b : Builtin) (v : Value)
  | bareBuiltin (b : Builtin)
  deriving Inhabited

def Request.carryOut : Request → Op Value
  | newList items => Op.newList items
  | computed v => Op.computed v
  | signal kind payload => Op.newSignal kind payload
  | literal text => Eval.literal text
  | binary operator a b => Eval.binary operator a b
  | element container index => Eval.element container index
  | builtin b v => do Op.computed (← Builtins.perform b v)
  | bareBuiltin b => do Op.computed (← Builtins.performEmpty b)

end DeskScript
