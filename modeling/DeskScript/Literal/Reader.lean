import DeskScript.Literal.Grammar

/-!
# Reading words by the grammar

A reader goes through the words of a text. Where the words do not fit it goes back, and other
alternatives are tried at the same place; a fault ends all reading. How far the words have been
looked at is noted, because that is where a text that fits nothing is at fault.
-/

namespace DeskScript.Literal

/-- What a symbol has given at a place: nothing, or a piece, and the place after it. -/
structure Found where
  symbol : Symbol
  piece : Option Piece
  after : Nat

structure Progress where
  place : Nat := 0
  seen : Nat := 0
  searching : Bool := false
  found : Array (List Found) := #[]

abbrev Reader (α : Type) := EStateM Halt Progress α

namespace Reader

def peek (w : Words) : Reader (Option Token) := fun p =>
  match w.tokens[p.place]? with
  | some t => .ok (some t) (if p.seen ≤ p.place then { p with seen := p.place + 1 } else p)
  | none =>
    match w.stop with
    | some stop => .error (.stopped stop) p
    | none => .ok none p

def goTo (place : Nat) : Reader Unit := fun p => .ok () { p with place }

def accept (w : Words) (m : Match) : Reader (Option Piece) := do
  match ← peek w with
  | some t =>
    if m.accepts t then
      goTo ((← get).place + 1)
      return some (.token t)
    else return none
  | none => return none

def lookUp (place : Nat) (s : Symbol) : Reader (Option Found) := do
  return ((← get).found[place]?.getD []).find? (·.symbol = s)

def note (place : Nat) (f : Found) : Reader Unit := fun p =>
  .ok () { p with found := p.found.modify place (f :: ·) }

end Reader

inductive Task where
  | named (s : Symbol)
  /-- A symbol that can begin with itself, given what has been found for it so far. -/
  | core (s : Symbol)
  | repeated (atLeastOnce : Bool) (i : Item)
  | separated (i : Item)
  | further (i : Item)

section Steps

variable (w : Words) (strings : Spot → List Token → Except Halt Node)
  (call : Task → Reader (Option Piece))

def readItem : Item → Reader (Option Piece)
  | .token m => Reader.accept w m
  | .symbol s => call (.named s)

def readPart : Part → Reader (Option (Option Piece))
  | .one i => do return (← readItem w call i).map some
  | .optional i => do return some (some ((← readItem w call i).getD .absent))
  | .repeated atLeastOnce i => do return (← call (.repeated atLeastOnce i)).map some
  | .separated i => do return (← call (.separated i)).map some
  | .ahead wanted i => do
    let place := (← get).place
    let found ← readItem w call i
    Reader.goTo place
    return if found.isSome = wanted then some none else none
  | .commit => return some none

/-- Reads the parts of a rule after those that gave some pieces, the last of them first. The result
says whether other alternatives are ruled out. -/
def readParts (committed : Bool) (before : List Piece) :
    List Part → Reader (Option (List Piece) × Bool)
  | [] => return (some before.reverse, committed)
  | part :: rest => do
    match ← readPart w call part with
    | none => return (none, committed)
    | some none => readParts (committed || part = .commit) before rest
    | some (some piece) => readParts committed (piece :: before) rest

/-- What comes of a rule that fits from a place on. -/
def conclude (start : Nat) (a : Alternative) (pieces : List Piece) : Reader (Option Piece) := do
  let p ← get
  let level := (w.tokens[p.place - 1]?.map Token.level).getD 0
  match a.build ⟨w.spotAt start, level, w.spotAt (p.seen - 1)⟩ pieces with
  | .piece piece => return some piece
  | .nothing => return none
  | .blame cause spot => throw (w.blame cause spot)
  | .strings tokens =>
    match strings (w.spotAt (p.seen - 1)) tokens with
    | .ok node => return some (.node node)
    | .error halt => throw halt

def readFirst (start : Nat) : List Alternative → Reader (Option Piece)
  | [] => return none
  | a :: rest => do
    if a.isSearch && !(← get).searching then readFirst start rest
    else
      match ← readParts w call false [] a.parts with
      | (some pieces, _) => conclude w strings start a pieces
      | (none, committed) =>
        Reader.goTo start
        if committed then return none else readFirst start rest

def readAll (next : Reader (Option Piece)) : Nat → List Piece → Reader (List Piece)
  | 0, before => return before.reverse
  | fuel + 1, before => do
    let place := (← get).place
    match ← next with
    | some piece => readAll next fuel (piece :: before)
    | none =>
      Reader.goTo place
      return before.reverse

/-- Reads a symbol again and again, each time with what has been found as its beginning, as long as
it gets longer. -/
def grow (start : Nat) (s : Symbol) : Nat → Option Piece → Nat → Reader (Option Piece)
  | 0, best, after => do
    Reader.goTo after
    return best
  | fuel + 1, best, after => do
    Reader.note start ⟨s, best, after⟩
    Reader.goTo start
    let found ← call (.core s)
    let place := (← get).place
    if found.isSome && after < place then grow start s fuel found place
    else
      Reader.goTo after
      return best

def readSymbol (s : Symbol) : Reader (Option Piece) := do
  let start := (← get).place
  let _ ← Reader.peek w
  match s.keeping with
  | .never => readFirst w strings call start (rules s)
  | .quiet =>
    let searching := (← get).searching
    modify ({ · with searching := false })
    let found ← readFirst w strings call start (rules s)
    modify ({ · with searching })
    return found
  | .kept =>
    match ← Reader.lookUp start s with
    | some f =>
      Reader.goTo f.after
      return f.piece
    | none =>
      let found ← readFirst w strings call start (rules s)
      Reader.note start ⟨s, found, (← get).place⟩
      return found
  | .growing =>
    match ← Reader.lookUp start s with
    | some f =>
      Reader.goTo f.after
      return f.piece
    | none => grow call start s (w.tokens.size + 1) none start

def perform : Task → Reader (Option Piece)
  | .named s => readSymbol w strings call s
  | .core s => do readFirst w strings call (← get).place (rules s)
  | .repeated atLeastOnce i => do
    let pieces ← readAll (readItem w call i) (w.tokens.size + 1) []
    return if atLeastOnce && pieces.isEmpty then none else some (.many pieces)
  | .separated i => do
    match ← readItem w call i with
    | none => return none
    | some first =>
      match ← call (.further i) with
      | some (.many rest) => return some (.many (first :: rest))
      | _ => return none
  | .further i => do
    let next := do
      match ← Reader.accept w (.sign ",") with
      | some _ => readItem w call i
      | none => return none
    return some (.many (← readAll next (w.tokens.size + 1) []))

end Steps

def run (w : Words) (strings : Spot → List Token → Except Halt Node) :
    Nat → Task → Reader (Option Piece)
  | 0, _ => throw .overflow
  | level + 1, task => perform w strings (run w strings level) task

def levelLimit : Nat := 6000

/-! ### From words to a term -/

inductive Refusal where
  | fault (f : Fault)
  | misplaced
  | overflow

/-- The fault that a text is blamed for, given the one that was found and how many words had been
looked at. What is wrong further on counts more, as does a bracket that is left open since an earlier
line. -/
def settle (w : Words) (fault : Fault) (seen : Nat) : Fault :=
  match w.stop with
  | none => fault
  | some stop =>
    if stop.final then stop.fault
    else match stop.bracket, w.tokens[seen - 1]? with
      | some (bracket, line), some t => if line < t.line then ⟨.neverClosed bracket, line⟩ else fault
      | _, _ => fault

/-- Why words were refused, given what ended their reading and how many had been looked at. There is
nothing more to find once the end of the text has shown. -/
def refusal (w : Words) (seen : Nat) : Halt → Refusal
  | .stopped stop => .fault stop.fault
  | .faulty fault =>
    .fault (if (w.tokens[seen - 1]?).any Token.isLast then fault else settle w fault seen)
  | .misplaced => .misplaced
  | .overflow => .overflow

/-- Why words were refused when nothing particular was found: the last word that had been looked at
at first is at fault. -/
def lastRefusal (w : Words) (seen finallySeen : Nat) : Refusal :=
  if (w.tokens[seen - 1]?).any (·.kind = .indent) then
    .fault ⟨.indented, (w.spotAt (finallySeen - 1)).line⟩
  else match w.blame .syntaxFault (w.spotAt (seen - 1)) with
    | .faulty fault => .fault (settle w fault finallySeen)
    | halt => refusal w seen halt

/-- Reads words as a symbol. If they do not fit, they are read once more in search for the cause. -/
def parseWords (w : Words) (strings : Spot → List Token → Except Halt Node) (s : Symbol) :
    Except Refusal Node :=
  let attempt := fun searching seen =>
    (run w strings levelLimit (.named s)).run
      { seen, searching, found := Array.replicate (w.tokens.size + 1) [] }
  match attempt false 0 with
  | .error halt p => .error (refusal w p.seen halt)
  | .ok (some (.node n)) _ => .ok n
  | .ok _ p =>
    match attempt true p.seen with
    | .error halt q => .error (refusal w q.seen halt)
    | .ok _ q => .error (lastRefusal w p.seen q.seen)

end DeskScript.Literal
