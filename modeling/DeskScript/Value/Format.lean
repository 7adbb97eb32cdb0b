import DeskScript.Value.Sequence

/-!
# Formats

A text or bytes followed by `%` and a value is a format: each directive in it, such as `%5.2f`, takes
the next item of a tuple, or the only value if there is no tuple, and is replaced by its text. A
directive with a name takes the entry of a table. Bytes are read as the characters with their
numbers.
-/

namespace DeskScript.Format

/-- What a format is made of, and so is its result. -/
inductive Medium where
  | text | bytes
  deriving DecidableEq, Repr, Inhabited

def Medium.kind : Medium → Kind
  | text => .text
  | bytes => .bytes

def Medium.key (m : Medium) (cs : List Char) : Value :=
  match m with
  | text => .text (String.ofList cs)
  | bytes => .bytes (Text.bytesOf cs)

structure Directive where
  left : Bool := false
  plus : Bool := false
  blank : Bool := false
  alternate : Bool := false
  zero : Bool := false
  width : Option Nat := none
  precision : Option Nat := none
  /-- Whether digits stand right before the letter. -/
  counted : Bool := false
  letter : Char := 's'
  deriving Repr, Inhabited

structure Supply where
  pending : List Value
  /-- The value that directives with a name look into. -/
  table : Option Value

/-- The supply of a value: the items of a tuple, or the value itself. -/
def Supply.ofValue (m : Medium) : Value → Supply
  | .tuple _ items => ⟨items, none⟩
  | .list cell => ⟨[.list cell], some (.list cell)⟩
  | .dict id entries => ⟨[.dict id entries], some (.dict id entries)⟩
  | .bytes bs => ⟨[.bytes bs], if m = .text then some (.bytes bs) else none⟩
  | v => ⟨[v], none⟩

def Supply.next (m : Medium) (s : Supply) : Except Error (Value × Supply) :=
  match s.pending with
  | v :: rest => .ok (v, { s with pending := rest })
  | [] => .error (.kind (.formatCount false m.kind))

def cutOff : Error := .value .formatEnd

def readFlags (d : Directive) : List Char → Directive × List Char
  | '-' :: rest => readFlags { d with left := true } rest
  | '+' :: rest => readFlags { d with plus := true } rest
  | ' ' :: rest => readFlags { d with blank := true } rest
  | '#' :: rest => readFlags { d with alternate := true } rest
  | '0' :: rest => readFlags { d with zero := true } rest
  | rest => (d, rest)

/-- The range of a number in a directive, and its faults: of a number that is written out, and of
one that is supplied. -/
structure Range where
  limit : Int
  written : ValueFault
  supplied : OverflowFault

def Range.width : Range := ⟨Number.twoTo 63, .formatWidth, .count⟩

def Range.precision (m : Medium) : Range :=
  ⟨Number.twoTo 31, .formatPrecision m.kind, .smallCount⟩

/-- A number in a directive: digits, or a star for the next value. -/
def readCount (m : Medium) (supply : Supply) (range : Range) (cs : List Char) :
    Except Error (Option Int × Supply × List Char) :=
  match cs with
  | '*' :: rest => do
    let (v, supply) ← supply.next m
    match v.numeric? with
    | some (.whole i) =>
      if i < -range.limit || range.limit ≤ i then .error (.overflow range.supplied)
      else return (some i, supply, rest)
    | _ => .error (.kind .formatWidth)
  | _ =>
    let digits := cs.takeWhile Char.isDigit
    if digits.isEmpty then .ok (none, supply, cs)
    else
      let n := Number.digitsValue digits
      if range.limit ≤ n then .error (.value range.written)
      else .ok (some n, supply, cs.drop digits.length)

/-- The key of a directive up to the bracket that closes it: brackets may be nested. -/
def readKey : Nat → List Char → Option (List Char × List Char)
  | _, [] => none
  | depth, '(' :: rest => (readKey (depth + 1) rest).map fun (k, r) => ('(' :: k, r)
  | 0, ')' :: rest => some ([], rest)
  | depth + 1, ')' :: rest => (readKey depth rest).map fun (k, r) => (')' :: k, r)
  | depth, c :: rest => (readKey depth rest).map fun (k, r) => (c :: k, r)

def startsWithDigit (cs : List Char) : Bool := cs.head?.any Char.isDigit

def readDirective (m : Medium) (supply : Supply) (cs : List Char) :
    Except Error (Directive × Supply × List Char) := do
  let (d, cs) := readFlags {} cs
  if cs.isEmpty then throw cutOff
  let d := { d with counted := startsWithDigit cs }
  let (width, supply, cs) ← readCount m supply .width cs
  let d := match width with
    | some w =>
      -- The least machine word has no magnitude, and asks for no width.
      { d with
        left := d.left || w < 0
        width := if w = -Number.twoTo 63 then none else some w.natAbs }
    | none => d
  if cs.isEmpty then throw cutOff
  let (d, supply, cs) ← match cs with
    | '.' :: rest => do
      if rest.isEmpty then throw cutOff
      let (precision, supply, rest) ← readCount m supply (.precision m) rest
      let counted := startsWithDigit cs.tail
      pure ({ d with precision := some (precision.getD 0).toNat, counted }, supply, rest)
    | _ => pure (d, supply, cs)
  let (d, cs) := match cs with
    | 'h' :: rest | 'l' :: rest | 'L' :: rest => ({ d with counted := false }, rest)
    | _ => (d, cs)
  match cs with
  | [] => throw cutOff
  | c :: rest => return ({ d with letter := c }, supply, rest)

def precisionLimit : Nat := Number.twoTo 31 - 4

/-- A whole number in a base, with its sign and a prefix, and with at least as many digits as the
precision says. -/
def wholeText (d : Directive) (i : Int) : Except Error String := do
  if precisionLimit < d.precision.getD 0 then throw (.overflow .precision)
  let (digits, mark) ← match d.letter with
    | 'o' => pure (String.ofList (Nat.toDigits 8 i.natAbs), "0o")
    | 'x' | 'X' => pure (String.ofList (Nat.toDigits 16 i.natAbs), "0x")
    | _ => pure (← Store.intText i.natAbs, "")
  let zeros := Number.repeatChar '0' (d.precision.getD 0 - digits.length)
  let text := (if i < 0 then "-" else "") ++ (if d.alternate then mark else "") ++ zeros ++ digits
  return if d.letter = 'X' then text.map Char.toUpper else text

def realText (d : Directive) (x : Float) : String :=
  let places := d.precision.getD 6
  let body := match d.letter with
    | 'f' | 'F' =>
      let text := Number.fixedMagnitude places x
      if d.alternate && places = 0 && text.all Char.isDigit then text ++ "." else text
    | 'e' | 'E' => Number.exponential places (d.alternate && places = 0) x
    | _ => Number.general places d.alternate x
  let text := (if Number.isNegative x then "-" else "") ++ body
  if d.letter = 'F' || d.letter = 'E' || d.letter = 'G' then text.map Char.toUpper else text

def asciiOnly (s : String) : String :=
  String.ofList ((Text.points s).flatMap fun n =>
    if n < 128 then [Char.ofNat n] else Text.numberEscape n)

def isWholeLetter (c : Char) : Bool := "diuoxX".toList.contains c

def isRealLetter (c : Char) : Bool := "eEfFgG".toList.contains c

def isAnyLetter (m : Medium) (c : Char) : Bool :=
  c = 's' || c = 'r' || c = 'a' || (m = .bytes && c = 'b')

def plainText (m : Medium) (s : Store) (v : Value) : Except Error String :=
  match m, v with
  | .text, _ => s.shown v
  | .bytes, .bytes bs => .ok (String.ofList (Text.byteCharacters bs))
  | .bytes, _ => .error (.kind (.formatBytes v.kind))

def realValue (m : Medium) (v : Value) : Except Error Float :=
  match m with
  | .text => v.real
  | .bytes => v.real.mapError fun _ => .kind (.formatFloat v.kind)

def characterText (v : Value) : Except Error String :=
  match v, v.numeric? with
  | .text t, _ => if Text.length t = 1 then .ok t else .error (.kind .formatCharacter)
  | _, some (.whole i) =>
    if i < 0 || Text.lastPoint < i then .error (.overflow .character)
    else .ok (Text.single i.toNat)
  | _, _ => .error (.kind .formatCharacter)

def byteText (v : Value) : Except Error String :=
  match v, v.numeric? with
  | .bytes [b], _ => .ok (String.singleton (Char.ofNat b.toNat))
  | _, some (.whole i) =>
    if i < 0 || 255 < i then .error (.overflow .byte)
    else .ok (String.singleton (Char.ofNat i.toNat))
  | _, _ => .error (.kind .formatByte)

/-- The fault of a letter that no directive has, given the format and what follows the letter. Among
bytes, one beyond ASCII has to stand after digits to be named. -/
def letterFault (m : Medium) (template : List Char) (d : Directive) (rest : List Char) : Error :=
  let n := (Text.pointsOf (d.letter :: rest.take 1)).headD 0
  if m = .bytes && 128 ≤ n && !d.counted then .overflow .directive
  else .value (.formatLetter m.kind n (Text.width template - Text.width (d.letter :: rest)))

def convert (m : Medium) (s : Store) (d : Directive) (v : Value) (fault : Unit → Error) :
    Except Error String :=
  if d.letter = 's' || (m = .bytes && d.letter = 'b') then plainText m s v
  else if d.letter = 'r' && m = .text then s.quoted v
  else if d.letter = 'a' || d.letter = 'r' then (s.quoted v).map asciiOnly
  else if isWholeLetter d.letter then
    let exact := d.letter = 'o' || d.letter = 'x' || d.letter = 'X'
    match v.numeric? with
    | some (.whole i) => wholeText d i
    | some (.real _) =>
      if exact then .error (.kind (.formatInteger d.letter v.kind))
      else do wholeText d (← v.toInt)
    | none =>
      if exact then .error (.kind (.formatInteger d.letter v.kind))
      else
        let letter := if m = .bytes && d.letter = 'i' then 'd' else d.letter
        .error (.kind (.formatReal letter v.kind))
  else if isRealLetter d.letter then do return realText d (← realValue m v)
  else if d.letter = 'c' then
    match m with
    | .text => characterText v
    | .bytes => byteText v
  else .error (fault ())

/-- Cuts a text to the precision, and pads it to the width: numbers may be filled with zeros after
their sign and prefix. A width that cannot be held is refused. -/
def pad (m : Medium) (d : Directive) (text : String) : Except Error String :=
  let numeric := isWholeLetter d.letter || isRealLetter d.letter
  let cs := match d.precision with
    | some p =>
      if isAnyLetter m d.letter then ((Text.points text).take p).flatMap Text.ofPoint
      else text.toList
    | none => text.toList
  let (sign, cs) :=
    if !numeric then ([], cs)
    else match cs with
      | '-' :: rest => (['-'], rest)
      | _ => if d.plus then (['+'], cs) else if d.blank then ([' '], cs) else ([], cs)
  let (mark, cs) :=
    if d.alternate && (d.letter = 'o' || d.letter = 'x' || d.letter = 'X') then
      (cs.take 2, cs.drop 2)
    else ([], cs)
  let missing := d.width.getD 0 - (sign.length + mark.length + Text.width cs)
  let fill := fun c => List.replicate missing c
  if Value.sizeLimit < missing then .error .memory
  else .ok <| String.ofList <|
    if d.left then sign ++ mark ++ cs ++ fill ' '
    else if numeric && d.zero then sign ++ mark ++ fill '0' ++ cs
    else fill ' ' ++ sign ++ mark ++ cs

def keyed (m : Medium) (s : Store) (supply : Supply) (cs : List Char) :
    Except Error (Supply × List Char) :=
  match supply.table with
  | none => .error (.kind .formatMapping)
  | some table =>
    match readKey 0 cs with
    | none => .error (.value .formatKeyEnd)
    | some (key, rest) => do
      return ({ supply with pending := [← s.entryAt table (m.key key)] }, rest)

def formatFrom (m : Medium) (s : Store) (template : List Char) :
    Nat → Supply → List Char → Except Error (List Char)
  | 0, _, _ => .error cutOff
  | fuel + 1, supply, cs =>
    match cs with
    | [] =>
      if supply.pending.isEmpty || supply.table.isSome then .ok []
      else .error (.kind (.formatCount true m.kind))
    | '%' :: '%' :: rest => return '%' :: (← formatFrom m s template fuel supply rest)
    | '%' :: rest => do
      let (supply, rest) ← match rest with
        | '(' :: r => keyed m s supply r
        | _ => pure (supply, rest)
      let (d, supply, rest) ← readDirective m supply rest
      let (v, supply) ← supply.next m
      let text ← convert m s d v fun _ => letterFault m template d rest
      let padded ← pad m d text
      return padded.toList ++ (← formatFrom m s template fuel supply rest)
    | c :: rest => return c :: (← formatFrom m s template fuel supply rest)

end DeskScript.Format

namespace DeskScript.Store

def format (s : Store) (template : String) (v : Value) : Except Error String := do
  let cs := template.toList
  return String.ofList (← Format.formatFrom .text s cs (cs.length + 1) (.ofValue .text v) cs)

def formatBytes (s : Store) (template : List UInt8) (v : Value) : Except Error (List UInt8) := do
  let cs := Text.byteCharacters template
  return Text.bytesOf (← Format.formatFrom .bytes s cs (cs.length + 1) (.ofValue .bytes v) cs)

end DeskScript.Store
