import DeskScript.Number.Shortest

/-!
# Number layout

How digits are laid out as text. `plain` is the layout of numbers in scripts and files: the fewest
digits that read back, positional from `0.0001` up to sixteen digits, with a point always shown.
-/

namespace DeskScript.Number

structure Layout where
  smallest : Int
  /-- Leading digits with an exponent from this on are written with an exponent. -/
  largest : Int
  point : Bool
  deriving Repr

/-- Scripts show numbers with a point, and from `1e-05` down and `1e+16` up with an exponent. -/
def Layout.script : Layout := ⟨-4, 16, true⟩

def repeatChar (c : Char) (n : Nat) : String := String.ofList (List.replicate n c)

def padded (width n : Nat) : String :=
  let s := toString n
  repeatChar '0' (width - s.length) ++ s

def exponentText (e : Int) : String :=
  "e" ++ (if e < 0 then "-" else "+") ++ padded 2 e.natAbs

/-- A decimal with its exponent: one digit, the point, the other digits. -/
def scientific (point : Bool) (digits : String) (exponent : Int) : String :=
  let rest := digits.drop 1 |>.toString
  let fraction := if rest.isEmpty && !point then "" else "." ++ rest
  (digits.take 1).toString ++ fraction ++ exponentText exponent

def positional (point : Bool) (d : Decimal) : String :=
  let digits := toString d.digits
  if 0 ≤ d.exponent then
    digits ++ repeatChar '0' d.exponent.toNat ++ if point then ".0" else ""
  else
    let places := (-d.exponent).toNat
    if digits.length ≤ places then
      "0." ++ repeatChar '0' (places - digits.length) ++ digits
    else
      let whole := digits.length - places
      (digits.take whole).toString ++ "." ++ (digits.drop whole).toString

def Layout.write (l : Layout) (d : Decimal) : String :=
  let digits := toString d.digits
  let lead := d.exponent + digits.length - 1
  if lead < l.smallest || l.largest ≤ lead then scientific false digits lead
  else positional l.point d

def Layout.text (l : Layout) (x : Float) : String :=
  match Binary.ofFloat x with
  | .nan => "nan"
  | .infinite negative => if negative then "-inf" else "inf"
  | .finite negative m e =>
    (if negative then "-" else "") ++
      if m = 0 then positional l.point ⟨0, 0⟩ else l.write (shortest m e)

def plain (x : Float) : String := Layout.script.text x

/-- The ratio `num / den` with a fixed number of places, a half going to the even digit. -/
def fixedRatio (places num den : Nat) : String :=
  let scaled := divHalfEven (num * tenTo places) den
  let whole := toString (scaled / tenTo places)
  if places = 0 then whole else whole ++ "." ++ padded places (scaled % tenTo places)

def magnitude (m : Nat) (e : Int) : Nat × Nat :=
  if 0 ≤ e then (m * twoTo e.toNat, 1) else (m, twoTo (-e).toNat)

/-- No double has more decimal places than this, nor more significant digits. -/
def exactPlaces : Nat := 1100

def fixedMagnitude (places : Nat) (x : Float) : String :=
  match Binary.ofFloat x with
  | .nan => "nan"
  | .infinite _ => "inf"
  | .finite _ m e =>
    let (n, d) := magnitude m e
    fixedRatio (min places exactPlaces) n d ++ repeatChar '0' (places - exactPlaces)

/-- Whether the sign bit of a double is set; a NaN shows no sign. -/
def isNegative (x : Float) : Bool :=
  match Binary.ofFloat x with
  | .nan => false
  | .infinite s => s
  | .finite s _ _ => s

def fixed (places : Nat) (x : Float) : String :=
  (if isNegative x then "-" else "") ++ fixedMagnitude places x

/-- The magnitude of a double rounded to `count` significant digits: the digits and the exponent of
the first one. Zero has the exponent zero. -/
def significant (count m : Nat) (e : Int) : Nat × Int :=
  if m = 0 then (0, 0)
  else
    let (n, d) := magnitude m e
    let lead := leading n d
    let (gn, gd) := onGrid n d (lead - (count - 1 : Nat))
    let digits := divHalfEven gn gd
    if digits = tenTo count then (tenTo (count - 1), lead + 1) else (digits, lead)

/-- The magnitude of a double with an exponent and a fixed number of places. -/
def exponential (places : Nat) (keepPoint : Bool) (x : Float) : String :=
  match Binary.ofFloat x with
  | .nan => "nan"
  | .infinite _ => "inf"
  | .finite _ m e =>
    let (digits, lead) := significant (min places exactPlaces + 1) m e
    let text := padded (min places exactPlaces + 1) digits ++ repeatChar '0' (places - exactPlaces)
    scientific keepPoint text lead

/-- Drops the zeros at the end of a fraction, and a point that is left last. -/
def trimFraction (s : String) : String :=
  if s.any (· == '.') then
    let cs := s.toList.reverse.dropWhile (· == '0')
    String.ofList (match cs with
      | '.' :: rest => rest.reverse
      | rest => rest.reverse)
  else s

/-- The magnitude of a double with `count` significant digits, with an exponent only where the
positional form would need more than `count` digits or four leading zeros. -/
def general (count : Nat) (alternate : Bool) (x : Float) : String :=
  match Binary.ofFloat x with
  | .nan => "nan"
  | .infinite _ => "inf"
  | .finite _ m e =>
    let count := max 1 (if alternate then count else min count exactPlaces)
    let (digits, lead) := significant count m e
    if lead < -4 || (count : Int) ≤ lead then
      let text := padded count digits
      let mantissa := (text.take 1).toString ++ "." ++ (text.drop 1).toString
      (if alternate then mantissa else trimFraction mantissa) ++ exponentText lead
    else
      let text := positional false ⟨digits, lead - (count - 1 : Nat)⟩
      let text := if m = 0 then "0." ++ repeatChar '0' (count - 1) else text
      let text := if alternate && !(text.any (· == '.')) then text ++ "." else text
      if alternate then text else trimFraction text

/-- The units of amounts of memory, each a thousand and twenty-four of the one before. -/
def memoryUnits : List String := ["bytes", "KiB", "MiB", "GiB", "TiB", "PiB", "EiB"]

/-- An amount of memory with three digits and its unit. Amounts that would be rounded to the next unit
are given in that one. -/
def memorySize (bytes : Nat) : String :=
  let i := max bytes.log2 1 / 10
  let kilos := fun i => twoTo (10 * i)
  let (i, per) :=
    if divHalfEven bytes (kilos i) = 1024 then (i + 1, kilos (i + 1)) else (i, kilos i)
  let amount := ofRatio false bytes per
  let text :=
    if i = 0 then fixedRatio 0 bytes 1
    else if divHalfEven bytes per < 1000 then general 3 true amount
    else fixedRatio 0 bytes per ++ "."
  text ++ " " ++ memoryUnits[i]?.getD ""

end DeskScript.Number
