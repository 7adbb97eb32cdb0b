import DeskScript.Text.Range

/-!
# Names by rule

Ideographs are named by their code points in base sixteen, and so are the characters of two other
scripts. Korean syllables are named by the sounds that they consist of. Marks that choose a variant
are numbered.
-/

namespace DeskScript.Text

def isCapitalHex (c : Char) : Bool := c.isDigit || ('A' ≤ c && c ≤ 'F')

/-- The number with digits of base sixteen, letters being capital. -/
def capitalHex? (digits : List Char) : Option Nat :=
  if digits.all isCapitalHex then
    some (digits.foldl (fun n c => n * 16 + (if c.isDigit then c.toNat - 48 else c.toNat - 55)) 0)
  else none

def after? (beginning : String) (name : List Char) : Option (List Char) :=
  if beginning.toList.isPrefixOf name then some (name.drop beginning.length) else none

/-- The ideographs that have no other name than their number. -/
def ideographRanges : List (Nat × Nat) := [
  (0x3400, 0x4dbf), (0x4e00, 0x9fff), (0x20000, 0x2a6df), (0x2a700, 0x2b738), (0x2b740, 0x2b81d),
  (0x2b820, 0x2cea1), (0x2ceb0, 0x2ebe0), (0x30000, 0x3134a)]

def ideograph? (name : List Char) : Option Nat := do
  let digits ← after? "CJK UNIFIED IDEOGRAPH-" name
  let n ← capitalHex? digits
  if (digits.length = 4 || digits.length = 5) && inRanges ideographRanges n then some n else none

/-- Beginnings of names that end with the code point, and the code points. -/
def numberedRanges : List (String × List (Nat × Nat)) := [
  ("CJK COMPATIBILITY IDEOGRAPH-", [(0xf900, 0xfa6d), (0xfa70, 0xfad9), (0x2f800, 0x2fa1d)]),
  ("KHITAN SMALL SCRIPT CHARACTER-", [(0x18b00, 0x18cd5)]),
  ("NUSHU CHARACTER-", [(0x1b170, 0x1b2fb)])]

/-- The code point of a character that is named by its number, without zeros in front. -/
def numbered? (name : List Char) : Option Nat :=
  numberedRanges.findSome? fun (beginning, ranges) => do
    let digits ← after? beginning name
    let n ← capitalHex? digits
    if digits.head? != some '0' && inRanges ranges n then some n else none

/-- The code point of a mark that chooses a variant, by its number from one on. -/
def selector? (name : List Char) : Option Nat := do
  let digits ← after? "VS" name
  let n := digits.foldl (fun n c => n * 10 + (c.toNat - 48)) 0
  if digits.isEmpty || 3 < digits.length || !digits.all Char.isDigit || digits.head? = some '0' then none
  else if 1 ≤ n && n ≤ 16 then some (0xfe00 + n - 1)
  else if 17 ≤ n && n ≤ 256 then some (0xe0100 + n - 17)
  else none

def initialSounds : List String :=
  ["G", "GG", "N", "D", "DD", "R", "M", "B", "BB", "S", "SS", "", "J", "JJ", "C", "K", "T", "P", "H"]

def vowelSounds : List String :=
  ["A", "AE", "YA", "YAE", "EO", "E", "YEO", "YE", "O", "WA", "WAE", "OE", "YO", "U", "WEO", "WE",
    "WI", "YU", "EU", "YI", "I"]

def finalSounds : List String :=
  ["", "G", "GG", "GS", "N", "NJ", "NH", "D", "L", "LG", "LM", "LB", "LS", "LT", "LP", "LH", "M", "B",
    "BS", "S", "SS", "NG", "J", "C", "K", "T", "P", "H"]

/-- The longest sound at the front: its number, and what follows it. -/
def sound? (sounds : List String) (name : List Char) : Option (Nat × List Char) :=
  let fits := sounds.zipIdx.filter fun (s, _) => s.toList.isPrefixOf name
  let longest := fits.foldl (fun best s => if best.all (·.1.length < s.1.length) then some s else best)
    (none : Option (String × Nat))
  longest.map fun (s, i) => (i, name.drop s.length)

def syllable? (name : List Char) : Option Nat := do
  let sounds ← after? "HANGUL SYLLABLE " name
  let (first, rest) ← sound? initialSounds sounds
  let (vowel, rest) ← sound? vowelSounds rest
  let (last, rest) ← sound? finalSounds rest
  if rest.isEmpty then some (0xac00 + (first * vowelSounds.length + vowel) * finalSounds.length + last)
  else none

end DeskScript.Text
