import DeskScript.Text.Names.Numbered
import DeskScript.Text.Names.Packing
import DeskScript.Text.Names.Table

/-!
# Characters by name

The characters that can be called by their standard names. Capital and small letters in a name mean
the same, except in the names of ideographs and Korean syllables, which are in capital letters.
-/

namespace DeskScript.Text

/-- The names in entries with their code points, from a code point on. A number says how many code points
have no name here, and after the last code point comes the first one again. -/
def namesFrom (n : Nat) : List String → List (String × Nat)
  | [] => []
  | entry :: rest =>
    match entry.toNat? with
    | some gap => namesFrom ((n + gap) % 0x110000) rest
    | none => (entry, n) :: namesFrom (n + 1) rest

def tableNames : List (String × Nat) :=
  namesFrom 0 (((String.ofList (unpacked tableSteps (String.join tableDigits).toList)).splitOn "a").drop 1)

def named? (name : String) : Option Char :=
  let exact := name.toList
  let capital := exact.map Char.toUpper
  let code := (ideograph? exact).orElse fun _ => (syllable? exact).orElse fun _ =>
    (selector? capital).orElse fun _ => (numbered? capital).orElse fun _ => tableNames.lookup (String.ofList capital)
  code.map Char.ofNat

end DeskScript.Text
