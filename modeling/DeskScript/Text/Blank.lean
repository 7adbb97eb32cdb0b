import DeskScript.Text.Range

/-!
# Blanks

The characters that are white space, and the removal of blanks at the ends of a text.
-/

namespace DeskScript.Text

def blankRanges : List (Nat × Nat) := [
  (0x85, 0x85), (0xa0, 0xa0), (0x1680, 0x1680), (0x2000, 0x200a), (0x2028, 0x2029),
  (0x202f, 0x202f), (0x205f, 0x205f), (0x3000, 0x3000)]

/-- The white space that separates words in plain ASCII text. -/
def isAsciiBlank (c : Char) : Bool :=
  c == ' ' || (9 ≤ c.toNat && c.toNat ≤ 13)

/-- White space; in ASCII also the four separators from `1c` to `1f`. -/
def isBlank (c : Char) : Bool :=
  isAsciiBlank c || (0x1c ≤ c.toNat && c.toNat ≤ 0x1f) || inRanges blankRanges c.toNat

def stripBy (p : Char → Bool) (cs : List Char) : List Char :=
  ((cs.dropWhile p).reverse.dropWhile p).reverse

def strip (s : String) : String := String.ofList (stripBy isBlank s.toList)

end DeskScript.Text
