/-!
# Ranges of characters

A class of characters is a list of ranges of code points. The long ones are kept packed, each number
in a few digits.
-/

namespace DeskScript.Text

def inRanges (ranges : List (Nat × Nat)) (n : Nat) : Bool :=
  ranges.any fun r => r.1 ≤ n && n ≤ r.2

/-- The ranges from a code point on, by the numbers of code points that are not in a range and in one,
in turn. -/
def rangesFrom (n : Nat) : List Nat → List (Nat × Nat)
  | outside :: inside :: rest =>
    (n + outside, n + outside + inside - 1) :: rangesFrom (n + outside + inside) rest
  | _ => []

def packingDigits : List Char :=
  "!#$%&()*+,./0123456789:;<=>?@ABCDEFGHIJKLMNOPQRSTUVWXYZ[]^_abcdefghijklmnopqrstuvwxyz|~".toList

/-- The numbers in a text of digits, after what has been read of the next one: its last digit is one of
the first 74, and those before it are others. -/
def numbersFrom (before : Nat) : List Char → List Nat
  | [] => []
  | c :: rest =>
    let d := packingDigits.idxOf c
    if d < 74 then (before * 74 + d) :: numbersFrom 0 rest else numbersFrom (before * 13 + d - 73) rest

def packedNumbers (digits : List String) : List Nat := numbersFrom 0 (digits.flatMap String.toList)

def packedRanges (digits : List String) : List (Nat × Nat) := rangesFrom 0 (packedNumbers digits)

end DeskScript.Text
