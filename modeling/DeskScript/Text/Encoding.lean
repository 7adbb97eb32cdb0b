import DeskScript.Text.Quoted

/-!
# Texts in bytes

The names of files and the sources of literals are written in bytes. A half of a surrogate pair has
no form in bytes, except that in the names of files some halves stand for a single byte each.
-/

namespace DeskScript.Text

/-- Halves of surrogate pairs that cannot be written: where they begin and end, and the first one. -/
structure EncodeFault where
  first : Nat
  last : Nat
  point : Nat
  deriving DecidableEq, Repr

def EncodeFault.message (f : EncodeFault) : String :=
  "'utf-8' codec can't encode " ++
    (if f.first = f.last then
      "character '" ++ String.ofList (numberEscape f.point) ++ s!"' in position {f.first}"
    else s!"characters in position {f.first}-{f.last}") ++
    ": surrogates not allowed"

/-- Whether a half of a surrogate pair stands for a byte. -/
def isByteHalf (n : Nat) : Bool := 0xdc80 ≤ n && n < 0xdd00

/-- The halves that stop a text from being written, from an offset on. Where halves may stand for
bytes, those that do are passed over. -/
def encodeFaultFrom (escaped : Bool) (offset : Nat) : List Nat → Option EncodeFault
  | [] => none
  | n :: rest =>
    if isHalf n && !(escaped && isByteHalf n) then
      some ⟨offset, offset + (rest.takeWhile isHalf).length, n⟩
    else encodeFaultFrom escaped (offset + 1) rest

def encodeFault? (escaped : Bool) (s : String) : Option EncodeFault :=
  encodeFaultFrom escaped 0 (points s)

def byteLength (s : String) : Nat :=
  (points s).foldl (fun size n => size + if isHalf n then 1 else (Char.ofNat n).utf8Size) 0

end DeskScript.Text
