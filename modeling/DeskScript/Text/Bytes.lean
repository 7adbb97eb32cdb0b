import DeskScript.Text.Quoted

/-!
# Bytes

Bytes as they are shown, and as the text that has the same numbers for its code points.
-/

namespace DeskScript.Text

def quotedByte (quote : Char) (b : UInt8) : List Char :=
  let c := Char.ofNat b.toNat
  if c = quote ∨ c = '\\' then ['\\', c]
  else if c = '\n' then ['\\', 'n']
  else if c = '\r' then ['\\', 'r']
  else if c = '\t' then ['\\', 't']
  else if 32 ≤ b.toNat ∧ b.toNat < 127 then [c]
  else numberEscape b.toNat

def byteCharacters (bs : List UInt8) : List Char := bs.map fun b => Char.ofNat b.toNat

def quotedBytes (bs : List UInt8) : String :=
  let quote := quoteFor (byteCharacters bs)
  String.ofList ('b' :: quote :: bs.flatMap (quotedByte quote) ++ [quote])

def bytesOf (cs : List Char) : List UInt8 := cs.map fun c => UInt8.ofNat c.toNat

end DeskScript.Text
