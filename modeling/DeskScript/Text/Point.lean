/-!
# Code points

A text is a sequence of code points. Most code points are characters, but the halves of surrogate
pairs are not; escapes can still bring a half into a text on its own. So a half is held as the
character with the same number in plane thirteen, and a character of that stretch is held as itself
behind a mark. A half is a code point like any other: two halves in a row never become one
character. Nothing but the last code point of all is written with a stand-in, so the mark counts for
nothing and every other character for one code point.
-/

namespace DeskScript.Text

def isHalf (n : Nat) : Bool := 0xd800 ≤ n && n < 0xe000

/-- Where the halves are held. -/
def halfPlane : Nat := 0xd0000

/-- Whether a number is the number of a character that holds a half. -/
def isHalfPlace (n : Nat) : Bool := halfPlane ≤ n && isHalf (n - halfPlane)

def lastPoint : Nat := 0x10ffff

/-- What stands before a character that is not what it seems. -/
def mark : Char := Char.ofNat lastPoint

/-- What stands behind the mark for the last code point. -/
def standIn : Char := Char.ofNat 0x10fffe

def ofPoint (n : Nat) : List Char :=
  if isHalf n then [Char.ofNat (halfPlane + n)]
  else if isHalfPlace n then [mark, Char.ofNat n]
  else if n = lastPoint then [mark, standIn]
  else [Char.ofNat n]

/-- The code point that a character behind a mark holds. -/
def markedPoint (c : Char) : Nat := if isHalfPlace c.toNat then c.toNat else lastPoint

/-- The code point that a character by itself holds. -/
def plainPoint (c : Char) : Nat := if isHalfPlace c.toNat then c.toNat - halfPlane else c.toNat

def pointsOf : List Char → List Nat
  | [] => []
  | [c] => [plainPoint c]
  | c :: d :: rest =>
    if c = mark then markedPoint d :: pointsOf rest else plainPoint c :: pointsOf (d :: rest)

def points (s : String) : List Nat := pointsOf s.toList

def ofPoints (ps : List Nat) : String := String.ofList (ps.flatMap ofPoint)

def single (n : Nat) : String := String.ofList (ofPoint n)

/-- The number of code points that characters hold. -/
def width (cs : List Char) : Nat := cs.countP (· ≠ mark)

/-- Whether a text is all ASCII, so that each byte is a code point. -/
def isAscii (s : String) : Bool := s.utf8ByteSize == s.length

def length (s : String) : Nat := if isAscii s then s.length else width s.toList

/-- The code point so many code points behind a position. -/
def pointFrom? (s : String) (i : Nat) (p : String.Pos.Raw) : Option Nat :=
  if s.utf8ByteSize ≤ p.byteIdx then none
  else
    let c := p.get s
    let marked := c == mark
    let q := if marked then p.next s else p
    match i with
    | 0 => some (if marked then markedPoint (q.get s) else plainPoint c)
    | i + 1 => pointFrom? s i (q.next s)

def point? (s : String) (i : Nat) : Option Nat :=
  if isAscii s then
    if h : (⟨i⟩ : String.Pos.Raw) < s.rawEndPos then some (s.getUTF8Byte ⟨i⟩ h).toNat else none
  else pointFrom? s i 0

/-- A text of characters, none of which holds anything but itself, as a text of code points. -/
def encode (s : String) : String :=
  if isAscii s then s else ofPoints (s.toList.map Char.toNat)

/-- The characters of a text that holds no half. -/
def characters (s : String) : List Char := (points s).map Char.ofNat

/-- A text of code points as a text of characters. -/
def decode (s : String) : String := if isAscii s then s else String.ofList (characters s)

end DeskScript.Text
