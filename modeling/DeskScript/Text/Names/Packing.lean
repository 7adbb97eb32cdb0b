import DeskScript.Text.Range

/-!
# Packed names

A long list of names in capital letters, digits and marks is kept packed, as the digits of one number.
The number tells the names bit by bit: what is left of its range is shared out between the two bits, by
what has been seen so far after the same characters and below the same names. How far that is trusted
is learnt from the names themselves.
-/

namespace DeskScript.Text

/-- The characters that can be packed: each has a number of six bits. The last one begins a name. -/
def packable : List Char := "ABCDEFGHIJKLMNOPQRSTUVWXYZ0123456789 -a".toList

/-- Mixes a number into another one. -/
def spread (m n : UInt32) : UInt32 := (m + n + 1) * 0x9e3779b1

/-- A name above the one that is being told: what is left of the word in the place of the one that is
being told, a number for the whole of it, and the words after it. -/
structure Row where
  left : List UInt32 := []
  word : UInt32 := 0
  words : List (List UInt32) := []

def Row.ofWords : List (List UInt32) → Row
  | [] => {}
  | word :: words => ⟨word, word.foldl spread 0, words⟩

def Row.letter (r : Row) : UInt32 := r.left.headD 63

/-- What has been told, as far as the next character can depend on it: the last characters, the word that
is being told and the one before it, the two names above, for how long and whether this name goes on as
the one above, its words and letters backwards, and the words of the one above. -/
structure Trail where
  characters : UInt32 := 0
  word : UInt32 := 0
  wordBefore : UInt32 := 0
  above : Row := {}
  higher : Row := {}
  run : UInt32 := 0
  follows : Bool := true
  name : List (List UInt32) := [[]]
  nameAbove : List (List UInt32) := []

namespace Trail

def letters (t : Trail) : List UInt32 := t.name.headD []

def expected (t : Trail) : UInt32 := if t.follows then t.above.letter else 63

/-- What the next character is expected from. -/
def contexts (t : Trail) : List UInt32 :=
  let last (n : UInt32) : UInt32 := t.characters % (1 <<< (6 * n))
  let place := t.name.length.toUInt32
  let clues := [[last 2], [last 3], [last 5], [t.word], [t.wordBefore, last 1],
    [(Row.ofWords t.nameAbove).word, t.word], [t.above.word, t.word], [t.above.word, t.word, t.wordBefore],
    [t.expected, last 1], [t.expected, t.higher.letter, t.run], [t.expected, place, t.letters.length.toUInt32],
    [t.expected, place, t.nameAbove.length.toUInt32, t.run]]
  clues.zipIdx.map fun (clue, i) => clue.foldl spread i.toUInt32

def push (t : Trail) (n : UInt32) : Trail :=
  let characters := t.characters * 64 + n
  let follows := t.expected = n
  let run := if follows then min (t.run + 1) 15 else 0
  let name := (n :: t.letters) :: t.name.drop 1
  let next (r : Row) : Row := { r with left := r.left.drop 1 }
  if n < 36 then
    { t with characters, word := spread t.word n, above := next t.above, higher := next t.higher, run, follows, name }
  else if n < 38 then
    { t with characters, word := 0, wordBefore := t.word, above := .ofWords t.above.words,
             higher := .ofWords t.higher.words, run, follows := true, name := [] :: name }
  else
    let name := (t.name.map List.reverse).reverse
    { characters, above := .ofWords name, higher := .ofWords t.nameAbove, nameAbove := name }

end Trail

/-- The logarithm of a number to base two in parts of 256, in straight lines between powers of two. -/
def logarithm (n : Nat) : Int := 256 * n.log2 + ((256 * n) >>> n.log2 : Nat) - 256

def countLogarithms : Array Int := Array.ofFn fun n : Fin 256 => logarithm (8 * n + 1)

/-- The number with a logarithm in parts of 256, 256 times. -/
def power (n : Nat) : Nat := (256 + n % 256) <<< (n / 256)

/-- Names that are being unpacked: the digits that are still to be read, the number that has been read
and its range, how often each bit has been seen in each context, and how far each context is trusted. -/
structure Unpacking where
  digits : List Char
  number : Nat
  range : Nat
  counts : ByteArray
  trust : Array Int

namespace Unpacking

def widen (counts : ByteArray) (trust : Array Int) : List Char → Nat → Nat → Unpacking
  | [], number, range => ⟨[], number, range, counts, trust⟩
  | d :: digits, number, range =>
    if range < 0x100000000 then
      widen counts trust digits (number * packingDigits.length + packingDigits.idxOf d)
        (range * packingDigits.length)
    else ⟨d :: digits, number, range, counts, trust⟩

def voice (counts : ByteArray) (i : Nat) : Int :=
  countLogarithms.getD (counts.get! (i + 1)).toNat 0 - countLogarithms.getD (counts.get! i).toNat 0

/-- What all contexts say, each as far as it is trusted. Their trust begins at two places. -/
def verdict (trust : Array Int) (i j : Nat) : List Int → Int
  | [] => 0
  | v :: voices => (trust.getD i 0 + trust.getD j 0) * v + verdict trust (i + 1) (j + 1) voices

/-- The share of the bit zero, in 65536 parts. -/
def clearShare (verdict : Int) : Nat :=
  let unlikely := 0x1000000 / (256 + power (min (verdict.natAbs / 65536) 3840))
  if verdict < 0 then 65536 - unlikely else unlikely

/-- Counts a bit once more, and the other one at most twice. -/
def count (places : List Nat) (bit : Nat) (counts : ByteArray) : ByteArray :=
  places.foldl (fun counts i =>
    let more := counts.set! (i + bit) (min (counts.get! (i + bit)) 254 + 1)
    more.set! (i + 1 - bit) (min (more.get! (i + 1 - bit)) 2)) counts

/-- The trust after a surprise: what has spoken for it gains. -/
def learn (surprise : Int) (i j : Nat) : List Int → Array Int → Array Int
  | [], trust => trust
  | v :: voices, trust =>
    let gain := surprise * v / 65536
    learn surprise (i + 1) (j + 1) voices ((trust.modify i (· + gain)).modify j (· + gain))

def bit (t : Trail) (contexts : List UInt32) (bits : Nat) : Unpacking → Nat × Unpacking
  | ⟨digits, number, range, counts, trust⟩ =>
    let places := contexts.map fun c => (spread c bits.toUInt32 >>> 7).toNat * 2
    let voices := places.map (voice counts)
    let first := (2 * bits + if t.word = 0 then 1 else 0) * contexts.length
    let second := (128 + t.run.toNat + if bits = 0 then 16 else 0) * contexts.length
    let clear := clearShare (verdict trust first second voices)
    let share := range * clear / 65536
    if number < share then
      (2 * bits, widen (count places 0 counts) (learn (clear - 65536) first second voices trust) digits number share)
    else
      (2 * bits + 1, widen (count places 1 counts) (learn clear first second voices trust) digits
        (number - share) (range - share))

def character (t : Trail) (contexts : List UInt32) (u : Unpacking) : List UInt32 × Unpacking :=
  let (bits, u) := (List.replicate 6 ()).foldl (fun (bits, u) _ => bit t contexts bits u) (1, u)
  ([bits.toUInt32 - 64], u)

/-- The next characters: the whole word above, at the beginning of a word, or one character. -/
def characters (t : Trail) (u : Unpacking) : List UInt32 × Unpacking :=
  let contexts := t.contexts
  if t.letters.isEmpty && !t.above.left.isEmpty then
    match bit t contexts 0 u with
    | (0, u) => character t contexts u
    | (_, u) => (t.above.left, u)
  else character t contexts u

def all (told : Array Char) (t : Trail) (u : Unpacking) : Nat → Array Char
  | 0 => told
  | n + 1 =>
    let (letters, u) := characters t u
    all (letters.foldl (fun told c => told.push (packable.getD c.toNat ' ')) told) (letters.foldl Trail.push t) u n

end Unpacking

/-- What digits tell in some steps. -/
def unpacked (steps : Nat) (digits : List Char) : List Char :=
  let counts := Nat.repeat (ByteArray.push · 0) 0x4000000 .empty
  let trust := Array.replicate 0x780 6000
  (Unpacking.all #[] {} (Unpacking.widen counts trust digits 0 1) steps).toList

end DeskScript.Text
