/-!
# UTF-8

Texts from bytes.  Strict reading accepts well-formed UTF-8 only; lenient reading puts
a replacement character for each longest piece that cannot go on.
-/

namespace FormScaffold.Text

/-- The bytes of a text. -/
def utf8Bytes (s : String) : List UInt8 := s.toUTF8.toList

/-- The text of well-formed bytes. -/
def ofUtf8? (bytes : List UInt8) : Option String := String.fromUTF8? bytes.toByteArray

/-- The byte lies between two others. -/
def between (low high b : UInt8) : Bool := decide (low ≤ b) && decide (b ≤ high)

/-- The range of the second byte after a first one, and how many bytes follow it. -/
def leadOf? (b : UInt8) : Option (UInt8 × UInt8 × Nat) :=
  if between 0xC2 0xDF b then some (0x80, 0xBF, 0)
  else if b == 0xE0 then some (0xA0, 0xBF, 1)
  else if b == 0xED then some (0x80, 0x9F, 1)
  else if between 0xE1 0xEF b then some (0x80, 0xBF, 1)
  else if b == 0xF0 then some (0x90, 0xBF, 2)
  else if between 0xF1 0xF3 b then some (0x80, 0xBF, 2)
  else if b == 0xF4 then some (0x80, 0x8F, 2)
  else none

/-- The replacement character. -/
def replacement : Char := Char.ofNat 0xFFFD

/-- A state of lenient reading: the value so far, and the range and count of what is
to come. -/
structure Pending where
  value : Nat
  low : UInt8
  high : UInt8
  left : Nat

/-- Lenient reading from the start of a character, or within one. -/
def lossyFrom : Option Pending → List UInt8 → List Char
  | none, [] => []
  | some _, [] => [replacement]
  | none, b :: rest =>
      if b < 0x80 then Char.ofNat b.toNat :: lossyFrom none rest
      else
        match leadOf? b with
        | none => replacement :: lossyFrom none rest
        | some (low, high, left) =>
            let bits := b.toNat % (if left == 0 then 32 else if left == 1 then 16 else 8)
            lossyFrom (some ⟨bits, low, high, left⟩) rest
  | some p, b :: rest =>
      if between p.low p.high b then
        let value := p.value * 64 + b.toNat % 64
        match p.left with
        | 0 => Char.ofNat value :: lossyFrom none rest
        | left + 1 => lossyFrom (some ⟨value, 0x80, 0xBF, left⟩) rest
      else if b < 0x80 then replacement :: Char.ofNat b.toNat :: lossyFrom none rest
      else
        match leadOf? b with
        | none => replacement :: replacement :: lossyFrom none rest
        | some (low, high, left) =>
            let bits := b.toNat % (if left == 0 then 32 else if left == 1 then 16 else 8)
            replacement :: lossyFrom (some ⟨bits, low, high, left⟩) rest

/-- The text of any bytes. -/
def ofUtf8Lossy (bytes : List UInt8) : String := String.ofList (lossyFrom none bytes)

end FormScaffold.Text
