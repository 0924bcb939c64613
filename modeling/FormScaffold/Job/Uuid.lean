import FormScaffold.Json.Writer
import FormScaffold.Json.Reader
import FormScaffold.Record.Source

/-!
# Identifiers

Numbers of 128 bits, written as thirty-two hexadecimal digits in five groups.  They
are also read without the hyphens, in braces, or as a name of the `uuid` scheme.
-/

namespace FormScaffold

/-- An identifier of 128 bits. -/
structure Uuid where
  value : BitVec 128
  deriving DecidableEq, Repr

namespace Uuid

/-- The identifier whose bits are all zero, which stands for none. -/
def nil : Uuid := ⟨0⟩

/-- The identifier stands for none. -/
def isNil (u : Uuid) : Bool := u == nil

/-- The hexadecimal digit at a position, from the highest. -/
def digit (u : Uuid) (i : Nat) : Char := Json.hexDigit (u.value.toNat / Nat.pow 16 (31 - i) % 16)

/-- The digits at `count` positions from `start` on. -/
def digits (u : Uuid) (start count : Nat) : List Char :=
  (List.range' start count).map u.digit

/-- The written form, with hyphens. -/
def chars (u : Uuid) : List Char :=
  u.digits 0 8 ++ '-' :: (u.digits 8 4 ++ '-' :: (u.digits 12 4 ++ '-' ::
    (u.digits 16 4 ++ '-' :: u.digits 20 12)))

/-- The written form, with hyphens. -/
def text (u : Uuid) : String := String.ofList u.chars

/-- The number with the given hexadecimal digits after those of `n`. -/
def hexNumber? (n : Nat) : List Char → Option Nat
  | [] => some n
  | c :: rest =>
      match Json.hexValue? c with
      | some d => hexNumber? (n * 16 + d) rest
      | none => none

/-- Thirty-two digits. -/
def ofDigits? (cs : List Char) : Option Uuid :=
  if cs.length == 32 then (hexNumber? 0 cs).map fun n => ⟨BitVec.ofNat 128 n⟩ else none

/-- The digits of the form with hyphens. -/
def withoutHyphens? (cs : List Char) : Option (List Char) :=
  let marks := [8, 13, 18, 23].map fun i => cs[i]?
  if cs.length == 36 && marks.all (· == some '-') then
    some (cs.take 8 ++ (cs.drop 9).take 4 ++ (cs.drop 14).take 4 ++ (cs.drop 19).take 4
      ++ cs.drop 24)
  else none

/-- The form with hyphens. -/
def ofHyphenated? (cs : List Char) : Option Uuid := (withoutHyphens? cs).bind ofDigits?

/-- The name of the scheme. -/
def scheme : List Char := ['u', 'r', 'n', ':', 'u', 'u', 'i', 'd', ':']

/-- Read an identifier. -/
def ofChars? (cs : List Char) : Option Uuid :=
  if cs.length == 32 then ofDigits? cs
  else if cs.length == 36 then ofHyphenated? cs
  else if cs.length == 38 && cs.head? == some '\x7b' && cs.getLast? == some '\x7d' then
    ofHyphenated? (cs.drop 1).dropLast
  else if cs.length == 45 && scheme.isPrefixOf cs then ofHyphenated? (cs.drop scheme.length)
  else none

/-- The identifier of sixteen random bytes.  Six of its bits are not random and tell so. -/
def ofRandom (bytes : List UInt8) : Uuid :=
  let drawn := BitVec.ofNat 128 (bytes.foldl (fun n b => n * 256 + b.toNat) 0)
  let kept : BitVec 128 := ~~~(0xf <<< 76 ||| 0xc <<< 60)
  ⟨drawn &&& kept ||| 0x4 <<< 76 ||| 0x8 <<< 60⟩

/-- Read an identifier from data. -/
def decode {σ : Type} [Record.Source σ] : Record.Decode σ Uuid := fun s =>
  match Record.text s with
  | .error e => .error e
  | .ok t => Record.ofOption? (ofChars? t.toList)

end Uuid

end FormScaffold
