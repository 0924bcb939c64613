/-!
# Doubles of binary and decimal form

Quotients are rounded once to a double, and so are decimal numbers when they are read.
-/

namespace FormScaffold.Decimal

/-!
## Rounding of quotients

Quotients of natural numbers rounded to the nearest integer, a tie to the even
neighbour, and the rounding of a natural number to 53 significant bits.
-/

/-- `num / den` rounded to the nearest integer; a tie goes to the even one. -/
def roundDiv (num den : Nat) : Nat :=
  let q := num / den
  let r := num % den
  if 2 * r < den then q
  else if den < 2 * r then q + 1
  else if q % 2 == 0 then q
  else q + 1

/-- Bits of significance of a double. -/
def significantBits : Nat := 53

/-- A natural number rounded to the precision of a double. -/
def nearestDouble (n : Nat) : Nat :=
  let excess := (Nat.log2 n + 1) - significantBits
  roundDiv n (Nat.pow 2 excess) * Nat.pow 2 excess

/-!
## Doubles

A finite double is a sign and a magnitude code.  Codes count the magnitudes upward
from zero, so they are ordered as the magnitudes are: below `2 ^ 52` a code counts
units of `2 ^ -1074`, and each further block of `2 ^ 52` codes doubles the unit.
All arithmetic is exact on quotients of naturals and rounds once, to the nearest
double, a tie to the even code.
-/

/-- The codes of one binade. -/
def binade : Nat := Nat.pow 2 52

/-- The first code that stands for no finite magnitude. -/
def infiniteCode : Nat := 2047 * binade

/-- A finite double. -/
structure Binary64 where
  negative : Bool
  code : Nat
  deriving DecidableEq, Repr

namespace Binary64

/-- Positive zero. -/
def zero : Binary64 := ⟨false, 0⟩

/-- The integer significand of a magnitude code. -/
def significand (code : Nat) : Nat :=
  if code < binade then code else binade + code % binade

/-- Position of the significand's unit above `2 ^ -1074`. -/
def unitShift (code : Nat) : Nat := code / binade - 1

/-- The magnitude of a code as a quotient of naturals. -/
def magnitude (code : Nat) : Nat × Nat :=
  (significand code * Nat.pow 2 (unitShift code), Nat.pow 2 1074)

/-- Floor of the binary logarithm of `num / den`, raised by `1074`; zero below. -/
def scaledLog2 (num den : Nat) : Nat :=
  Nat.log2 (num * Nat.pow 2 1074 / den)

/-- The code nearest to `num / den`, also beyond the finite codes. -/
def nearestCode (num den : Nat) : Nat :=
  let shift := scaledLog2 num den - 52
  shift * binade + roundDiv (num * Nat.pow 2 1074) (den * Nat.pow 2 shift)

/-- The finite double nearest to a quotient; `none` if it is too large. -/
def ofRatio? (negative : Bool) (num den : Nat) : Option Binary64 :=
  let code := nearestCode num den
  if code < infiniteCode then some ⟨negative, code⟩ else none

/-- The double nearest to `digits · 10 ^ exponent`. -/
def ofDecimal? (negative : Bool) (digits : Nat) (exponent : Int) : Option Binary64 :=
  match exponent with
  | .ofNat e => ofRatio? negative (digits * Nat.pow 10 e) 1
  | .negSucc e => ofRatio? negative digits (Nat.pow 10 (e + 1))

/-- The double nearest to an integer. -/
def ofInt (n : Int) : Binary64 :=
  ⟨decide (n < 0), nearestCode n.natAbs 1⟩

/-- Zero of either sign. -/
def isZero (x : Binary64) : Bool := x.code == 0

/-- The double with the other sign. -/
def neg (x : Binary64) : Binary64 := ⟨!x.negative, x.code⟩

/-- Signed significand over the common denominator `2 ^ 1074`. -/
def scaled (x : Binary64) : Int :=
  let m : Int := (magnitude x.code).1
  if x.negative then -m else m

/-- Sum; two zeros of different sign, and exact cancellation, give positive zero. -/
def add? (x y : Binary64) : Option Binary64 :=
  let s := x.scaled + y.scaled
  if s == 0 then some ⟨x.negative && y.negative, 0⟩
  else ofRatio? (decide (s < 0)) s.natAbs (Nat.pow 2 1074)

/-- Difference. -/
def sub? (x y : Binary64) : Option Binary64 := x.add? y.neg

/-- Product. -/
def mul? (x y : Binary64) : Option Binary64 :=
  ofRatio? (x.negative != y.negative)
    ((magnitude x.code).1 * (magnitude y.code).1) (Nat.pow 2 1074 * Nat.pow 2 1074)

/-- Quotient; `none` if the divisor is zero. -/
def div? (x y : Binary64) : Option Binary64 :=
  if y.isZero then none
  else ofRatio? (x.negative != y.negative) (magnitude x.code).1 (magnitude y.code).1

/-- Remainder of the quotient cut towards zero; it has the sign of the dividend. -/
def rem? (x y : Binary64) : Option Binary64 :=
  if y.isZero then none
  else ofRatio? x.negative ((magnitude x.code).1 % (magnitude y.code).1) (Nat.pow 2 1074)

/-- Order of values; zeros of either sign are equal. -/
def lt (x y : Binary64) : Bool := decide (x.scaled < y.scaled)

/-- Equality of values; zeros of either sign are equal. -/
def eqValue (x y : Binary64) : Bool := x.scaled == y.scaled

/-- The value has no fractional part. -/
def isInteger (x : Binary64) : Bool := x.scaled % (Nat.pow 2 1074 : Int) == 0

/-- The value cut towards zero to an integer. -/
def truncate (x : Binary64) : Int := Int.tdiv x.scaled (Nat.pow 2 1074 : Int)

end Binary64

/-!
## Decimal numbers from text

A decimal number has a sign, digits, perhaps a point with decimals, and perhaps an
exponent.
-/

/-- The value of decimal digits. -/
def digitsValue (ds : List Char) : Nat := ds.foldl (fun n c => n * 10 + (c.toNat - 48)) 0

/-- A sign, taken off the start of a text. -/
def takeSign (cs : List Char) : Bool × List Char :=
  match cs with
  | '-' :: rest => (true, rest)
  | '+' :: rest => (false, rest)
  | _ => (false, cs)

/-- A signed exponent that makes up a whole text. -/
def exponent? (cs : List Char) : Option Int :=
  let (negative, ds) := takeSign cs
  if ds.isEmpty || !ds.all Char.isDigit then none
  else
    let n : Int := digitsValue ds
    some (if negative then -n else n)

/-- Exponents beyond this size are as good as this one. -/
def exponentCap : Int := 100000

/-- The double of a decimal number that makes up a whole text.  The inner option is
empty if the number is too large. -/
def floatOfText? (cs : List Char) : Option (Option Binary64) :=
  let (negative, rest) := takeSign cs
  let whole := rest.takeWhile Char.isDigit
  let rest := rest.dropWhile Char.isDigit
  let (decimals, rest) :=
    match rest with
    | '.' :: after => (after.takeWhile Char.isDigit, after.dropWhile Char.isDigit)
    | _ => ([], rest)
  if whole.isEmpty && decimals.isEmpty then none
  else
    let exponent :=
      match rest with
      | [] => some 0
      | c :: after => if c == 'e' || c == 'E' then exponent? after else none
    exponent.map fun e =>
      let digits := digitsValue (whole ++ decimals)
      if digits == 0 then some ⟨negative, 0⟩
      else
        let e := max (-exponentCap) (min exponentCap e)
        Binary64.ofDecimal? negative digits (e - decimals.length)

end FormScaffold.Decimal
