import FormScaffold.Decimal.Binary64

/-!
# Shortest decimal text of a double

The digits are the fewest that read back as the same double, and of those the
nearest to it.  How the digits are laid out is a matter of the format: positional
notation, or an exponent outside a window of magnitudes.
-/

namespace FormScaffold.Decimal

/-- Decimal digits of a natural number. -/
def digitsOf (n : Nat) : List Char := Nat.toDigits 10 n

/-- The decimal number `digits · 10 ^ exponent`. -/
structure Numeral where
  digits : Nat
  exponent : Int
  deriving DecidableEq, Repr

namespace Numeral

/-- The value as a quotient of naturals. -/
def ratio (d : Numeral) : Nat × Nat :=
  match d.exponent with
  | .ofNat e => (d.digits * Nat.pow 10 e, 1)
  | .negSucc e => (d.digits, Nat.pow 10 (e + 1))

/-- The decimal reads back as the double with this code. -/
def readsAs (d : Numeral) (code : Nat) : Bool :=
  Binary64.nearestCode d.ratio.1 d.ratio.2 == code

end Numeral

namespace Binary64

/-- Floor of the decimal logarithm of `num / den`, for a positive quotient. -/
def floorLog10 (num den : Nat) : Int :=
  if den ≤ num then ((digitsOf (num / den)).length : Int) - 1
  else
    let e := (digitsOf (den / num)).length
    if den ≤ num * Nat.pow 10 (e - 1) then 1 - (e : Int) else -(e : Int)

/-- The quotient `num / den` in units of `10 ^ exponent`, again as a quotient. -/
def inUnits (num den : Nat) (exponent : Int) : Nat × Nat :=
  match exponent with
  | .ofNat e => (num, den * Nat.pow 10 e)
  | .negSucc e => (num * Nat.pow 10 (e + 1), den)

/-- The decimal with `count` digits that is nearest to the code's magnitude among
those that read back. -/
def candidate? (code count : Nat) : Option Numeral :=
  let (num, den) := magnitude code
  let exponent := floorLog10 num den - (count : Int) + 1
  let (n, d) := inUnits num den exponent
  let below : Numeral := ⟨n / d, exponent⟩
  let above : Numeral := ⟨n / d + 1, exponent⟩
  match below.readsAs code, above.readsAs code with
  | false, false => none
  | true, false => some below
  | false, true => some above
  | true, true => if roundDiv n d == n / d then some below else some above

/-- The first of the digit counts `count, count + 1, …` that has a candidate. -/
def firstCandidate (code : Nat) : Nat → Nat → Numeral
  | 0, _ => let (num, _) := magnitude code; ⟨num * Nat.pow 5 1074, -1074⟩
  | fuel + 1, count =>
      match candidate? code count with
      | some d => d
      | none => firstCandidate code fuel (count + 1)

/-- Drop the zeros at the end of the digits, with a bound on their number. -/
def stripZeros : Nat → Numeral → Numeral
  | 0, d => d
  | fuel + 1, d =>
      if d.digits != 0 && d.digits % 10 == 0 then stripZeros fuel ⟨d.digits / 10, d.exponent + 1⟩
      else d

/-- The shortest decimal that reads back as the magnitude of a code. -/
def shortest (code : Nat) : Numeral :=
  if code == 0 then ⟨0, 0⟩ else stripZeros 400 (firstCandidate code 17 1)

/-- Digits with a decimal point after `point` of them, filled up with zeros. -/
def positional (digits : List Char) (point : Int) : List Char :=
  match point with
  | .ofNat 0 => '0' :: '.' :: digits
  | .ofNat p =>
      if digits.length ≤ p then digits ++ List.replicate (p - digits.length) '0'
      else digits.take p ++ '.' :: digits.drop p
  | .negSucc p => '0' :: '.' :: (List.replicate (p + 1) '0' ++ digits)

/-- Text of an integer. -/
def integerText (n : Int) : List Char :=
  match n with
  | .ofNat n => digitsOf n
  | .negSucc n => '-' :: digitsOf (n + 1)

/-- Digits with an exponent, one digit before the point. -/
def scientific (digits : List Char) (point : Int) : List Char :=
  let mantissa :=
    match digits with
    | d :: e :: rest => d :: '.' :: e :: rest
    | ds => ds
  mantissa ++ 'e' :: integerText (point - 1)

/-- Text without exponent; whole values have no point. -/
def plainText (x : Binary64) : List Char :=
  let d := shortest x.code
  let digits := digitsOf d.digits
  let body := if x.code == 0 then ['0'] else positional digits (d.exponent + digits.length)
  if x.negative then '-' :: body else body

/-- Text of a JSON number: whole values end in `.0`, and magnitudes below `1e-5` or
from `1e16` on have an exponent. -/
def jsonText (x : Binary64) : List Char :=
  let d := shortest x.code
  let digits := digitsOf d.digits
  let point := d.exponent + digits.length
  let body :=
    if x.code == 0 then ['0', '.', '0']
    else if 0 ≤ d.exponent && point ≤ 16 then positional digits point ++ ['.', '0']
    else if -5 < point && point ≤ 16 then positional digits point
    else scientific digits point
  if x.negative then '-' :: body else body

end Binary64

end FormScaffold.Decimal
