import FormScaffold.Template.Filters.Argument
import FormScaffold.Text.Blank

/-!
# Filters on numbers
-/

namespace FormScaffold.Template.Filters

open FormScaffold FormScaffold.Json FormScaffold.Text FormScaffold.Decimal

/-- An integer cut to the range of 64 bits. -/
def clampLong (n : Int) : Int := max (-(Nat.pow 2 63 : Int)) (min ((Nat.pow 2 63 : Int) - 1) n)

/-- A double cut to an integer of 64 bits. -/
def longOfDouble (x : Binary64) : Int := clampLong x.truncate

/-- The value of a digit in bases up to thirty-six. -/
def baseDigit? (c : Char) : Option Nat :=
  if c.isDigit then some (c.toNat - 48)
  else if c.isLower then some (c.toNat - 87)
  else if c.isUpper then some (c.toNat - 55)
  else none

/-- Digits in a base as a number. -/
def digitsInBase? (base : Nat) (cs : List Char) : Option Nat :=
  if cs.isEmpty then none
  else cs.foldlM (fun n c =>
    match baseDigit? c with
    | some d => if d < base then some (n * base + d) else none
    | none => none) 0

/-- A signed integer of 64 bits in a base. -/
def longInBase? (base : Nat) (cs : List Char) : Option Int :=
  let (negative, ds) := takeSign cs
  match digitsInBase? base ds with
  | none => none
  | some n =>
      let i : Int := if negative then -n else n
      if clampLong i == i then some i else none

/-- Drop the mark of a base as often as it occurs at the start, with a bound. -/
def dropBaseMark (letter : Char) : List Char → List Char
  | '0' :: c :: rest => if c == letter then dropBaseMark letter rest else '0' :: c :: rest
  | cs => cs

/-- The text of a number without the mark of its base. -/
def withoutBaseMark (base : Int) (cs : List Char) : List Char :=
  if base == 2 then dropBaseMark 'b' cs
  else if base == 8 then dropBaseMark 'o' cs
  else if base == 16 then dropBaseMark 'x' cs
  else cs

/-- The finite double that a text denotes. -/
def finiteOfText? (cs : List Char) : Option Binary64 := (floatOfText? cs).join

/-- A value as an integer. -/
def int : FilterFunction := fun v args => do
  let default ← argOr "int" "default" aLongInteger 0 args
  let base ← argOr "int" "base" (anInteger "u32" 0 (Nat.pow 2 32)) 10 args
  match v with
  | .string s =>
      let cs := withoutBaseMark base (trim s.toList)
      match longInBase? base.toNat cs with
      | some n => .ok (.ofInt n)
      | none =>
          match if cs.contains '.' then finiteOfText? cs else none with
          | some x => .ok (.ofInt (longOfDouble x))
          | none => .ok (.ofInt default)
  | .number n => .ok (.ofInt (longOfDouble n.toDouble))
  | _ => .error "Filter `int` received an unexpected type"

/-- A value as a double; what is not finite is null. -/
def float : FilterFunction := fun v args => do
  let default ← argOr "float" "default" aDouble Binary64.zero args
  match v with
  | .string s =>
      match floatOfText? (trim s.toList) with
      | some (some x) => .ok (.number (.float x))
      | some none => .ok .null
      | none => .ok (.number (.float default))
  | .number n => .ok (.number (.float n.toDouble))
  | _ => .error "Filter `float` received an unexpected type"

/-- A number without its sign. -/
def abs : FilterFunction := fun v _ =>
  match v with
  | .number (.int n) => .ok (.ofInt n.natAbs)
  | .number (.float x) => .ok (.number (.float ⟨false, x.code⟩))
  | _ => .error "Filter `abs` was used on a value that isn't a number."

/-- How a double is rounded to an integer. -/
inductive RoundingMethod where
  | common
  | ceil
  | floor

/-- The integer that a method rounds a double to. -/
def RoundingMethod.apply (m : RoundingMethod) (x : Binary64) : Int :=
  let unit : Int := Nat.pow 2 1074
  match m with
  | .common =>
      let magnitude : Nat := (2 * x.scaled.natAbs + Nat.pow 2 1074) / (2 * Nat.pow 2 1074)
      if x.negative then -(magnitude : Int) else magnitude
  | .ceil => -((-x.scaled) / unit)
  | .floor => x.scaled / unit

/-- A rounded double that keeps its sign when it is zero. -/
def RoundingMethod.rounded (m : RoundingMethod) (x : Binary64) : Binary64 :=
  ⟨x.negative, (Binary64.ofInt (m.apply x)).code⟩

/-- The power of ten with which decimals are moved before the point. -/
def tenToThe (e : Int) : Option Binary64 :=
  if 0 ≤ e then Binary64.ofDecimal? false 1 e
  else (Binary64.ofDecimal? false 1 (-e)).bind fun d => (Binary64.ofInt 1).div? d

/-- A number rounded to some decimals. -/
def round : FilterFunction := fun v args => do
  let x ← valueAs "round" aDouble v
  let method ← argOr "round" "method" aText "common" args
  let precision ← argOr "round" "precision" (anInteger "i32" (-(Nat.pow 2 31 : Int)) (Nat.pow 2 31)) 0 args
  let m ← match method with
    | "common" => .ok RoundingMethod.common
    | "ceil" => .ok RoundingMethod.ceil
    | "floor" => .ok RoundingMethod.floor
    | _ =>
        .error ("Filter `round` received an incorrect value for arg `method`: got `"
          ++ String.ofList (quoted method) ++ "`, only common, ceil and floor are allowed")
  let result := (tenToThe precision).bind fun scale =>
    (scale.mul? x).bind fun y => (m.rounded y).div? scale
  .ok (match result with
    | some y => .number (.float y)
    | none => .null)

/-- Names of multiples of a byte in steps of 1024, after those of thousands. -/
def decimalUnits : List String := ["B", "kB", "MB", "GB", "TB", "PB", "EB"]

/-- Names of multiples of a byte in steps of 1024. -/
def binaryUnits : List String := ["B", "KiB", "MiB", "GiB", "TiB", "PiB", "EiB"]

/-- The largest step of 1024 that a size reaches, with a bound. -/
def sizeStep : Nat → Nat → Nat → Nat
  | 0, _, step => step
  | fuel + 1, n, step =>
      if Nat.pow 1024 (step + 1) ≤ n then sizeStep fuel n (step + 1) else step

/-- A size in bytes with a unit and at most two decimals. -/
def fileSize : FilterFunction := fun v args => do
  let n ← valueAs "filesizeformat" aCount v
  let binary ← argOr "filesizeformat" "binary" aBool false args
  let n := nearestDouble n.toNat
  let step := sizeStep 6 n 0
  let unit := ((if binary then binaryUnits else decimalUnits)[step]?).getD ""
  let den := Nat.pow 1024 step
  let number :=
    if n % den == 0 then digitsOf (n / den)
    else
      let hundredths := roundDiv (n * 100) den
      let ds := digitsOf (hundredths % 100)
      digitsOf (hundredths / 100) ++ '.' :: (List.replicate (2 - ds.length) '0' ++ ds)
  .ok (.string (String.ofList number ++ " " ++ unit))

/-- Filters on numbers, by name. -/
def numberFilters : List (String × FilterFunction) :=
  [("int", int), ("float", float), ("abs", abs), ("round", round), ("filesizeformat", fileSize)]

end FormScaffold.Template.Filters
