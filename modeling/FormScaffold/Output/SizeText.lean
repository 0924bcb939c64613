import FormScaffold.Decimal.Binary64

/-!
# Sizes for readers

A count of bytes below 1024 is written as it is.  A larger one is written in the
greatest of the units KB, MB, GB and TB that it reaches, with one decimal.
-/

namespace FormScaffold.Output

open FormScaffold.Decimal

/-- The units above a byte, each 1024 times the one before it. -/
def sizeUnits : List String := ["KB", "MB", "GB", "TB"]

/-- The unit for `bytes` and its size, when `size` bytes make the first unit left. -/
def unitFor (bytes size : Nat) : List String → String × Nat
  | [] => ("B", 1)
  | [u] => (u, size)
  | u :: v :: rest =>
      if bytes < size * 1024 then (u, size) else unitFor bytes (size * 1024) (v :: rest)

/-- A number of tenths with its decimal point. -/
def tenthsText (n : Nat) : String := toString (n / 10) ++ "." ++ toString (n % 10)

/-- The size of a file or folder for readers. -/
def sizeText (bytes : Nat) : String :=
  if bytes < 1024 then toString bytes ++ " B"
  else
    let exact := nearestDouble bytes
    let (unit, size) := unitFor exact 1024 sizeUnits
    tenthsText (roundDiv (exact * 10) size) ++ " " ++ unit

end FormScaffold.Output
