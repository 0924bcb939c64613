/-!
# Blanks and control characters

White space is the Unicode property `White_Space`; control characters are the
category `Cc`.  Trimming removes white space from the ends of a text.
-/

namespace FormScaffold.Text

/-!
## Runs of code points

A class of characters is held as a list of runs, sorted by their first code
point.  A run has a stride, so that classes in which every second code point
occurs (most cased alphabets) stay short.
-/

/-- The code points `first, first + stride, …` up to and including `last`. -/
structure CodeRun where
  first : Nat
  last : Nat
  stride : Nat

namespace CodeRun

/-- Membership of a code point in one run. -/
def covers (r : CodeRun) (n : Nat) : Bool :=
  decide (r.first ≤ n) && decide (n ≤ r.last) && (n - r.first) % r.stride == 0

/-- Membership in a sorted list of runs; the search ends at the first run that
starts above the code point. -/
def anyCovers : List CodeRun → Nat → Bool
  | [], _ => false
  | r :: rest, n => if n < r.first then false else r.covers n || anyCovers rest n

end CodeRun

/-! ## Blanks and control characters -/

/-- Code points with the property `White_Space`. -/
def blankRuns : List CodeRun :=
  [⟨0x9, 0xD, 1⟩, ⟨0x20, 0x20, 1⟩, ⟨0x85, 0x85, 1⟩, ⟨0xA0, 0xA0, 1⟩, ⟨0x1680, 0x1680, 1⟩,
   ⟨0x2000, 0x200A, 1⟩, ⟨0x2028, 0x2029, 1⟩, ⟨0x202F, 0x202F, 1⟩, ⟨0x205F, 0x205F, 1⟩,
   ⟨0x3000, 0x3000, 1⟩]

/-- White space. -/
def isBlank (c : Char) : Bool := CodeRun.anyCovers blankRuns c.toNat

/-- A control character: the two blocks of the category `Cc`. -/
def isControl (c : Char) : Bool :=
  decide (c.toNat < 0x20) || (decide (0x7F ≤ c.toNat) && decide (c.toNat < 0xA0))

/-- Drop the characters of a class from the end of a text. -/
def dropEndWhile (p : Char → Bool) (cs : List Char) : List Char :=
  (cs.reverse.dropWhile p).reverse

/-- Drop the characters of a class from both ends of a text. -/
def trimBoth (p : Char → Bool) (cs : List Char) : List Char :=
  dropEndWhile p (cs.dropWhile p)

/-- Remove leading white space. -/
def trimStart (cs : List Char) : List Char := cs.dropWhile isBlank

/-- Remove trailing white space. -/
def trimEnd (cs : List Char) : List Char := dropEndWhile isBlank cs

/-- Remove white space at both ends. -/
def trim (cs : List Char) : List Char := trimBoth isBlank cs

/-- `trim` on strings. -/
def trimmed (s : String) : String := String.ofList (trim s.toList)

/-- A text with nothing but white space. -/
def isBlankText (s : String) : Bool := s.toList.all isBlank

end FormScaffold.Text
