/-!
# Searching in texts

The first occurrence of a pattern, and replacing and splitting at all occurrences
that do not overlap, from the left.
-/

namespace FormScaffold.Text

/-- What follows a pattern at the start of a text. -/
def afterPrefix? : List Char → List Char → Option (List Char)
  | [], cs => some cs
  | _ :: _, [] => none
  | p :: ps, c :: cs => if p == c then afterPrefix? ps cs else none

/-- The parts before and after the first occurrence of a pattern. -/
def cut? (pattern : List Char) : List Char → Option (List Char × List Char)
  | [] => if pattern.isEmpty then some ([], []) else none
  | c :: cs =>
      match afterPrefix? pattern (c :: cs) with
      | some rest => some ([], rest)
      | none => (cut? pattern cs).map fun p => (c :: p.1, p.2)

/-- The pattern occurs in the text. -/
def occurs (pattern text : List Char) : Bool := (cut? pattern text).isSome

/-- The parts of a text between occurrences of a pattern, for a bound on their number. -/
def splitUpTo : Nat → List Char → List Char → List (List Char)
  | 0, _, text => [text]
  | n + 1, pattern, text =>
      match cut? pattern text with
      | some (before, rest) => before :: splitUpTo n pattern rest
      | none => [text]

/-- The parts of a text between occurrences of a pattern.  The empty pattern occurs
before each character and at the end. -/
def splitAt (pattern text : List Char) : List (List Char) :=
  if pattern.isEmpty then [] :: (text.map fun c => [c]) ++ [[]]
  else splitUpTo text.length pattern text

/-- Replace all occurrences of a pattern. -/
def replaceAll (pattern replacement text : List Char) : List Char :=
  List.intercalate replacement (splitAt pattern text)

/-- `replaceAll` on strings. -/
def replaced (pattern replacement text : String) : String :=
  String.ofList (replaceAll pattern.toList replacement.toList text.toList)

end FormScaffold.Text
