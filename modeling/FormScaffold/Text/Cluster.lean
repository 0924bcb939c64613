import FormScaffold.Text.Blank
import FormScaffold.Text.ClusterTable

/-!
# User-perceived characters

A text falls into clusters: a character with the marks, joiners and modifiers that
attach to it, a syllable of conjoining letters, a pair of regional indicators, or a
line end of two characters.
-/

namespace FormScaffold.Text

/-- How a character takes part in clusters. -/
inductive ClusterClass where
  | carriageReturn
  | lineFeed
  | control
  | extend
  | joiner
  | regional
  | prepend
  | spacing
  | leadLetter
  | vowelLetter
  | tailLetter
  | openSyllable
  | closedSyllable
  | pictograph
  | other
  deriving DecidableEq

/-- Format characters that stand alone. -/
def formatRuns : List CodeRun :=
  [⟨0xAD, 0xAD, 1⟩, ⟨0x61C, 0x61C, 1⟩, ⟨0x180E, 0x180E, 1⟩, ⟨0x200B, 0x200B, 1⟩,
   ⟨0x200E, 0x200F, 1⟩, ⟨0x2028, 0x202E, 1⟩, ⟨0x2060, 0x206F, 1⟩, ⟨0xFEFF, 0xFEFF, 1⟩,
   ⟨0xFFF0, 0xFFFB, 1⟩, ⟨0x13430, 0x1343F, 1⟩, ⟨0x1BCA0, 0x1BCA3, 1⟩, ⟨0x1D173, 0x1D17A, 1⟩,
   ⟨0xE0000, 0xE001F, 1⟩, ⟨0xE0080, 0xE00FF, 1⟩, ⟨0xE01F0, 0xE0FFF, 1⟩]

/-- Characters that attach to the one after them. -/
def prependRuns : List CodeRun :=
  [⟨0x600, 0x605, 1⟩, ⟨0x6DD, 0x6DD, 1⟩, ⟨0x70F, 0x70F, 1⟩, ⟨0x890, 0x891, 1⟩,
   ⟨0x8E2, 0x8E2, 1⟩, ⟨0xD4E, 0xD4E, 1⟩, ⟨0x110BD, 0x110BD, 1⟩, ⟨0x110CD, 0x110CD, 1⟩,
   ⟨0x111C2, 0x111C3, 1⟩, ⟨0x1193F, 0x1193F, 1⟩, ⟨0x11941, 0x11941, 1⟩, ⟨0x11A3A, 0x11A3A, 1⟩,
   ⟨0x11A84, 0x11A89, 1⟩, ⟨0x11D46, 0x11D46, 1⟩, ⟨0x11F02, 0x11F02, 1⟩]

/-- The code point lies between two others. -/
def codeBetween (low high n : Nat) : Bool := decide (low ≤ n) && decide (n ≤ high)

/-- The class of a character. -/
def clusterClass (c : Char) : ClusterClass :=
  let n := c.toNat
  if n == 0xD then .carriageReturn
  else if n == 0xA then .lineFeed
  else if n == 0x200D then .joiner
  else if isControl c || CodeRun.anyCovers formatRuns n then .control
  else if CodeRun.anyCovers extendRuns n || codeBetween 0x1F3FB 0x1F3FF n then .extend
  else if codeBetween 0x1F1E6 0x1F1FF n then .regional
  else if CodeRun.anyCovers prependRuns n then .prepend
  else if n == 0xE33 || n == 0xEB3 || CodeRun.anyCovers spacingMarkRuns n then .spacing
  else if codeBetween 0x1100 0x115F n || codeBetween 0xA960 0xA97C n then .leadLetter
  else if codeBetween 0x1160 0x11A7 n || codeBetween 0xD7B0 0xD7C6 n then .vowelLetter
  else if codeBetween 0x11A8 0x11FF n || codeBetween 0xD7CB 0xD7FB n then .tailLetter
  else if codeBetween 0xAC00 0xD7A3 n then
    if (n - 0xAC00) % 28 == 0 then .openSyllable else .closedSyllable
  else if CodeRun.anyCovers pictographRuns n then .pictograph
  else .other

/-- What the clusters so far tell about the next boundary: whether an odd number of
regional indicators came last, and whether a pictograph with its marks did. -/
structure ClusterState where
  last : ClusterClass
  oddRegional : Bool
  afterPictograph : Bool
  afterPictographJoiner : Bool

namespace ClusterState

/-- The state after the first character of a text or cluster. -/
def start (k : ClusterClass) : ClusterState := ⟨k, k == .regional, k == .pictograph, false⟩

/-- The state after one more character. -/
def next (s : ClusterState) (k : ClusterClass) : ClusterState :=
  ⟨k, k == .regional && !s.oddRegional, k == .pictograph || (k == .extend && s.afterPictograph),
    k == .joiner && s.afterPictograph⟩

/-- No boundary before a character of the given class. -/
def joins (s : ClusterState) (k : ClusterClass) : Bool :=
  match s.last, k with
  | .carriageReturn, .lineFeed => true
  | .carriageReturn, _ | .lineFeed, _ | .control, _ => false
  | _, .carriageReturn | _, .lineFeed | _, .control => false
  | .leadLetter, .leadLetter | .leadLetter, .vowelLetter => true
  | .leadLetter, .openSyllable | .leadLetter, .closedSyllable => true
  | .openSyllable, .vowelLetter | .vowelLetter, .vowelLetter => true
  | .openSyllable, .tailLetter | .vowelLetter, .tailLetter => true
  | .closedSyllable, .tailLetter | .tailLetter, .tailLetter => true
  | _, .extend | _, .joiner | _, .spacing => true
  | .prepend, _ => true
  | .joiner, .pictograph => s.afterPictographJoiner
  | .regional, .regional => s.oddRegional
  | _, _ => false

end ClusterState

/-- The clusters of a text after a current one, which is given in reverse. -/
def clustersFrom (s : ClusterState) (current : List Char) : List Char → List (List Char)
  | [] => [current.reverse]
  | c :: cs =>
      let k := clusterClass c
      if s.joins k then clustersFrom (s.next k) (c :: current) cs
      else current.reverse :: clustersFrom (if k == .regional then .start k else s.next k) [c] cs

/-- The clusters of a text. -/
def clusters : List Char → List (List Char)
  | [] => []
  | c :: cs => clustersFrom (.start (clusterClass c)) [c] cs

end FormScaffold.Text
