import FormScaffold.Text.CaseTable

/-!
# Case conversion

Default full case conversion of Unicode text.  A character may expand into
several; the only rule that looks at the context is the one for the capital
sigma, which becomes the final form at the end of a word.
-/

namespace FormScaffold.Text

/-- Property `Uppercase`. -/
def isUppercase (c : Char) : Bool := CodeRun.anyCovers uppercaseRuns c.toNat

/-- Property `Cased`. -/
def isCased (c : Char) : Bool := CodeRun.anyCovers casedRuns c.toNat

/-- Property `Case_Ignorable`. -/
def isCaseIgnorable (c : Char) : Bool := CodeRun.anyCovers caseIgnorableRuns c.toNat

/-- Image of a character under a case table: an expansion, else a run, else itself. -/
def caseImage (expansions : List (Nat × List Nat)) (runs : List CaseRun) (c : Char) : List Char :=
  match CaseRun.image? runs c.toNat with
  | some n => [Char.ofNat n]
  | none =>
      match expansions.lookup c.toNat with
      | some ns => ns.map Char.ofNat
      | none => [c]

/-- Upper-case form of one character. -/
def upperChars (c : Char) : List Char := caseImage upperExpansions upperRuns c

/-- Lower-case form of one character, without context. -/
def lowerChars (c : Char) : List Char := caseImage lowerExpansions lowerRuns c

/-- Skipping what is case-ignorable, the text goes on with a cased character. -/
def meetsCased (cs : List Char) : Bool :=
  match cs.dropWhile isCaseIgnorable with
  | [] => false
  | c :: _ => isCased c

/-- Lower-case form of a capital sigma between a reversed `before` and an `after`. -/
def lowerSigma (before after : List Char) : Char :=
  if meetsCased before && !meetsCased after then 'ς' else 'σ'

/-- Lower-case a text whose preceding characters, reversed, are `before`. -/
def lowerFrom (before : List Char) : List Char → List Char
  | [] => []
  | c :: rest =>
      (if c == 'Σ' then [lowerSigma before rest] else lowerChars c) ++ lowerFrom (c :: before) rest

/-- Lower-case a whole text. -/
def lower (cs : List Char) : List Char := lowerFrom [] cs

/-- Upper-case a whole text. -/
def upper (cs : List Char) : List Char := cs.flatMap upperChars

/-- Lower-case a string. -/
def lowercase (s : String) : String := String.ofList (lower s.toList)

/-- First character upper-cased, the rest lower-cased on its own. -/
def capitalize : List Char → List Char
  | [] => []
  | c :: rest => upperChars c ++ lower rest

/-- First character lower-cased, the rest kept. -/
def uncapitalize : List Char → List Char
  | [] => []
  | c :: rest => lowerChars c ++ rest

end FormScaffold.Text
