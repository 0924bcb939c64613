import FormScaffold.Text.Search

/-!
# Reports

What a call prints, and how it ends.  A call that fails prints a last message and what
caused it, outermost first.
-/

namespace FormScaffold.Text

/-!
## Padding

Texts filled up with blanks to a width in characters.
-/

/-- A text followed by blanks up to a width; a longer text stays as it is. -/
def padRight (width : Nat) (s : String) : String :=
  s ++ String.ofList (List.replicate (width - s.length) ' ')

end FormScaffold.Text

namespace FormScaffold.CommandLine

/-! ## Reports -/

/-- The lines that a call prints, and the message and causes of its failure. -/
structure Report where
  lines : List String
  failure : Option (String × List String)
  deriving DecidableEq, Repr

namespace Report

/-- A call that went well. -/
def success (lines : List String) : Report := ⟨lines, none⟩

/-- A call that failed without having printed anything. -/
def failed (message : String) (causes : List String) : Report := ⟨[], some (message, causes)⟩

/-- What the program's caller is told: nought for a call that went well. -/
def exitCode (r : Report) : UInt32 := if r.failure.isSome then 1 else 0

/-- What precedes the causes of a failure. -/
def causesHeading : String := "Caused by:"

/-- A number in a column of five. -/
def numberColumn (n : Nat) : String :=
  let digits := toString n
  String.ofList (List.replicate (5 - digits.length) ' ') ++ digits

/-- A cause, its further lines indented. -/
def causeText (number : Option Nat) (cause : String) : String :=
  match number with
  | some n => numberColumn n ++ ": " ++ Text.replaced "\n" "\n       " cause
  | none => "    " ++ Text.replaced "\n" "\n    " cause

/-- The causes of a failure; several are numbered. -/
def causeTexts (causes : List String) : List String :=
  match causes with
  | [cause] => [causeText none cause]
  | causes => causes.mapIdx fun i cause => causeText (some i) cause

/-- The text of a failure. -/
def failureText (message : String) (causes : List String) : String :=
  "Error: " ++ message
    ++ (if causes.isEmpty then ""
        else "\n\n" ++ String.intercalate "\n" (causesHeading :: causeTexts causes))

/-- What a call prints as its result, each line ended. -/
def outputText (r : Report) : String := String.join (r.lines.map (· ++ "\n"))

/-- What a call prints about its failure. -/
def errorText? (r : Report) : Option String := r.failure.map fun f => failureText f.1 f.2

end Report

end FormScaffold.CommandLine
