import FormScaffold.Text.Casing
import FormScaffold.Text.Letter

/-!
# Words of an identifier, case styles and entity names

An identifier is cut into words, which make it up again in several styles of case.  The
entity of a project is named by the letters and digits of the project's name.
-/

namespace FormScaffold.Naming

/-!
## Words of an identifier

An identifier is cut into words at `_`, `-` and spaces, and before each upper-case
character.  Cutting before every upper-case character makes pascal case a fixed
point: its output is cut into the words that produced it.
-/

open FormScaffold.Text

/-- Characters that separate words and belong to none. -/
def isSeparator (c : Char) : Bool := c == '_' || c == '-' || c == ' '

/-- Cut a text into words; `current` is the word under way, reversed. -/
def wordsFrom (current : List Char) : List Char → List (List Char)
  | [] => if current.isEmpty then [] else [current.reverse]
  | c :: rest =>
      if isSeparator c then
        if current.isEmpty then wordsFrom [] rest else current.reverse :: wordsFrom [] rest
      else if isUppercase c && !current.isEmpty then
        current.reverse :: wordsFrom [c] rest
      else wordsFrom (c :: current) rest

/-- The words of an identifier. -/
def words (cs : List Char) : List (List Char) := wordsFrom [] cs

/-- The words of an identifier, as strings. -/
def wordList (s : String) : List String := (words s.toList).map String.ofList

/-!
## Case styles

Pascal, camel and snake case of an identifier, each defined from its words.
-/

open FormScaffold.Text

/-- Every word capitalised, joined without separator. -/
def pascal (cs : List Char) : List Char := (words cs).flatMap capitalize

/-- Pascal case with its first character lower-cased. -/
def camel (cs : List Char) : List Char := uncapitalize (pascal cs)

/-- Lower-case each upper-case character and put an underscore before it. -/
def underscored (cs : List Char) : List Char :=
  cs.flatMap fun c => if isUppercase c then '_' :: lowerChars c else [c]

/-- Pascal case with underscores before the upper-case characters after the first. -/
def snake (cs : List Char) : List Char :=
  match pascal cs with
  | [] => []
  | c :: rest => (if isUppercase c then lowerChars c else [c]) ++ underscored rest

/-- Pascal case of a string. -/
def pascalCase (s : String) : String := String.ofList (pascal s.toList)

/-- Camel case of a string. -/
def camelCase (s : String) : String := String.ofList (camel s.toList)

/-- Snake case of a string. -/
def snakeCase (s : String) : String := String.ofList (snake s.toList)

/-- A string with its first character lower-cased. -/
def lowerFirst (s : String) : String := String.ofList (uncapitalize s.toList)

/-!
## Entity names

The entity name of a project keeps the letters and digits of the project name,
upper-cases those that follow anything else, and starts with a letter.
-/

/-- Put before a name that would not start with a letter. -/
def entityMark : List Char := ['E', 'n', 't', 'i', 't', 'y']

/-- Letters and digits of a text, upper-cased at the start of each run. -/
def runsCapitalized (boundary : Bool) : List Char → List Char
  | [] => []
  | c :: rest =>
      if isAlphanumeric c then
        (if boundary then upperChars c else [c]) ++ runsCapitalized false rest
      else runsCapitalized true rest

/-- The entity name of a project. -/
def entityOf (project : List Char) : List Char :=
  let name := runsCapitalized true project
  match name with
  | c :: _ => if isAlphabetic c then name else entityMark ++ name
  | [] => entityMark

/-- The entity name of a project, as a string. -/
def entityName (project : String) : String := String.ofList (entityOf project.toList)

end FormScaffold.Naming
