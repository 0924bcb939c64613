import FormScaffold.Calendar.Timestamp
import FormScaffold.Text.Blank

/-!
# Names of folders and archives

A project name becomes the name of one folder: characters that no file name may hold
are replaced, and dots and blanks at the ends are dropped.  The archive of a folder
carries the folder's name and the second in which it was made.
-/

namespace FormScaffold.Output

open FormScaffold.Text

/-- Separators and the punctuation that file systems keep for themselves. -/
def reservedCharacters : List Char := ['/', '\\', ':', '*', '?', '"', '<', '>', '|']

/-- The character may not occur in a file name. -/
def isReserved (c : Char) : Bool := reservedCharacters.contains c || isControl c

/-- A character as it may stand in a file name. -/
def allowed (c : Char) : Char := if isReserved c then '_' else c

/-- Dropped at the ends of a folder name. -/
def isFolderEdge (c : Char) : Bool := c == '.' || isBlank c

/-- The folder name when nothing is left of the project name. -/
def fallbackFolderName : String := "project"

/-- The folder name of a project. -/
def folderName (project : String) : String :=
  let kept := trimBoth isFolderEdge (project.toList.map allowed)
  if kept.isEmpty then fallbackFolderName else String.ofList kept

/-- The file name of the archive made of a folder at an instant. -/
def archiveName (folder : String) (made : Calendar.Instant) : String :=
  folderName folder ++ "_" ++ made.compactText ++ ".zip"

end FormScaffold.Output
