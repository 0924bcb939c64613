import FormScaffold.Artifact.Kind
import FormScaffold.Calendar.Timestamp
import FormScaffold.Json.Value
import FormScaffold.Output.FolderName
import FormScaffold.Output.SizeText
import FormScaffold.Path.Basic

/-!
# Files about a project folder

Besides the artifacts a project folder holds a description of itself and a list of files
that version control leaves out.
-/

namespace FormScaffold.Output

/-!
## Drawings of folders

Paths with slashes between their names form a tree.  Its drawing has a line for each name,
indented by the branches that lead to it, names of one folder in their order.
-/

/-- A tree of names.  A tree without names is a file or an empty folder. -/
inductive FolderTree where
  | node (children : List (String × FolderTree))

namespace FolderTree

/-- The tree without names. -/
def empty : FolderTree := .node []

/-- The names in a tree and what lies below them. -/
def children : FolderTree → List (String × FolderTree)
  | .node cs => cs

/-- Change what lies below a name, in a list in order; a name that is not there is added. -/
def update (name : String) (change : FolderTree → FolderTree) :
    List (String × FolderTree) → List (String × FolderTree)
  | [] => [(name, change empty)]
  | (other, t) :: rest =>
      if other == name then (other, change t) :: rest
      else if name < other then (name, change empty) :: (other, t) :: rest
      else (other, t) :: update name change rest

/-- Add the names of a path. -/
def insert : List String → FolderTree → FolderTree
  | [], t => t
  | name :: rest, t => .node (update name (insert rest) t.children)

/-- The names of a path. -/
def namesOf (path : String) : List String :=
  ((Path.segmentsOf path.toList).filter fun s => !s.isEmpty).map String.ofList

/-- The tree of some paths. -/
def ofPaths (paths : List String) : FolderTree :=
  paths.foldl (fun t path => t.insert (namesOf path)) empty

/-- The branch to a name that others follow. -/
def innerBranch : String := "├── "

/-- The branch to the last name of a folder. -/
def lastBranch : String := "└── "

/-- Indentation below a name that others follow. -/
def innerIndent : String := "│   "

/-- Indentation below the last name of a folder. -/
def lastIndent : String := "    "

mutual

/-- The lines below a tree, each after an indentation. -/
def lines (indent : String) : FolderTree → List String
  | .node cs => childLines indent cs

/-- The lines of names and of what lies below them. -/
def childLines (indent : String) : List (String × FolderTree) → List String
  | [] => []
  | (name, .node below) :: rest =>
      let isLast := rest.isEmpty
      let mark := if below.isEmpty then "" else "/"
      let line := indent ++ (if isLast then lastBranch else innerBranch) ++ name ++ mark
      let deeper := indent ++ (if isLast then lastIndent else innerIndent)
      line :: (childLines deeper below ++ childLines indent rest)

end

/-- The drawing of some paths below a folder. -/
def drawing (root : String) (paths : List String) : String :=
  String.join (((root ++ "/") :: lines "" (ofPaths paths)).map fun line => line ++ "\n")

end FolderTree

/-!
## Organized files

The result of laying artifacts out in a project folder: the folder, and for each artifact
the file that holds it.
-/

/-- One file of a project folder. -/
structure OrganizedFile where
  kind : ArtifactKind
  fullPath : String
  fileName : String
  size : Nat
  deriving DecidableEq, Repr

/-- A project folder and the files of artifacts in it. -/
structure Organized where
  root : String
  files : List OrganizedFile
  deriving DecidableEq, Repr

/-- The data of a file. -/
def OrganizedFile.toJson (f : OrganizedFile) : Json.Value :=
  .object
    [("artifact_type", .string f.kind.tag), ("full_path", .string f.fullPath),
     ("file_name", .string f.fileName), ("size_bytes", .ofNat f.size)]

namespace Organized

/-- Number of files. -/
def fileCount (o : Organized) : Nat := o.files.length

/-- Size of all files together in bytes. -/
def totalSize (o : Organized) : Nat := (o.files.map OrganizedFile.size).foldr Nat.add 0

/-- The data of a project folder. -/
def toJson (o : Organized) : Json.Value :=
  .object [("root", .string o.root), ("files", .array (o.files.map OrganizedFile.toJson))]

end Organized

/-- The path of what lies below a folder, seen from the folder; any other path as it is.
Only components count. -/
def pathBelow (root path : String) : String :=
  let parts := (Path.relativeTo? root path).getD (Path.components path)
  String.intercalate "/" (parts.map Path.Component.text)

/-! ## Files about a project folder -/

open Calendar

/-- The name of the description. -/
def readmeFile : String := "README.md"

/-- The name of the list for version control. -/
def ignoreFile : String := ".gitignore"

/-- What version control leaves out. -/
def ignoreText : String := "# .NET build output
bin/
obj/
*.user
*.suo
.vs/

# Frontend
node_modules/
dist/
build/
coverage/
*.tsbuildinfo

# Environment and secrets
.env
.env.local
appsettings.*.local.json

# Editors and OS
.idea/
.vscode/
*.swp
.DS_Store
Thumbs.db
"

/-- Lines, each with its end. -/
def joinLines (lines : List String) : String := String.join (lines.map fun line => line ++ "\n")

/-- The line for a file. -/
def fileLine (root : String) (f : OrganizedFile) : String :=
  "- `" ++ pathBelow root f.fullPath ++ "` (" ++ sizeText f.size ++ ")"

/-- The section of a category, if it has files. -/
def categorySection (o : Organized) (c : ArtifactCategory) : List String :=
  match o.files.filter fun f => f.kind.category == c with
  | [] => []
  | files => ["## " ++ c.heading, ""] ++ files.map (fileLine o.root) ++ [""]

/-- The description of a project folder made at an instant. -/
def readmeText (project : String) (o : Organized) (now : Instant) : String :=
  let name := (Path.fileName? o.root).getD fallbackFolderName
  let paths := (o.files.map fun f => pathBelow o.root f.fullPath) ++ [readmeFile, ignoreFile]
  joinLines
      ["# " ++ project, "", "Generated by formgen on " ++ now.plainText ++ " UTC.", "",
        "- Files: " ++ toString o.fileCount, "- Total size: " ++ sizeText o.totalSize, "",
        "## Structure", ""]
    ++ "```text\n" ++ FolderTree.drawing name paths ++ "```\n\n"
    ++ joinLines (ArtifactCategory.all.flatMap (categorySection o))

end FormScaffold.Output
