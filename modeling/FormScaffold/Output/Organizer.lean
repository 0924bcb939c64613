import FormScaffold.Artifact.Basic
import FormScaffold.Files.FileSystem
import FormScaffold.Output.Layout
import FormScaffold.Output.Readme

/-!
# Laying out project folders

An organizer writes artifacts below the folder of their project, each in the folder that
the layout names for its kind.  What an earlier run has left in the project's folder is
removed first.  Protected folders lie neither above nor below a project's folder.
-/

namespace FormScaffold.Output

open Calendar Files

/-- Where projects go, how their folders are laid out, and what no project may touch. -/
structure Organizer where
  outputRoot : String
  layout : Layout
  protectedDirs : List String
  layout_safe : layout.validatePaths = .ok ()

namespace Organizer

/-- An organizer with a layout whose folders stay inside a project. -/
def create (outputRoot : String) (layout : Layout) : Except Failure Organizer :=
  match safe : layout.validatePaths with
  | .ok () => .ok ⟨outputRoot, layout, [], safe⟩
  | .error f => .error f

/-- Protect a folder. -/
def protect (o : Organizer) (dir : String) : Organizer :=
  { o with protectedDirs := o.protectedDirs ++ [dir] }

/-- The folder of a project. -/
def rootOf (o : Organizer) (project : String) : String :=
  Path.join o.outputRoot (folderName project)

/-- The components of a path from the root on; the empty path has none. -/
def absoluteComponents (working : Location) (path : String) : List Path.Component :=
  if path == "" then []
  else Path.absolute (.root :: working.map Path.Component.name) path

/-- One of two folders lies in the other, as far as their texts tell. -/
def overlaps (working : Location) (a b : String) : Bool :=
  let a := absoluteComponents working a
  let b := absoluteComponents working b
  Path.startsWith a b || Path.startsWith b a

/-- Where an artifact goes below the folder of its project; one whose kind has no folder
goes nowhere. -/
def targetOf (o : Organizer) (root : String) (a : Artifact) : Except Failure (Option String) :=
  if Path.isConfined a.filePath then
    .ok ((o.layout.folderFor? a.kind).map fun folder => Path.join (Path.join root folder) a.filePath)
  else
    .error (.organize ("File path of " ++ a.kind.tag
      ++ " artifact must stay inside the project folder: " ++ a.filePath))

/-- The artifacts that go somewhere, and where they go. -/
def targets (o : Organizer) (root : String) :
    List Artifact → Except Failure (List (Artifact × String))
  | [] => .ok []
  | a :: rest =>
      match o.targetOf root a with
      | .error f => .error f
      | .ok target =>
          match targets o root rest with
          | .error f => .error f
          | .ok more => .ok ((target.map fun path => (a, path)).toList ++ more)

/-- The folder of a project and the places of its artifacts. -/
def plan (o : Organizer) (working : Location) (artifacts : List Artifact) (project : String) :
    Except Failure (String × List (Artifact × String)) :=
  let root := o.rootOf project
  match o.protectedDirs.find? (overlaps working root) with
  | some dir =>
      .error (.organize ("Output folder " ++ root ++ " overlaps the protected directory " ++ dir))
  | none =>
      match o.targets root artifacts with
      | .ok targets => .ok (root, targets)
      | .error f => .error f

/-- Add a folder to folders in order; of folders with equal components the first stays. -/
def addFolder (dir : String) : List String → List String
  | [] => [dir]
  | other :: rest =>
      if Path.components dir == Path.components other then other :: rest
      else if Path.componentsBefore (Path.components dir) (Path.components other) then
        dir :: other :: rest
      else other :: addFolder dir rest

/-- The folders that hold a project's files, in order. -/
def foldersFor (root : String) (targets : List (Artifact × String)) : List String :=
  (root :: targets.filterMap fun t => Path.parent? t.2).foldl (fun dirs d => addFolder d dirs) []

/-- Reword a failure of the file system. -/
def reworded (step path : String) (e : FileError) : Failure :=
  .organize ("Failed to " ++ step ++ " " ++ path ++ ": " ++ e.message)

/-- Remove what an earlier run has left in a folder. -/
def clear (root : String) : Action Failure Unit := do
  let present ← Action.query .io fun fs => fs.isPresent root
  if present then Action.change (reworded "clear" root) fun fs => fs.removeFolder root

/-- Make folders in turn. -/
def createFolders : List String → Action Failure Unit
  | [] => pure ()
  | dir :: rest => do
      Action.attempt (reworded "create directory" dir) fun fs => fs.createFolders dir
      createFolders rest

/-- Write artifacts to their places in turn. -/
def writeFiles : List (Artifact × String) → Action Failure (List OrganizedFile)
  | [] => pure []
  | (a, path) :: rest => do
      Action.change (reworded "write" path) fun fs => fs.writeFile path (Text.utf8Bytes a.content)
      let more ← writeFiles rest
      pure (⟨a.kind, path, a.filePath, a.size⟩ :: more)

/-- Write a file about a project folder. -/
def writeAbout (root name text : String) : Action Failure Unit :=
  Action.change .io fun fs => fs.writeFile (Path.join root name) (Text.utf8Bytes text)

/-- Lay out the artifacts of a project. -/
def organize (o : Organizer) (artifacts : List Artifact) (project : String) (now : Instant) :
    Action Failure Organized := do
  let working ← Action.inspect FileSystem.working
  let (root, targets) ← Action.ofExcept (o.plan working artifacts project)
  clear root
  createFolders (foldersFor root targets)
  let files ← writeFiles targets
  let organized : Organized := ⟨root, files⟩
  writeAbout root readmeFile (readmeText project organized now)
  writeAbout root ignoreFile ignoreText
  pure organized

end Organizer

end FormScaffold.Output
