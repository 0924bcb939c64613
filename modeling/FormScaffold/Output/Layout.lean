import FormScaffold.Artifact.Kind
import FormScaffold.Failure
import FormScaffold.Path.Basic

/-!
# Layout of a project folder

A layout names for kinds of artifacts the folder, below the project's own, that files
of the kind are placed in.  The empty folder is the project's own.
-/

namespace FormScaffold.Output

/-- Folders of kinds, in the order of the kinds, at most one for each. -/
structure Layout where
  folders : List (ArtifactKind × String)
  deriving DecidableEq, Repr

namespace Layout

/-- The folders of the standard layout. -/
def standardFolders : List (ArtifactKind × String) :=
  [(.entity, "Backend/Models/Entities"),
   (.repositoryInterface, "Backend/Repositories/Interfaces"),
   (.repository, "Backend/Repositories"),
   (.controller, "Backend/Controllers"),
   (.dto, "Backend/Models/DTOs"),
   (.mappingProfile, "Backend/Mappings"),
   (.validator, "Backend/Validation"),
   (.unitTest, "Tests/Unit"),
   (.sqlTable, "Database/Tables"),
   (.storedProcedure, "Database/StoredProcedures"),
   (.uiComponent, "Frontend/src/components"),
   (.uiTypes, "Frontend/src/types"),
   (.uiValidation, "Frontend/src/validation"),
   (.projectFile, ""),
   (.dockerfile, "Deployment"),
   (.ciPipeline, ".github/workflows"),
   (.appSettings, "Backend")]

/-- The layout without folders. -/
def empty : Layout := ⟨[]⟩

/-- The folder of a kind. -/
def folderFor? (l : Layout) (kind : ArtifactKind) : Option String := l.folders.lookup kind

/-- Give a kind a folder; the order of the kinds is kept. -/
def insert (l : Layout) (kind : ArtifactKind) (folder : String) : Layout :=
  ⟨ArtifactKind.all.filterMap fun k =>
    if k == kind then some (k, folder) else (l.folderFor? k).map fun f => (k, f)⟩

/-- Give folders to several kinds in turn. -/
def insertAll (l : Layout) (overrides : List (ArtifactKind × String)) : Layout :=
  overrides.foldl (fun l p => l.insert p.1 p.2) l

/-- The standard layout. -/
def standard : Layout := empty.insertAll standardFolders

/-- The kinds without a folder. -/
def unmapped (l : Layout) : List ArtifactKind :=
  ArtifactKind.all.filter fun k => (l.folderFor? k).isNone

/-- Accept a layout whose folders cannot lead out of the project folder. -/
def validatePaths (l : Layout) : Except Failure Unit :=
  match l.folders.find? fun p => !Path.isConfined p.2 with
  | some (kind, folder) =>
      .error (.organize ("Folder for " ++ kind.tag ++ " must be relative to the project root: "
        ++ folder))
  | none => .ok ()

/-- Accept a layout that is safe and has a folder for every kind. -/
def validate (l : Layout) : Except Failure Unit :=
  match l.validatePaths with
  | .error f => .error f
  | .ok () =>
      if l.unmapped.isEmpty then .ok ()
      else
        .error (.organize ("No folder mapped for artifact types: "
          ++ String.intercalate ", " (l.unmapped.map ArtifactKind.tag)))

end Layout

end FormScaffold.Output
