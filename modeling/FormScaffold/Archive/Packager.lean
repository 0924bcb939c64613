import FormScaffold.Archive.Codec
import FormScaffold.Failure
import FormScaffold.Files.FileSystem
import FormScaffold.Output.FolderName

/-!
# Packing folders

What lies below a folder is packed into an archive, each folder before what it holds and
names of one folder in their order.  Extracting writes the entries below a folder, one
after the other; one whose name leads elsewhere is refused.
-/

namespace FormScaffold.Archive

open Calendar Files

/-- The entry for what lies at a place below a folder. -/
def entryOf (place : Location × Node) : Entry :=
  let name := String.intercalate "/" place.1
  match place.2 with
  | .folder => ⟨name ++ "/", []⟩
  | .file bytes => ⟨name, bytes⟩

/-- The name of the entry for a path below a folder: the components after those of the folder, with
slashes between them.  The folder itself has no entry. -/
def entryName? (source path : String) : Option String :=
  match Path.relativeTo? source path with
  | none | some [] => none
  | some parts => some (String.intercalate "/" (parts.map Path.Component.text))

/-- The entries for all that lies below a folder. -/
def entriesBelow (fs : FileSystem) (source : String) : List Entry :=
  (fs.belowPath source).map entryOf

/-- Accept a folder. -/
def requireFolder (source : String) : Action Failure Unit := do
  let present ← Action.inspect fun fs => fs.isFolder source
  if present then pure ()
  else Action.ofExcept (.error (.archive ("Source folder " ++ source ++ " does not exist")))

/-- Remove a file if it is there. -/
def removePresent (path : String) : Action Failure Unit := do
  let present ← Action.query .io fun fs => fs.isPresent path
  if present then Action.change .io fun fs => fs.removeFile path

/-- Write the bytes of a file. -/
def writeBytes (path : String) (bytes : List UInt8) : Action Failure Unit :=
  Action.change .io fun fs => fs.writeFile path bytes

/-- Make a folder and those that lead to it. -/
def makeFolders (path : String) : Action Failure Unit :=
  Action.attempt .io fun fs => fs.createFolders path

/-! ## Packing -/

/-- Pack a folder into a file of another folder; the result is the path of the file. -/
def create [Codec] (source destination : String) (now : Instant) : Action Failure String := do
  requireFolder source
  makeFolders destination
  let name := Output.archiveName ((Path.fileName? source).getD "") now
  let path := Path.join destination name
  removePresent path
  writeBytes path []
  let entries ← Action.inspect fun fs => entriesBelow fs source
  writeBytes path (Codec.encode entries)
  pure path

/-- The bytes of an archive of a folder. -/
def createBytes [Codec] (source : String) : Action Failure (List UInt8) := do
  requireFolder source
  let entries ← Action.inspect fun fs => entriesBelow fs source
  pure (Codec.encode entries)

/-! ## Extracting -/

/-- What was read of an archive, or the failure to read it. -/
def orUnreadable {α : Type} (r : Except String α) : Action Failure α :=
  Action.ofExcept (r.mapError .zip)

/-- Write the bytes of a content; what damages it shows afterwards. -/
def writeContent (target : String) (content : Content) : Action Failure Unit := do
  writeBytes target content.bytes
  match content.damage with
  | none => pure ()
  | some cause => Action.ofExcept (.error (.io cause))

/-- Write a file, and the folders that lead to it. -/
def extractFile (target : String) (content : Content) : Action Failure Unit := do
  match Path.parent? target with
  | some up => makeFolders up
  | none => pure ()
  writeContent target content

/-- Write one entry below a folder; the result is the path of its file, if it has one. -/
def extractMember (destination : String) (m : Member) : Action Failure (Option String) := do
  let content ← orUnreadable m.content
  if isEnclosed m.name then
    let target := Path.join destination m.name
    if isFolderName m.name then
      makeFolders target
      pure none
    else
      extractFile target content
      pure (some target)
  else
    Action.ofExcept
      (.error (.archive ("Entry '" ++ m.name ++ "' would extract outside the destination")))

/-- Write entries below a folder in turn; the result is the paths of their files. -/
def extractMembers (destination : String) : List Member → Action Failure (List String)
  | [] => pure []
  | m :: rest => do
      let written ← extractMember destination m
      let more ← extractMembers destination rest
      pure (written.toList ++ more)

/-- Extract the bytes of an archive to a folder. -/
def extractBytes [Codec] (bytes : List UInt8) (destination : String) :
    Action Failure (List String) := do
  makeFolders destination
  let members ← orUnreadable (Codec.listing bytes)
  extractMembers destination members

/-- The bytes of an archive's file.  A folder can be opened, but is no archive. -/
def readArchive (path : String) : Action Failure (List UInt8) :=
  fun fs =>
    match fs.readBytes path with
    | .ok bytes => (.ok bytes, fs)
    | .error .isADirectory => (.error (.zip FileError.isADirectory.message), fs)
    | .error e => (.error (.io e), fs)

/-- Extract the archive of a file to a folder. -/
def extract [Codec] (archive destination : String) : Action Failure (List String) := do
  makeFolders destination
  let bytes ← readArchive archive
  let members ← orUnreadable (Codec.listing bytes)
  extractMembers destination members

/-- The names of entries, all of which can be opened. -/
def names : List Member → Except String (List String)
  | [] => .ok []
  | m :: rest => do
      let _ ← m.content
      let more ← names rest
      .ok (m.name :: more)

/-- The names of the entries of an archive in a file. -/
def entryNames [Codec] (archive : String) : Action Failure (List String) := do
  let bytes ← readArchive archive
  let members ← orUnreadable (Codec.listing bytes)
  orUnreadable (names members)

/-- The size of an archive's file in bytes. -/
def fileSize (archive : String) : Action Failure Nat :=
  Action.query .io fun fs => fs.sizeOf archive

end FormScaffold.Archive
