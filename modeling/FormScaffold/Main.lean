import FormScaffold.CommandLine.Help
import FormScaffold.CommandLine.Run
import FormScaffold.Files.FileSystem
import Std.Time.DateTime.Timestamp

/-!
# The program

Reads the parts of the disk that a call looks at, runs the call on them, and makes the
changes that the call made.
-/

namespace FormScaffold.Program

open Files CommandLine

/-- The path of a location on the disk. -/
def diskPath (l : Location) : String := "/" ++ String.intercalate "/" l

/-- What the disk holds at a location. -/
def look (l : Location) : IO (Option Node) := do
  try
    let path ← IO.FS.realPath (diskPath l)
    if ← path.isDir then return some .folder
    else if ← path.pathExists then return some (.file (← IO.FS.readBinFile path).toList)
    else return none
  catch _ => return none

/-- Take over what the disk holds along a path; the result is the location it ends at. -/
def takeAlong (fs : FileSystem) (l : Location) :
    List String → IO (FileSystem × Option Location)
  | [] => return (fs, some l)
  | s :: rest =>
      if s == "." then takeAlong fs l rest
      else if s == ".." then takeAlong fs l.dropLast rest
      else do
        match ← look (l ++ [s]) with
        | some n => takeAlong (fs.put (l ++ [s]) n) (l ++ [s]) rest
        | none => return (fs, none)

/-- Take over all that the disk holds below a location. -/
partial def takeBelow (fs : FileSystem) (l : Location) : IO FileSystem := do
  if fs.node? l != some .folder then return fs
  let entries ← (← IO.FS.realPath (diskPath l)).readDir
  entries.foldlM (fun fs entry => do
    match ← look (l ++ [entry.fileName]) with
    | some n => takeBelow (fs.put (l ++ [entry.fileName]) n) (l ++ [entry.fileName])
    | none => return fs) fs

/-- Take over a part of the disk. -/
def take (fs : FileSystem) (need : Need) : IO FileSystem := do
  let (path, whole) :=
    match need with
    | .single path => (path, false)
    | .whole path => (path, true)
  let start := if Path.isAbsolute path then [] else fs.working
  let segments := ((Path.segmentsOf path.toList).map String.ofList).filter (· != "")
  match ← takeAlong fs start segments with
  | (fs, some l) => if whole then takeBelow fs l else return fs
  | (fs, none) => return fs

/-- Make a change on the disk. -/
def make : Change → IO Unit
  | .removeFolder l => IO.FS.removeDir (diskPath l)
  | .removeFile l => IO.FS.removeFile (diskPath l)
  | .makeFolder l => IO.FS.createDir (diskPath l)
  | .writeFile l bytes => IO.FS.writeBinFile (diskPath l) (ByteArray.mk bytes.toArray)

/-- An identifier drawn at random. -/
def drawId : IO Uuid := do
  return Uuid.ofRandom (← IO.getRandomBytes 16).toList

/-- What the clock shows. -/
def readClock : IO Calendar.Instant := do
  let nanos := (← Std.Time.Timestamp.now).toNanosecondsSinceUnixEpoch.val
  return ⟨nanos / 1000000000, (nanos % 1000000000).toNat⟩

/-- The variables that a call looks at. -/
def readVariables : IO (List (String × String)) := do
  let names := ["HOME", "XDG_CONFIG_HOME", Config.templatesVariable]
  names.filterMapM fun name => do return (← IO.getEnv name).map fun value => (name, value)

/-- The workspace before anything is known of the files. -/
def startingSpace : IO Workspace := do
  let segments := (Path.segmentsOf (← IO.currentDir).toString.toList).map String.ofList
  let working := segments.filter (· != "")
  let (files, _) ← takeAlong ⟨[], working⟩ [] working
  return ⟨files, Template.Engine.empty, ← readClock, ← readVariables, ← drawId⟩

/-- Take over the parts of the disk that a call looks at. -/
def takeNeeds (call : Call) (space : Workspace) : IO Workspace := do
  return { space with files := ← (needs call space).foldlM take space.files }

/-- Run a call. -/
def runCall (call : Call) : IO UInt32 := do
  let known ← takeNeeds call (← startingSpace)
  let known ← takeNeeds call known
  let known ← takeNeeds call known
  let (report, after) := (run call (← drawId) (← drawId)).run known
  (known.files.changesTo after.files).forM make
  IO.print report.outputText
  match report.errorText? with
  | some text => IO.eprintln text
  | none => pure ()
  return report.exitCode

/-- Answer arguments that make no call. -/
def stop : Stop → IO UInt32
  | .help page => do
      page.lines.forM fun line => IO.println line
      return 0
  | .version => do
      IO.println versionLine
      return 0
  | .refused c fault => do
      (refusalLines c fault).forM fun line => IO.eprintln line
      return 2

end FormScaffold.Program

/-- The program: it leaves nought if all went well, one if a call failed, and two if the
arguments make no call. -/
def main (args : List String) : IO UInt32 :=
  match FormScaffold.CommandLine.Call.ofArguments args with
  | .ok call => FormScaffold.Program.runCall call
  | .error reason => FormScaffold.Program.stop reason
