import FormScaffold.Path.Basic
import FormScaffold.Text.Utf8

/-!
# File systems

A file system without links: which absolute paths hold a folder or a file.  Paths are
resolved component by component, every component but the last naming a folder; `..`
steps back to the folder above.  An operation gives the new file system or the cause
of its failure.
-/

namespace FormScaffold.Files

/-!
## Failures of the file system

Why an operation on files fails, and how the cause is worded.
-/

/-- Why an operation on files fails. -/
inductive FileError where
  | notFound
  | alreadyExists
  | notADirectory
  | isADirectory
  | directoryNotEmpty
  | nameTooLong
  | nulInName
  | notUtf8
  | emptyPath
  | other (text : String)
  deriving DecidableEq, Repr

namespace FileError

/-- The wording of a failure. -/
def message : FileError → String
  | notFound => "No such file or directory (os error 2)"
  | alreadyExists => "File exists (os error 17)"
  | notADirectory => "Not a directory (os error 20)"
  | isADirectory => "Is a directory (os error 21)"
  | directoryNotEmpty => "Directory not empty (os error 39)"
  | nameTooLong => "File name too long (os error 36)"
  | nulInName => "file name contained an unexpected NUL byte"
  | notUtf8 => "stream did not contain valid UTF-8"
  | emptyPath => "cannot make an empty path absolute"
  | other text => text

end FileError

/-! ## File systems -/

open FormScaffold.Path

/-- What a path holds. -/
inductive Node where
  | folder
  | file (bytes : List UInt8)
  deriving DecidableEq, Repr

/-- Names from the root down. -/
abbrev Location := List String

/-- Order of locations: a folder before what it holds, names in their order. -/
def locationBefore : Location → Location → Bool
  | [], [] => false
  | [], _ :: _ => true
  | _ :: _, [] => false
  | a :: as, b :: bs => decide (a < b) || (a == b && locationBefore as bs)

/-- Folders and files by location, in order, and the folder that relative paths
start from.  The root is a folder without being listed. -/
structure FileSystem where
  nodes : List (Location × Node)
  working : Location
  deriving DecidableEq, Repr

/-- Where a path leads. -/
inductive Place where
  | held (location : Location) (node : Node)
  | free (location : Location) (slash : Bool)
  deriving DecidableEq, Repr

namespace FileSystem

/-- The file system with an empty root. -/
def empty : FileSystem := ⟨[], []⟩

/-- What a location holds. -/
def node? (fs : FileSystem) (l : Location) : Option Node :=
  match l with
  | [] => some .folder
  | l => fs.nodes.lookup l

/-- Set what a location holds, in a list in order. -/
def insertNode (l : Location) (n : Node) : List (Location × Node) → List (Location × Node)
  | [] => [(l, n)]
  | (k, m) :: rest =>
      if k == l then (l, n) :: rest
      else if locationBefore l k then (l, n) :: (k, m) :: rest
      else (k, m) :: insertNode l n rest

/-- Set what a location holds. -/
def put (fs : FileSystem) (l : Location) (n : Node) : FileSystem :=
  { fs with nodes := insertNode l n fs.nodes }

/-- Remove a location and all below it. -/
def removeTree (fs : FileSystem) (l : Location) : FileSystem :=
  { fs with nodes := fs.nodes.filter fun p => !l.isPrefixOf p.1 }

/-- What lies below a location, by location relative to it. -/
def below (fs : FileSystem) (l : Location) : List (Location × Node) :=
  fs.nodes.filterMap fun p =>
    if l.isPrefixOf p.1 && l.length < p.1.length then some (p.1.drop l.length, p.2) else none

/-- Longest name of one component in bytes. -/
def nameLimit : Nat := 255

/-- Length in bytes that a path stays below. -/
def pathLimit : Nat := 4096

/-- Step through the segments of a path; the last one may be free. -/
def walk (fs : FileSystem) (slash : Bool) (l : Location) (n : Node) :
    List String → Except FileError Place
  | [] => if slash && n != .folder then .error .notADirectory else .ok (.held l n)
  | s :: rest =>
      if n != .folder then .error .notADirectory
      else if s == "." then walk fs slash l n rest
      else if s == ".." then walk fs slash l.dropLast .folder rest
      else if nameLimit < s.utf8ByteSize then .error .nameTooLong
      else
        match fs.node? (l ++ [s]) with
        | some m => walk fs slash (l ++ [s]) m rest
        | none => if rest.isEmpty then .ok (.free (l ++ [s]) slash) else .error .notFound

/-- Where a path leads. -/
def resolve (fs : FileSystem) (path : String) : Except FileError Place :=
  if path.toList.contains (Char.ofNat 0) then .error .nulInName
  else if path == "" then .error .notFound
  else if pathLimit ≤ path.utf8ByteSize then .error .nameTooLong
  else
    let segments := ((segmentsOf path.toList).filter fun s => !s.isEmpty).map String.ofList
    let start := if isAbsolute path then [] else fs.working
    fs.walk (path.toList.getLast? == some '/') start .folder segments

/-- What a path holds. -/
def stat (fs : FileSystem) (path : String) : Except FileError Node :=
  match fs.resolve path with
  | .ok (.held _ n) => .ok n
  | .ok (.free _ _) => .error .notFound
  | .error e => .error e

/-- The path holds a file. -/
def isFile (fs : FileSystem) (path : String) : Bool :=
  match fs.stat path with
  | .ok (.file _) => true
  | _ => false

/-- The path holds a folder. -/
def isFolder (fs : FileSystem) (path : String) : Bool :=
  match fs.stat path with
  | .ok .folder => true
  | _ => false

/-- The path holds something; a failure other than its absence is passed on. -/
def isPresent (fs : FileSystem) (path : String) : Except FileError Bool :=
  match fs.stat path with
  | .ok _ => .ok true
  | .error .notFound => .ok false
  | .error e => .error e

/-- The bytes of a file. -/
def readBytes (fs : FileSystem) (path : String) : Except FileError (List UInt8) :=
  match fs.stat path with
  | .ok (.file bytes) => .ok bytes
  | .ok .folder => .error .isADirectory
  | .error e => .error e

/-- The text of a file. -/
def readText (fs : FileSystem) (path : String) : Except FileError String :=
  match fs.readBytes path with
  | .error e => .error e
  | .ok bytes =>
      match Text.ofUtf8? bytes with
      | some s => .ok s
      | none => .error .notUtf8

/-- What lies below the folder that a path leads to, by location relative to it. -/
def belowPath (fs : FileSystem) (path : String) : List (Location × Node) :=
  match fs.resolve path with
  | .ok (.held l _) => fs.below l
  | _ => []

/-- Write a file, replacing one that is there. -/
def writeFile (fs : FileSystem) (path : String) (bytes : List UInt8) :
    Except FileError FileSystem :=
  match fs.resolve path with
  | .ok (.held _ .folder) => .error .isADirectory
  | .ok (.held l (.file _)) => .ok (fs.put l (.file bytes))
  | .ok (.free _ true) => .error .isADirectory
  | .ok (.free l false) => .ok (fs.put l (.file bytes))
  | .error e => .error e

/-- Make a folder. -/
def createFolder (fs : FileSystem) (path : String) : Except FileError FileSystem :=
  match fs.resolve path with
  | .ok (.held _ _) => .error .alreadyExists
  | .ok (.free l _) => .ok (fs.put l .folder)
  | .error e => .error e

/-- Make the folders at the given paths in turn unless they are there.  On failure
the folders made so far stay. -/
def createSteps (fs : FileSystem) : List String → FileSystem × Except FileError Unit
  | [] => (fs, .ok ())
  | step :: rest =>
      match fs.stat step with
      | .ok .folder => createSteps fs rest
      | .ok (.file _) => (fs, .error (if rest.isEmpty then .alreadyExists else .notADirectory))
      | .error _ =>
          match fs.createFolder step with
          | .ok fs => createSteps fs rest
          | .error e => (fs, .error e)

/-- Make a folder and all folders that lead to it. -/
def createFolders (fs : FileSystem) (path : String) : FileSystem × Except FileError Unit :=
  if path.toList.contains (Char.ofNat 0) then (fs, .error .nulInName)
  else if pathLimit ≤ path.utf8ByteSize then (fs, .error .nameTooLong)
  else fs.createSteps (stepsTo path)

/-- Remove a folder with all below it. -/
def removeFolder (fs : FileSystem) (path : String) : Except FileError FileSystem :=
  match fs.resolve path with
  | .ok (.held l .folder) => .ok (fs.removeTree l)
  | .ok (.held _ (.file _)) => .error .notADirectory
  | .ok (.free _ _) => .error .notFound
  | .error e => .error e

/-- Remove a file. -/
def removeFile (fs : FileSystem) (path : String) : Except FileError FileSystem :=
  match fs.resolve path with
  | .ok (.held l (.file _)) => .ok (fs.removeTree l)
  | .ok (.held _ .folder) => .error .isADirectory
  | .ok (.free _ _) => .error .notFound
  | .error e => .error e

/-- The size that a folder shows. -/
def folderSize : Nat := 4096

/-- The size in bytes of what a path holds. -/
def sizeOf (fs : FileSystem) (path : String) : Except FileError Nat :=
  match fs.stat path with
  | .ok (.file bytes) => .ok bytes.length
  | .ok .folder => .ok folderSize
  | .error e => .error e

end FileSystem

/-!
## Actions on a file system

A sequence of operations on a file system.  When one of them fails, what the earlier
ones did stays done.
-/

/-- An action on a file system that may fail. -/
abbrev Action (ε α : Type) := ExceptT ε (StateM FileSystem) α

namespace Action

variable {ε α : Type}

/-- Look at the file system. -/
def inspect (f : FileSystem → α) : Action ε α := fun fs => (.ok (f fs), fs)

/-- A result computed from the file system, with the cause of a failure reworded. -/
def query (reword : FileError → ε) (f : FileSystem → Except FileError α) : Action ε α := fun fs =>
  match f fs with
  | .ok a => (.ok a, fs)
  | .error e => (.error (reword e), fs)

/-- A change of the file system that is made as a whole or not at all. -/
def change (reword : FileError → ε) (f : FileSystem → Except FileError FileSystem) :
    Action ε Unit := fun fs =>
  match f fs with
  | .ok fs' => (.ok (), fs')
  | .error e => (.error (reword e), fs)

/-- A change of the file system of which a part stays when it fails. -/
def attempt (reword : FileError → ε) (f : FileSystem → FileSystem × Except FileError Unit) :
    Action ε Unit := fun fs =>
  match f fs with
  | (fs', .ok ()) => (.ok (), fs')
  | (fs', .error e) => (.error (reword e), fs')

/-- A result that does not depend on the file system. -/
def ofExcept (r : Except ε α) : Action ε α := fun fs => (r, fs)

end Action

/-!
## Changes

What turns one file system into another: removals, the innermost first, and then new
folders and files, a folder before what it holds.
-/

/-- One change of a file system. -/
inductive Change where
  | removeFolder (l : Location)
  | removeFile (l : Location)
  | makeFolder (l : Location)
  | writeFile (l : Location) (bytes : List UInt8)
  deriving DecidableEq, Repr

namespace Change

/-- Remove what a location holds. -/
def removal : Location × Node → Change
  | (l, .folder) => removeFolder l
  | (l, .file _) => removeFile l

/-- Set what a location holds. -/
def placement : Location × Node → Change
  | (l, .folder) => makeFolder l
  | (l, .file bytes) => writeFile l bytes

/-- Make a change. -/
def apply (fs : FileSystem) : Change → FileSystem
  | removeFolder l | removeFile l => fs.removeTree l
  | makeFolder l => fs.put l .folder
  | writeFile l bytes => fs.put l (.file bytes)

end Change

/-- Two nodes are both folders or both files. -/
def Node.sameSort : Node → Node → Bool
  | .folder, .folder => true
  | .file _, .file _ => true
  | _, _ => false

namespace FileSystem

/-- A location keeps a node of the same sort. -/
def keeps (fs : FileSystem) (p : Location × Node) : Bool := (fs.node? p.1).any p.2.sameSort

/-- The changes that turn one file system into another. -/
def changesTo (old new : FileSystem) : List Change :=
  ((old.nodes.filter fun p => !new.keeps p).map Change.removal).reverse
    ++ (new.nodes.filter fun p => old.node? p.1 != some p.2).map Change.placement

end FileSystem

end FormScaffold.Files
