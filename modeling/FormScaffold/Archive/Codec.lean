import FormScaffold.Files.FileSystem
import FormScaffold.Path.Basic

/-!
# Archives

An archive is a list of entries in order, each a name and its bytes.  How entries become the bytes
of a file, and what these bytes tell when they are read, is up to a format; all that packing and
extracting need of one is here.  A name that ends with a slash of either kind stands for a folder.
-/

namespace FormScaffold.Archive

open Files

/-! ## Entries -/

/-- One entry of an archive. -/
structure Entry where
  name : String
  bytes : List UInt8
  deriving DecidableEq, Repr

/-- The name stands for a folder. -/
def isFolderName (name : String) : Bool :=
  name.toList.getLast? == some '/' || name.toList.getLast? == some '\\'

/-- Following the components never leads above the start, nor to the root. -/
def staysBelow : Nat → List Path.Component → Bool
  | _, [] => true
  | _, .root :: _ => false
  | depth, .current :: rest => staysBelow depth rest
  | depth, .name _ :: rest => staysBelow (depth + 1) rest
  | 0, .parent :: _ => false
  | depth + 1, .parent :: rest => staysBelow depth rest

/-- The name leads to a place below the folder that an archive is extracted to. -/
def isEnclosed (name : String) : Bool :=
  !name.toList.contains (Char.ofNat 0) && staysBelow 0 (Path.components name)

/-! ## What is read -/

/-- What an entry holds when it is read: some bytes, and what ends the reading too early or tells
that they are not those that were packed. -/
structure Content where
  bytes : List UInt8
  damage : Option FileError
  deriving DecidableEq, Repr

/-- An entry that is read: its name, and its content or why it cannot be opened. -/
structure Member where
  name : String
  content : Except String Content
  deriving Repr

/-- An entry that is read as it was written. -/
def Member.ofEntry (e : Entry) : Member := ⟨e.name, .ok ⟨e.bytes, none⟩⟩

/-! ## Formats -/

/-- A format of archives. -/
class Codec where
  /-- The bytes of an archive of entries. -/
  encode : List Entry → List UInt8
  /-- The entries in the bytes of an archive in order, or why they are not those of one. -/
  listing : List UInt8 → Except String (List Member)

/-- From the bytes of an archive its entries are read back in order. -/
def Restores [Codec] (bytes : List UInt8) (entries : List Entry) : Prop :=
  Codec.listing bytes = .ok (entries.map .ofEntry)

end FormScaffold.Archive
