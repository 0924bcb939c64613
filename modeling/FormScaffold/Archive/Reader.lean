import FormScaffold.Archive.Inflate
import FormScaffold.Archive.Writer

/-!
# Reading archives

An archive is read from its end: the last record about a directory tells where the
directory starts, and the directory where the record of each entry does.  Other bytes may
come before the archive.  Bytes can be read if they are stored as they are or deflated.
-/

namespace FormScaffold.Text

/-!
## Code page 437

The characters of bytes in the oldest code page of personal computers.  The lower half
is ASCII.
-/

/-- The characters of the bytes from 128 on. -/
def upperCharacters : List Char :=
  ("ÇüéâäàåçêëèïîìÄÅÉæÆôöòûùÿÖÜ¢£¥₧ƒáíóúñÑªº¿⌐¬½¼¡«»░▒▓│┤╡╢╖╕╣║╗╝╜╛┐"
    ++ "└┴┬├─┼╞╟╚╔╩╦╠═╬╧╨╤╥╙╘╒╓╫╪┘┌█▄▌▐▀αßΓπΣσµτΦΘΩδ∞φε∩≡±≥≤⌠⌡÷≈°∙·√ⁿ²■\u00a0").toList

/-- The character of a byte. -/
def codePageChar (b : UInt8) : Char :=
  if b < 128 then Char.ofNat b.toNat else upperCharacters.getD (b.toNat - 128) ' '

/-- The text of bytes in the code page. -/
def ofCodePage (bytes : List UInt8) : String := String.ofList (bytes.map codePageChar)

end FormScaffold.Text

namespace FormScaffold.Archive

open Files

/-! ## Directories -/

/-- The number whose lowest bytes come first. -/
def numberOf : List UInt8 → Nat
  | [] => 0
  | b :: rest => b.toNat + 256 * numberOf rest

/-- The number in some bytes of a record. -/
def fieldAt (record : List UInt8) (start width : Nat) : Nat :=
  numberOf ((record.drop start).take width)

/-- Length of the record about a directory, without a comment. -/
def endLength : Nat := 22

/-- Length of an entry of a directory, without its name and what follows it. -/
def directoryLength : Nat := 46

/-- Length of the record of an entry, without its name and what follows it. -/
def localLength : Nat := 30

/-- How far from the end of the file the record about a directory may start. -/
def endReach : Nat := 65535

/-- The last place from which a mark stands, among some places before a given one. -/
def lastMark? (mark bytes : List UInt8) : Nat → Nat → Option Nat
  | 0, _ => none
  | tries + 1, place =>
      if mark.isPrefixOf (bytes.drop place) then some place
      else
        match place with
        | 0 => none
        | before + 1 => lastMark? mark bytes tries before

/-- Why bytes cannot be read as an archive, or an entry of one not as a file. -/
inductive Fault where
  | tooShort
  | noEnd
  | severalParts
  | badPlace
  | noDirectoryEntry
  | noLocalRecord
  | packed
  | encrypted
  | cutShort
  deriving DecidableEq, Repr

/-- The wording of a fault. -/
def Fault.message : Fault → String
  | tooShort => "invalid Zip archive: Invalid zip header"
  | noEnd => "invalid Zip archive: Could not find central directory end"
  | severalParts => "unsupported Zip archive: Support for multi-disk files is not implemented"
  | badPlace => "invalid Zip archive: Invalid central directory size or offset"
  | noDirectoryEntry => "invalid Zip archive: Invalid Central Directory header"
  | noLocalRecord => "invalid Zip archive: Invalid local file header"
  | packed => "unsupported Zip archive: Compression method not supported"
  | encrypted => "unsupported Zip archive: Password required to decrypt file"
  | cutShort => "failed to fill whole buffer"

/-- What the directory tells of an entry. -/
structure DirectoryEntry where
  name : String
  encrypted : Bool
  method : Nat
  checksum : Nat
  size : Nat
  offset : Nat
  deriving DecidableEq, Repr

/-- The first entry of a directory, for records that start after `before` other bytes. -/
def readDirectoryEntry (before : Nat) (bytes : List UInt8) :
    Except Fault (DirectoryEntry × List UInt8) :=
  let flags := fieldAt bytes 8 2
  let nameLength := fieldAt bytes 28 2
  let whole := directoryLength + nameLength + fieldAt bytes 30 2 + fieldAt bytes 32 2
  if bytes.length < directoryMark.length then .error .cutShort
  else if !directoryMark.isPrefixOf bytes then .error .noDirectoryEntry
  else if bytes.length < whole then .error .cutShort
  else
    let rawName := (bytes.drop directoryLength).take nameLength
    let name :=
      if flags / utf8Flag % 2 == 1 then Text.ofUtf8Lossy rawName else Text.ofCodePage rawName
    .ok (⟨name, flags % 2 == 1, fieldAt bytes 10 2, fieldAt bytes 16 4, fieldAt bytes 20 4,
      fieldAt bytes 42 4 + before⟩, bytes.drop whole)

/-- The first entries of a directory. -/
def readDirectoryEntries (before : Nat) :
    Nat → List UInt8 → Except Fault (List DirectoryEntry)
  | 0, _ => .ok []
  | n + 1, bytes => do
      let (d, rest) ← readDirectoryEntry before bytes
      let more ← readDirectoryEntries before n rest
      .ok (d :: more)

/-- What the directory of an archive tells. -/
def readDirectory (bytes : List UInt8) : Except Fault (List DirectoryEntry) :=
  if bytes.length < endLength then .error .tooShort
  else
    match lastMark? endMark bytes (endReach + 1) (bytes.length - endLength) with
    | none => .error .noEnd
    | some place =>
        let record := bytes.drop place
        let size := fieldAt record 12 4
        let offset := fieldAt record 16 4
        if record.length < endLength + fieldAt record 20 2 then .error .cutShort
        else if fieldAt record 4 2 != fieldAt record 6 2 then .error .severalParts
        else if place < size + offset then .error .badPlace
        else
          let before := place - size - offset
          readDirectoryEntries before (fieldAt record 8 2) (bytes.drop (offset + before))

/-! ## Contents -/

/-- How the bytes of an entry may be packed. -/
inductive Method where
  | stored
  | deflated
  deriving DecidableEq, Repr

/-- The methods by their number in a directory. -/
def Method.ofNumber? : Nat → Option Method
  | 0 => some stored
  | 8 => some deflated
  | _ => none

/-- The bytes in the record of an entry, and how they are packed. -/
def packedBytes (bytes : List UInt8) (d : DirectoryEntry) : Except Fault (Method × List UInt8) :=
  let record := bytes.drop d.offset
  let start := localLength + fieldAt record 26 2 + fieldAt record 28 2
  if d.encrypted then .error .encrypted
  else if record.length < localMark.length then .error .cutShort
  else if !localMark.isPrefixOf record then .error .noLocalRecord
  else if record.length < localLength then .error .cutShort
  else
    match Method.ofNumber? d.method with
    | none => .error .packed
    | some method => .ok (method, (record.drop start).take d.size)

/-- The cause of failure for bytes that are not those of the directory. -/
def damaged : FileError := .other "Invalid checksum"

/-- The cause of failure for deflated bytes that cannot be unpacked. -/
def corrupt : FileError := .other "corrupt deflate stream"

/-- What is unpacked is handed on each time that this many bytes are there. -/
def windowLength : Nat := 32768

/-- The content that the directory tells of, checked against its checksum. -/
def DirectoryEntry.checked (d : DirectoryEntry) (bytes : List UInt8) : Content :=
  ⟨bytes, if (Archive.checksum bytes).toNat == d.checksum then none else some damaged⟩

/-- The content of packed bytes.  Bytes that end too early are checked like others; of those that
cannot be unpacked, only what was handed on before is left. -/
def DirectoryEntry.unpacked (d : DirectoryEntry) : Method → List UInt8 → Content
  | .stored, bytes => d.checked bytes
  | .deflated, bytes =>
      match inflate bytes with
      | (out, some .corrupt) => ⟨out.take (out.length / windowLength * windowLength), some corrupt⟩
      | (out, _) => d.checked out

/-- An entry that is read. -/
def readMember (bytes : List UInt8) (d : DirectoryEntry) : Member :=
  ⟨d.name,
    match packedBytes bytes d with
    | .error fault => .error fault.message
    | .ok (method, packed) => .ok (d.unpacked method packed)⟩

/-- The entries of an archive. -/
def readMembers (bytes : List UInt8) : Except String (List Member) :=
  match readDirectory bytes with
  | .error fault => .error fault.message
  | .ok entries => .ok (entries.map (readMember bytes))

/-- The format of this reader and the writer. -/
instance : Codec := ⟨encode, readMembers⟩

end FormScaffold.Archive
