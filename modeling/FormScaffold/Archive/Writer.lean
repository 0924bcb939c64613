import FormScaffold.Archive.Codec
import FormScaffold.Text.Utf8

/-!
# Writing archives

The file of an archive holds a record with name and bytes for each entry, then a
directory that tells for each entry where its record starts, then one record about the
directory.  Bytes are stored as they are.  Numbers are written lowest byte first.
-/

namespace FormScaffold.Archive

/-!
## Checksums of bytes

The cyclic redundancy check of 32 bits, lowest bit first.
-/

/-- The generating polynomial, lowest bit first. -/
def polynomial : UInt32 := 0xEDB88320

/-- Move one bit out of the register. -/
def shiftBit (r : UInt32) : UInt32 := if r &&& 1 == 1 then (r >>> 1) ^^^ polynomial else r >>> 1

/-- Move a number of bits out of the register. -/
def shiftBits : Nat → UInt32 → UInt32
  | 0, r => r
  | n + 1, r => shiftBits n (shiftBit r)

/-- Take a byte into the register. -/
def takeByte (r : UInt32) (b : UInt8) : UInt32 := shiftBits 8 (r ^^^ b.toUInt32)

/-- The checksum of bytes. -/
def checksum (bytes : List UInt8) : UInt32 := bytes.foldl takeByte 0xFFFFFFFF ^^^ 0xFFFFFFFF

/-! ## Writing archives -/

/-- The lowest bytes of a number. -/
def number : Nat → Nat → List UInt8
  | 0, _ => []
  | width + 1, n => UInt8.ofNat n :: number width (n / 256)

/-- What the record of an entry starts with. -/
def localMark : List UInt8 := [0x50, 0x4B, 0x03, 0x04]

/-- What an entry of the directory starts with. -/
def directoryMark : List UInt8 := [0x50, 0x4B, 0x01, 0x02]

/-- What the record about the directory starts with. -/
def endMark : List UInt8 := [0x50, 0x4B, 0x05, 0x06]

/-- The flag of names that are not plain ASCII. -/
def utf8Flag : Nat := 0x800

/-- The flags of an entry. -/
def flagsOf (e : Entry) : Nat := if e.name.toList.all fun c => c.toNat < 128 then 0 else utf8Flag

/-- The version of the format that an entry needs. -/
def version : Nat := 20

/-- The first day that the format can tell, which stands for every time. -/
def firstDay : Nat := 0x21

/-- What both records of an entry say: flags, no compression, time, checksum and sizes. -/
def commonFields (e : Entry) : List UInt8 :=
  number 2 version ++ number 2 (flagsOf e) ++ number 2 0 ++ number 2 0 ++ number 2 firstDay
    ++ number 4 (checksum e.bytes).toNat ++ number 4 e.bytes.length ++ number 4 e.bytes.length
    ++ number 2 (Text.utf8Bytes e.name).length

/-- The record of an entry. -/
def localRecord (e : Entry) : List UInt8 :=
  localMark ++ commonFields e ++ number 2 0 ++ Text.utf8Bytes e.name ++ e.bytes

/-- The permissions of what an entry becomes. -/
def permissions : Nat := 0o100644

/-- The entry of the directory for a record that starts at an offset. -/
def directoryRecord (offset : Nat) (e : Entry) : List UInt8 :=
  directoryMark ++ number 1 version ++ number 1 3 ++ commonFields e ++ number 2 0 ++ number 2 0
    ++ number 2 0 ++ number 2 0 ++ number 4 (permissions * 65536) ++ number 4 offset
    ++ Text.utf8Bytes e.name

/-- The directory of entries of which the first record starts at an offset. -/
def directory : Nat → List Entry → List UInt8
  | _, [] => []
  | offset, e :: rest =>
      directoryRecord offset e ++ directory (offset + (localRecord e).length) rest

/-- The record about a directory. -/
def endRecord (count size offset : Nat) : List UInt8 :=
  endMark ++ number 2 0 ++ number 2 0 ++ number 2 count ++ number 2 count ++ number 4 size
    ++ number 4 offset ++ number 2 0

/-- The file of an archive. -/
def encode (entries : List Entry) : List UInt8 :=
  let records := entries.flatMap localRecord
  let listing := directory 0 entries
  records ++ listing ++ endRecord entries.length listing.length records.length

end FormScaffold.Archive
