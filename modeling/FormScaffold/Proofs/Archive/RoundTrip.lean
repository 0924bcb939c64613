import FormScaffold.Proofs.Archive.ReadBack
import FormScaffold.Proofs.Archive.Restoring
import FormScaffold.Proofs.Archive.Storing

/-!
# Packed folders are restored

Packing a folder writes an archive with an entry for each place below it, outside of the folder.
Extracting the archive to an empty folder gives the same tree there; to any other folder it writes
the files of the tree and keeps all other files.  The format has to read the archive back as the
entries that it was written from; of the format at hand, `restores_encode` shows this of entries
that fit into their fields.
-/

namespace FormScaffold.Archive

open Calendar Files Output Path

/-! ## The whole -/

/-- The names list what lies below a location once each: folders with a slash at the end, each
before what it holds, and what is in one folder in the order of the names. -/
structure Lists (fs : FileSystem) (l : Location) (places : List (Location × Node))
    (names : List String) : Prop where
  labels : names = places.map fun p => entryName p.1 ++ if p.2 = .folder then "/" else ""
  once : names.Nodup
  complete : ∀ rel node, (rel, node) ∈ places ↔ rel ≠ [] ∧ fs.node? (l ++ rel) = some node
  order : places.Pairwise fun p q => Earlier p.1 q.1

/-- A path with slashes at its end. -/
def slashed (path : String) (n : Nat) : String := path ++ String.ofList (List.replicate n '/')

end FormScaffold.Archive
