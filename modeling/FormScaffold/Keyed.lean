/-!
# Lists keyed by text

A finite map from strings is a list of pairs in ascending order of the keys, by
code points.  Insertion keeps the order and replaces the value of a present key.
-/

namespace FormScaffold

/-- A map from strings, as pairs in ascending order of the keys. -/
abbrev Keyed (α : Type) := List (String × α)

namespace Keyed

variable {α β : Type}

/-- Set the value of a key. -/
def insert (key : String) (value : α) : Keyed α → Keyed α
  | [] => [(key, value)]
  | (k, v) :: rest =>
      if key == k then (key, value) :: rest
      else if key < k then (key, value) :: (k, v) :: rest
      else (k, v) :: insert key value rest

/-- The value of a key. -/
def get? (key : String) : Keyed α → Option α
  | [] => none
  | (k, v) :: rest => if key == k then some v else get? key rest

/-- A key is present. -/
def contains (key : String) (m : Keyed α) : Bool := (get? key m).isSome

/-- Remove a key. -/
def erase (key : String) (m : Keyed α) : Keyed α := m.filter fun p => !(p.1 == key)

/-- The keys in order. -/
def keys (m : Keyed α) : List String := m.map Prod.fst

/-- The values in the order of their keys. -/
def values (m : Keyed α) : List α := m.map Prod.snd

/-- The map with the given pairs; of two with one key the later counts. -/
def ofPairs (pairs : List (String × α)) : Keyed α :=
  pairs.foldl (fun m p => insert p.1 p.2 m) []

/-- Apply a function to every value. -/
def mapValues (f : α → β) (m : Keyed α) : Keyed β := m.map fun p => (p.1, f p.2)

end Keyed

end FormScaffold
