import FormScaffold.Json.Value

/-!
# Sources of records

A record is read from data of several formats.  A format gives its data as a
`Source`: what a piece of data is when a text, a truth value, a number, a list or a
set of named fields is wanted.  The rules that turn these into records are the same
for all formats.
-/

namespace FormScaffold.Record

open FormScaffold

/-- Why data is not a record of the wanted kind. -/
inductive DecodeError where
  | missingField (name : String)
  | duplicateField (name : String)
  | unknownVariant (given : String) (expected : List String)
  | refused (text : String)
  | wrongShape
  deriving DecidableEq, Repr

/-- Names in back quotes, as a message lists the allowed ones. -/
def expectedNames : List String → String
  | [] => "there are no variants"
  | [a] => "expected `" ++ a ++ "`"
  | [a, b] => "expected `" ++ a ++ "` or `" ++ b ++ "`"
  | names => "expected one of " ++ String.intercalate ", " (names.map fun n => "`" ++ n ++ "`")

namespace DecodeError

/-- The message of an error that has a wording of its own. -/
def message? : DecodeError → Option String
  | .missingField name => some ("missing field `" ++ name ++ "`")
  | .unknownVariant given expected =>
      some ("unknown variant `" ++ given ++ "`, " ++ expectedNames expected)
  | .refused text => some text
  | .duplicateField _ => none
  | .wrongShape => none

end DecodeError

/-- The fields of a record: by name, or in the order of their declaration. -/
inductive Shape (σ : Type) where
  | named (entries : List (String × σ))
  | positional (items : List σ)

/-- Data of some format, seen as what a record wants. -/
class Source (σ : Type) where
  /-- Stands for an absent optional value. -/
  isNone : σ → Bool
  /-- The data as a text. -/
  text? : σ → Option String
  /-- The data as a truth value. -/
  bool? : σ → Option Bool
  /-- The data as a natural number. -/
  natural? : σ → Option Nat
  /-- The data as a list. -/
  items? : σ → Option (List σ)
  /-- The data as a map from texts, in the order of the data. -/
  entries? : σ → Option (List (String × σ))
  /-- The data as the fields of a record. -/
  shape? : σ → Option (Shape σ)
  /-- The data as the name of a choice, and whether nothing comes with the name. -/
  variant? : σ → Option (String × Bool)
  /-- The data as a free value. -/
  value? : σ → Option Json.Value

/-- A function that reads one piece of data. -/
abbrev Decode (σ α : Type) := σ → Except DecodeError α

variable {σ α β : Type} [Source σ]

/-- Turn an optional reading into one that fails with `wrongShape`. -/
def ofOption? (o : Option α) : Except DecodeError α :=
  match o with
  | some a => .ok a
  | none => .error .wrongShape

/-- A text. -/
def text : Decode σ String := fun s => ofOption? (Source.text? s)

/-- A truth value. -/
def bool : Decode σ Bool := fun s => ofOption? (Source.bool? s)

/-- A natural number below a limit. -/
def naturalBelow (limit : Nat) : Decode σ Nat := fun s =>
  match Source.natural? s with
  | some n => if n < limit then .ok n else .error .wrongShape
  | none => .error .wrongShape

/-- A natural number of 32 bits. -/
def word32 : Decode σ Nat := naturalBelow (Nat.pow 2 32)

/-- A natural number of 64 bits. -/
def word64 : Decode σ Nat := naturalBelow (Nat.pow 2 64)

/-- A free value. -/
def value : Decode σ Json.Value := fun s => ofOption? (Source.value? s)

/-- An optional value. -/
def optionOf (d : Decode σ α) : Decode σ (Option α) := fun s =>
  if Source.isNone s then .ok none
  else
    match d s with
    | .ok a => .ok (some a)
    | .error e => .error e

/-- Read each piece in order; the first failure counts. -/
def each (d : Decode σ α) : List σ → Except DecodeError (List α)
  | [] => .ok []
  | s :: rest =>
      match d s with
      | .error e => .error e
      | .ok a =>
          match each d rest with
          | .error e => .error e
          | .ok as => .ok (a :: as)

/-- A list. -/
def listOf (d : Decode σ α) : Decode σ (List α) := fun s =>
  match Source.items? s with
  | some items => each d items
  | none => .error .wrongShape

/-- Read the entries of a map in order, keys and values in turn. -/
def eachEntry (key : String → Except DecodeError α) (d : Decode σ β) :
    List (String × σ) → Except DecodeError (List (α × β))
  | [] => .ok []
  | (k, s) :: rest =>
      match key k with
      | .error e => .error e
      | .ok a =>
          match d s with
          | .error e => .error e
          | .ok b =>
              match eachEntry key d rest with
              | .error e => .error e
              | .ok ps => .ok ((a, b) :: ps)

/-- The entries of a map with its keys read by `key`. -/
def entriesOf (key : String → Except DecodeError α) (d : Decode σ β) : Decode σ (List (α × β)) :=
  fun s =>
    match Source.entries? s with
    | some entries => eachEntry key d entries
    | none => .error .wrongShape

/-- A map from texts to texts. -/
def textMap : Decode σ (Keyed String) := fun s =>
  match entriesOf (fun k => .ok k) text s with
  | .ok pairs => .ok (Keyed.ofPairs pairs)
  | .error e => .error e

/-- The member of a table of choices with a given name. -/
def choiceNamed (choices : List (String × α)) (name : String) : Except DecodeError α :=
  match choices.lookup name with
  | some a => .ok a
  | none => .error (.unknownVariant name (choices.map Prod.fst))

/-- A choice by its name. -/
def choice (choices : List (String × α)) : Decode σ α := fun s =>
  match Source.variant? s with
  | none => .error .wrongShape
  | some (name, bare) =>
      match choiceNamed choices name with
      | .ok a => if bare then .ok a else .error .wrongShape
      | .error e => .error e

end FormScaffold.Record
