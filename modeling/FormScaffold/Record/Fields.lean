import FormScaffold.Record.Source

/-!
# Records by fields

The reader of a record is put together from the readers of its fields in the order
of their declaration.  Named data is met in its own order: unknown names are passed
over, a field given twice is refused, and the first field whose data is bad decides.
Missing fields count only after all given ones, in the order of declaration.  A list
gives the fields by position; only fields with a default may be left out at its end.
-/

namespace FormScaffold.Record

variable {σ α β : Type}

/-- One field: its names, whether it has a default, and a test of its data. -/
structure Field (σ : Type) where
  name : String
  aliases : List String
  hasDefault : Bool
  check : σ → Except DecodeError Unit

/-- The field goes by this name. -/
def Field.answersTo (f : Field σ) (name : String) : Bool :=
  f.name == name || f.aliases.contains name

/-- A reader of records: the fields, and the record built from their data. -/
structure Fields (σ α : Type) where
  fields : List (Field σ)
  build : (String → Option σ) → Except DecodeError α

namespace Fields

/-- A record without fields. -/
def pure (a : α) : Fields σ α := ⟨[], fun _ => .ok a⟩

/-- Apply the record built by one reader to what another one builds. -/
def seq (f : Fields σ (α → β)) (x : Fields σ α) : Fields σ β :=
  ⟨f.fields ++ x.fields, fun data =>
    match f.build data with
    | .error e => .error e
    | .ok g =>
        match x.build data with
        | .error e => .error e
        | .ok a => .ok (g a)⟩

instance : Applicative (Fields σ) where
  pure := Fields.pure
  seq f x := Fields.seq f (x ())

/-- Forget the result of a reading. -/
def tested (d : Decode σ α) (s : σ) : Except DecodeError Unit :=
  match d s with
  | .ok _ => .ok ()
  | .error e => .error e

/-- A field that has to be given. -/
def required (name : String) (d : Decode σ α) : Fields σ α :=
  ⟨[⟨name, [], false, tested d⟩], fun data =>
    match data name with
    | some s => d s
    | none => .error (.missingField name)⟩

/-- A field with a value for when it is not given, and other names it goes by. -/
def defaulted (name : String) (aliases : List String) (default : α) (d : Decode σ α) :
    Fields σ α :=
  ⟨[⟨name, aliases, true, tested d⟩], fun data =>
    match data name with
    | some s => d s
    | none => .ok default⟩

/-- An optional field that may be left out of named data, but not of a list. -/
def optional [Source σ] (name : String) (d : Decode σ α) : Fields σ (Option α) :=
  ⟨[⟨name, [], false, tested (optionOf d)⟩], fun data =>
    match data name with
    | some s => optionOf d s
    | none => .ok none⟩

/-- Assign named data to fields, in the order of the data. -/
def assignNamed (fields : List (Field σ)) (taken : List (String × σ)) :
    List (String × σ) → Except DecodeError (List (String × σ))
  | [] => .ok taken
  | (key, s) :: rest =>
      match fields.find? (·.answersTo key) with
      | none => assignNamed fields taken rest
      | some f =>
          if (taken.lookup f.name).isSome then .error (.duplicateField f.name)
          else
            match f.check s with
            | .error e => .error e
            | .ok () => assignNamed fields ((f.name, s) :: taken) rest

/-- Assign the items of a list to fields, in the order of declaration. -/
def assignPositional : List (Field σ) → List σ → Except DecodeError (List (String × σ))
  | [], [] => .ok []
  | [], _ :: _ => .error .wrongShape
  | f :: fs, [] => if f.hasDefault then assignPositional fs [] else .error .wrongShape
  | f :: fs, s :: rest =>
      match f.check s with
      | .error e => .error e
      | .ok () =>
          match assignPositional fs rest with
          | .error e => .error e
          | .ok taken => .ok ((f.name, s) :: taken)

/-- Assign data to the fields of a record. -/
def assign [Source σ] (r : Fields σ α) (s : σ) : Except DecodeError (List (String × σ)) :=
  match Source.shape? s with
  | none => .error .wrongShape
  | some (.named entries) => assignNamed r.fields [] entries
  | some (.positional items) => assignPositional r.fields items

/-- Read a record from data. -/
def decode [Source σ] (r : Fields σ α) : Decode σ α := fun s =>
  match r.assign s with
  | .error e => .error e
  | .ok taken => r.build fun name => taken.lookup name

end Fields

end FormScaffold.Record
