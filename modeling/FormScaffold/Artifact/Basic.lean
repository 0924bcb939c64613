import FormScaffold.Artifact.Kind
import FormScaffold.Calendar.Timestamp
import FormScaffold.Failure
import FormScaffold.Hash.Sha256
import FormScaffold.Json.Value
import FormScaffold.Record.Fields

/-!
# Artifacts

One generated file: its kind, its path, its content and the time of its making.
Hash and size are functions of the content.  A stored artifact names both, and is
read back only if they agree with its content.
-/

namespace FormScaffold

open Calendar Record

/-- One generated file. -/
structure Artifact where
  kind : ArtifactKind
  filePath : String
  content : String
  generatedAt : Instant
  path_given : Text.isBlankText filePath = false
  deriving DecidableEq, Repr

/-- The SHA-256 digest of a text in lower-case hexadecimal digits. -/
def contentHash (content : String) : String := Hash.Sha256.ofText content

namespace Artifact

/-- Make an artifact; its path may not be blank. -/
def create (kind : ArtifactKind) (filePath content : String) (now : Instant) :
    Except Failure Artifact :=
  if given : Text.isBlankText filePath = false then .ok ⟨kind, filePath, content, now, given⟩
  else .error (.validation "Artifact file path is required")

/-- The digest of the content. -/
def hash (a : Artifact) : String := contentHash a.content

/-- The number of bytes of the content. -/
def size (a : Artifact) : Nat := a.content.utf8ByteSize

/-- The stored form of an artifact. -/
def toJson (a : Artifact) : Json.Value :=
  .object
    [("artifact_type", .string a.kind.tag), ("file_path", .string a.filePath),
     ("content", .string a.content), ("content_hash", .string a.hash),
     ("size_bytes", .ofNat a.size), ("generated_at", .string a.generatedAt.zuluText)]

/-- What a stored artifact says. -/
structure Stored where
  kind : ArtifactKind
  filePath : String
  content : String
  hash : String
  size : Nat
  generatedAt : Instant

variable {σ : Type} [Source σ]

/-- An instant from its timestamp. -/
def instant : Decode σ Instant := fun s =>
  match text s with
  | .error e => .error e
  | .ok t => ofOption? (Instant.ofText? t)

/-- The fields of a stored artifact. -/
def storedFields : Fields σ Stored :=
  Stored.mk <$> .required "artifact_type" (choice ArtifactKind.byTag)
    <*> .required "file_path" text
    <*> .required "content" text
    <*> .required "content_hash" text
    <*> .required "size_bytes" word64
    <*> .required "generated_at" instant

/-- The artifact that a stored one stands for. -/
def ofStored (s : Stored) : Except Failure Artifact :=
  match create s.kind s.filePath s.content s.generatedAt with
  | .error f => .error f
  | .ok a =>
      if a.hash != s.hash then
        .error (.validation ("Content hash of " ++ a.filePath ++ " does not match its content"))
      else if a.size != s.size then
        .error (.validation ("Size of " ++ a.filePath ++ " is " ++ toString a.size ++ " bytes, not "
          ++ toString s.size))
      else .ok a

/-- Turn a failure into the refusal of a record. -/
def refusal {α : Type} : Except Failure α → Except DecodeError α
  | .ok a => .ok a
  | .error f => .error (.refused f.message)

/-- Read a stored artifact. -/
def decode : Decode σ Artifact := fun s =>
  match storedFields.decode s with
  | .error e => .error e
  | .ok stored => refusal (ofStored stored)

end Artifact

end FormScaffold
