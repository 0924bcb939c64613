import FormScaffold.Pipeline.Services

/-!
# Journals

A generator may keep a journal: each event that observers are told of, with the job as it
was then, the earliest first.  The journal is a part of the world that the run changes, and
no service looks at it.
-/

namespace FormScaffold.Pipeline

variable {ω α : Type}

/-- An event of a job, with the job as it was then. -/
structure Notice where
  job : Job
  event : JobEvent
  deriving DecidableEq, Repr

/-- A world with a journal. -/
structure Journaled (ω : Type) where
  world : ω
  notices : List Notice

namespace Journaled

/-- Do something in the world and leave the journal as it is. -/
def within (a : StateM ω α) : StateM (Journaled ω) α := fun j =>
  let (r, world) := a j.world
  (r, { j with world := world })

/-- Write every event into the journal. -/
def keeper : Observer (Journaled ω) := fun job event =>
  modify fun j => { j with notices := j.notices ++ [⟨job, event⟩] }

end Journaled

/-- The same services in a world with a journal. -/
def Services.journaled (p : Services ω) : Services (Journaled ω) :=
  { render := fun entry model => Journaled.within (p.render entry model)
    organize := fun artifacts project => Journaled.within (p.organize artifacts project)
    createArchive := fun source destination =>
      Journaled.within (p.createArchive source destination)
    archiveSize := fun path => Journaled.within (p.archiveSize path)
    holdsFile := fun path => Journaled.within (p.holdsFile path)
    isCancelled := Journaled.within p.isCancelled
    now := Journaled.within p.now
    freshId := Journaled.within p.freshId }

/-- The same generator, which tells its journal after its observers. -/
def journaled (p : Pipeline ω) : Pipeline (Journaled ω) :=
  { registry := p.registry
    services := p.services.journaled
    observers :=
      p.observers.map (fun observe job event => Journaled.within (observe job event))
        ++ [Journaled.keeper]
    archiveDir := p.archiveDir }

end FormScaffold.Pipeline
