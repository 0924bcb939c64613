/-!
# Status of a job

A job waits, is worked on, and ends either completed or failed.
-/

namespace FormScaffold

/-- The status of a job. -/
inductive JobStatus where
  | pending
  | processing
  | completed
  | failed
  deriving DecidableEq, Repr

namespace JobStatus

/-- All statuses in the order of a job's life. -/
def all : List JobStatus := [pending, processing, completed, failed]

/-- The name of a status. -/
def name : JobStatus → String
  | pending => "Pending"
  | processing => "Processing"
  | completed => "Completed"
  | failed => "Failed"

/-- The status of a finished job. -/
def isTerminal : JobStatus → Bool
  | pending | processing => false
  | completed | failed => true

/-- Names with the statuses they stand for. -/
def byName : List (String × JobStatus) := all.map fun s => (s.name, s)

end JobStatus

end FormScaffold
