import FormScaffold.Calendar.Pattern
import FormScaffold.Template.Filters.Argument

/-!
# Functions of the template language

A function makes a value from named arguments.  Besides them it may look at the clock
and at the variables of the environment.
-/

namespace FormScaffold.Template.Functions

open FormScaffold FormScaffold.Json FormScaffold.Calendar FormScaffold.Template.Filters

/-- What a function may look at. -/
structure World where
  now : Instant
  environment : Keyed String

/-- A function: from named arguments to a value, or to the text of a failure. -/
abbrev TemplateFunction := World → Keyed Value → Except String Value

/-- What a function says of an argument of the wrong kind. -/
def wrongArg (function arg shown : String) (given : Value) (wanted : String) : String :=
  "Function `" ++ function ++ "` received " ++ arg ++ "=" ++ given.text ++ " but `" ++ shown
    ++ "` can only be a " ++ wanted

/-- What a function says without an argument. -/
def withoutArg (function article arg : String) : String :=
  "Function `" ++ function ++ "` was called without a" ++ article ++ " `" ++ arg ++ "` argument"

/-- An argument of a kind, if it is given. -/
def given {α : Type} (function arg shown : String) (w : Wanted α) (wanted : String)
    (args : Keyed Value) : Except String (Option α) :=
  match Keyed.get? arg args with
  | none => .ok none
  | some v =>
      match w.read? v with
      | some a => .ok (some a)
      | none => .error (wrongArg function arg shown v wanted)

/-- Integers from a start up to an end, which is not reached, in steps. -/
def countUp (step : Nat) : Nat → Nat → Nat → List Value
  | 0, _, _ => []
  | n + 1, i, stop => if i < stop then .ofNat i :: countUp step n (i + step) stop else []

/-- A list of integers. -/
def range : TemplateFunction := fun _ args => do
  let start ← given "range" "start" "start" aCount "number" args
  let step ← given "range" "step_by" "step" aCount "number" args
  match ← given "range" "end" "end" aCount "number" args with
  | none => .error (withoutArg "range" "" "end")
  | some stop =>
      let start := start.getD 0
      if stop < start then
        .error "Function `range` was called with a `start` argument greater than the `end` one"
      else
        .ok (.array (countUp (step.getD 1).toNat (stop - start).toNat start.toNat stop.toNat))

/-- The time of the clock. -/
def now : TemplateFunction := fun w args => do
  let _ ← given "now" "utc" "utc" aBool "boolean" args
  let timestamp ← given "now" "timestamp" "timestamp" aBool "boolean" args
  .ok (if timestamp.getD false then .ofInt w.now.seconds else .string w.now.offsetText)

/-- A failure with a given text. -/
def throw : TemplateFunction := fun _ args => do
  match ← given "throw" "message" "message" aText "string" args with
  | some text => .error text
  | none => .error (withoutArg "throw" "" "message")

/-- An integer between two bounds, the second excluded: the first bound. -/
def random : TemplateFunction := fun _ args => do
  let start ← given "get_random" "start" "start" aLongInteger "number" args
  match ← given "get_random" "end" "end" aLongInteger "number" args with
  | none => .error (withoutArg "get_random" "" "end")
  | some _ => .ok (.ofInt (start.getD 0))

/-- A variable of the environment. -/
def environmentVariable : TemplateFunction := fun w args => do
  match ← given "get_env" "name" "name" aText "string" args with
  | none => .error (withoutArg "get_env" "" "name")
  | some name =>
      match Keyed.get? name w.environment, Keyed.get? "default" args with
      | some s, _ => .ok (.string s)
      | none, some default => .ok default
      | none, none => .error ("Environment variable `" ++ name ++ "` not found")

/-- The pattern of dates. -/
def datePattern : String := "%Y-%m-%d"

/-- The date and time of the clock in the form of a pattern. -/
def currentDate : TemplateFunction := fun w args => do
  let format ← match Keyed.get? "format" args with
    | none => .ok datePattern
    | some (.string s) => .ok s
    | some v => .error ("Function `current_date` expects a string format, got " ++ v.text)
  match pattern? format with
  | some parts => .ok (.string ((ZonedMoment.universal w.now).format parts))
  | none => .error ("Function `current_date` received an invalid format: " ++ format)

/-- All functions, by name. -/
def all : List (String × TemplateFunction) :=
  [("range", range), ("now", now), ("throw", throw), ("get_random", random),
   ("get_env", environmentVariable), ("current_date", currentDate)]

end FormScaffold.Template.Functions
