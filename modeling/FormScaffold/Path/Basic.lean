/-!
# Paths

A path is kept as the text it was given as; its meaning is the list of its
components.  Repeated slashes and `.` inside a path do not count, a leading slash
is the root, and a leading `.` counts as the current folder.
-/

namespace FormScaffold.Path

/-- A component of a path. -/
inductive Component where
  | root
  | current
  | parent
  | name (text : String)
  deriving DecidableEq, Repr

/-- The text of a component. -/
def Component.text : Component → String
  | .root => "/"
  | .current => "."
  | .parent => ".."
  | .name s => s

/-- Cut a text at its slashes. -/
def segmentsOf (cs : List Char) : List (List Char) :=
  let rec go (current : List Char) : List Char → List (List Char)
    | [] => [current.reverse]
    | c :: rest => if c == '/' then current.reverse :: go [] rest else go (c :: current) rest
  go [] cs

/-- A path that starts at the root. -/
def isAbsolute (path : String) : Bool := path.toList.head? == some '/'

/-- The component that a segment stands for; empty segments and `.` stand for none. -/
def segmentComponent? (segment : List Char) : Option Component :=
  if segment == [] || segment == ['.'] then none
  else if segment == ['.', '.'] then some .parent
  else some (.name (String.ofList segment))

/-- The components of a path. -/
def components (path : String) : List Component :=
  let segments := segmentsOf path.toList
  let body := segments.filterMap segmentComponent?
  match segments with
  | [] :: _ :: _ => .root :: body
  | ['.'] :: _ => .current :: body
  | _ => body

/-- Joining the path onto a folder cannot lead out of the folder. -/
def isConfined (path : String) : Bool :=
  (components path).all fun c =>
    match c with
    | .parent | .root => false
    | _ => true

/-- `path` seen from `base`: an absolute path stands for itself. -/
def join (base path : String) : String :=
  if isAbsolute path then path
  else if base.toList.getLast? == some '/' || base == "" then base ++ path
  else base ++ "/" ++ path

/-- The last component, if it is a name. -/
def fileName? (path : String) : Option String :=
  match (components path).getLast? with
  | some (.name s) => some s
  | _ => none

/-- The text after the last dot of a file name that does not start with it. -/
def extension? (path : String) : Option String := do
  let name ← fileName? path
  let reversed := name.toList.reverse
  let tail := reversed.takeWhile (· != '.')
  match reversed.dropWhile (· != '.') with
  | _ :: _ :: _ => some (String.ofList tail.reverse)
  | _ => none

/-- Drop the segments at the end that stand for no component, given a reversed list of
segments.  A leading `.` stands for the current folder and is kept. -/
def dropSilent : List (List Char) → List (List Char)
  | [] => []
  | [s] => [s]
  | s :: rest => if s == [] || s == ['.'] then dropSilent rest else s :: rest

/-- The folder that holds the path, as text; the root and the empty path have none. -/
def parent? (path : String) : Option String :=
  match (components path).getLast? with
  | none | some .root => none
  | some _ =>
      match dropSilent (segmentsOf path.toList).reverse with
      | [] => none
      | _ :: before =>
          match dropSilent before with
          | [[]] => some "/"
          | rest => some (String.ofList (List.intercalate ['/'] rest.reverse))

/-- All paths that lead to the path, from the first component on, as texts. -/
def stepsTo (path : String) : List String :=
  let rec go : Nat → String → List String → List String
    | 0, _, steps => steps
    | fuel + 1, p, steps =>
        match parent? p with
        | none => steps
        | some up => go fuel up (p :: steps)
  go path.length path []

/-- `inner` starts with the components of `outer`. -/
def startsWith (inner outer : List Component) : Bool := outer.isPrefixOf inner

/-- The components of a path seen from a working folder, without a leading `.`. -/
def absolute (working : List Component) (path : String) : List Component :=
  if isAbsolute path then components path
  else
    match components path with
    | .current :: rest => working ++ rest
    | cs => working ++ cs

/-- The components of `path` that follow those of `base`. -/
def relativeTo? (base path : String) : Option (List Component) :=
  if startsWith (components path) (components base) then
    some ((components path).drop (components base).length)
  else none

/-- Place of a component among those that may stand at one position. -/
def Component.rank : Component → Nat
  | .root => 0
  | .current => 1
  | .parent => 2
  | .name _ => 3

/-- Order of components: names come last and among themselves in their own order. -/
def Component.before (a b : Component) : Bool :=
  match a, b with
  | .name s, .name t => decide (s < t)
  | _, _ => decide (a.rank < b.rank)

/-- Order of component lists, first difference first. -/
def componentsBefore : List Component → List Component → Bool
  | [], [] => false
  | [], _ :: _ => true
  | _ :: _, [] => false
  | a :: as, b :: bs => a.before b || (a == b && componentsBefore as bs)

end FormScaffold.Path
