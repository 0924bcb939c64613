import FormScaffold.CommandLine.Command

/-!
# Reading arguments

Arguments are read from left to right: options with their values, the operands of a
command, and the name of a command below it, which takes all that follows.  The first
argument that does not fit ends the reading, and so does a request for help.

An option whose value is a separate argument is only settled when the next option, the
next operand or the end of the command's part is reached.  What was given to a command is
settled after all that was given to the command below it.
-/

namespace FormScaffold.CommandLine

/-- Why arguments are refused. -/
inductive Fault where
  | unknownArgument (text : String)
  | unknownCommand (text : String)
  | missingCommand
  | missingValue (label : String)
  | needlessValue (label value : String)
  | badValue (s : Setting) (value : String)
  | repeated (s : Setting)
  | missing (labels : List String)
  deriving DecidableEq, Repr

/-- What explains a command, or what explains the explanations below a command. -/
inductive HelpPage where
  | ofCommand (c : Command)
  | ofHelp (c : Command)
  deriving DecidableEq, Repr

/-- Why arguments give no call. -/
inductive Stop where
  | help (page : HelpPage)
  | version
  | refused (c : Command) (fault : Fault)
  deriving DecidableEq, Repr

/-- What was given to one command: options with their values in order, an option that is
not yet settled, and operands in order. -/
structure Tally where
  given : List (Setting × String)
  pending : Option (Setting × Option String)
  operands : List String
  deriving DecidableEq, Repr

namespace Tally

/-- Nothing was given. -/
def empty : Tally := ⟨[], none, []⟩

/-- The value of an option. -/
def value? (t : Tally) (s : Setting) : Option String := t.given.lookup s

/-- The option was given. -/
def has (t : Tally) (s : Setting) : Bool := (t.value? s).isSome

/-- An option waits for its value. -/
def awaits (t : Tally) : Bool :=
  match t.pending with
  | some (_, none) => true
  | _ => false

/-- Give an option its value: once, and one of its kind. -/
def add (t : Tally) (s : Setting) (value : String) : Except Fault Tally :=
  if t.has s then .error (.repeated s)
  else if s.kind?.all fun k => k.accepts value then
    .ok { t with given := t.given ++ [(s, value)] }
  else .error (.badValue s value)

/-- Settle the pending option. -/
def settle (t : Tally) : Except Fault Tally :=
  match t.pending with
  | none => .ok t
  | some (s, none) => .error (.missingValue s.usage)
  | some (s, some value) => { t with pending := none }.add s value

/-- Let an option wait for its value. -/
def await (t : Tally) (s : Setting) : Except Fault Tally := do
  let t ← t.settle
  .ok { t with pending := some (s, none) }

/-- Give a value to the option that waits for one. -/
def supply (t : Tally) (value : String) : Tally :=
  { t with pending := t.pending.map fun p => (p.1, some value) }

/-- Give an option that carries its own value, or none. -/
def addNow (t : Tally) (s : Setting) (value : String) : Except Fault Tally := do
  (← t.settle).add s value

/-- Give an operand to a command. -/
def addOperand (c : Command) (t : Tally) (text : String) : Except Fault Tally :=
  match c.operands[t.operands.length]? with
  | none => .error (if c.children.isEmpty then .unknownArgument text else .unknownCommand text)
  | some label => do
      let t ← t.settle
      if ValueKind.path.accepts text then .ok { t with operands := t.operands ++ [text] }
      else .error (.missingValue ("<" ++ label ++ ">"))

end Tally

/-- The name of the command that explains others. -/
def helpName : String := "help"

/-- The name of the option that asks for the version. -/
def versionName : String := "version"

/-- The page that names after the command for help lead to. -/
def helpPage (c : Command) : List String → Except Stop HelpPage
  | [] => .ok (.ofCommand c)
  | name :: rest =>
      match c.child? name with
      | some d => helpPage d rest
      | none =>
          if name == helpName && !c.children.isEmpty then
            match rest with
            | [] => .ok (.ofHelp c)
            | other :: _ => .error (.refused c (.unknownCommand other))
          else .error (.refused c (.unknownCommand name))

/-- What one argument is, seen by itself. -/
inductive Shape where
  /-- Two dashes alone: only operands follow. -/
  | divider
  /-- Two dashes, a name, and perhaps `=` and a value. -/
  | long (name : String) (value : Option String)
  /-- One dash and letters. -/
  | short (first : Char)
  | plain
  deriving DecidableEq, Repr

/-- Cut a text at the first `=`. -/
def cutAtEquals : List Char → List Char × Option (List Char)
  | [] => ([], none)
  | '=' :: rest => ([], some rest)
  | c :: rest => ((c :: (cutAtEquals rest).1), (cutAtEquals rest).2)

/-- What an argument is. -/
def shapeOf (text : String) : Shape :=
  match text.toList with
  | ['-', '-'] => .divider
  | '-' :: '-' :: rest =>
      let (name, value) := cutAtEquals rest
      .long (String.ofList name) (value.map String.ofList)
  | '-' :: c :: _ => .short c
  | _ => .plain

/-- Blame a fault on the arguments of a command. -/
def orRefuse {α : Type} (c : Command) : Except Fault α → Except Stop α
  | .ok a => .ok a
  | .error f => .error (.refused c f)

/-- Stop as asked once the pending option is settled. -/
def stopWith (c : Command) (t : Tally) (stop : Stop) : Except Stop Tally := do
  let _ ← orRefuse c t.settle
  .error stop

/-- Read an option with two dashes. -/
def readLong (c : Command) (t : Tally) (name : String) (value : Option String) :
    Except Stop Tally :=
  match c.setting? name with
  | some s =>
      match s.kind?, value with
      | none, none => orRefuse c (t.addNow s "")
      | none, some v => .error (.refused c (.needlessValue s.usage v))
      | some _, some v => orRefuse c (t.addNow s v)
      | some _, none => orRefuse c (t.await s)
  | none =>
      let stop? : Option Stop :=
        if name == helpName then some (.help (.ofCommand c))
        else if name == versionName && c == .program then some .version
        else none
      match stop?, value with
      | none, _ => .error (.refused c (.unknownArgument ("--" ++ name)))
      | some _, some v => .error (.refused c (.needlessValue ("--" ++ name) v))
      | some stop, none => stopWith c t stop

/-- Read an option with one dash. -/
def readShort (c : Command) (t : Tally) (letter : Char) : Except Stop Tally :=
  if letter == 'h' then stopWith c t (.help (.ofCommand c))
  else if letter == 'V' && c == .program then stopWith c t .version
  else .error (.refused c (.unknownArgument ("-" ++ String.singleton letter)))

/-- What the required options and operands of a command lack. -/
def lacking (c : Command) (t : Tally) : List String :=
  (c.required.filter fun s => !t.has s).map Setting.usage
    ++ (c.operands.drop t.operands.length).map fun o => "<" ++ o ++ ">"

/-- Settle what was given to a command, which is to have all it needs. -/
def finish (c : Command) (t : Tally) : Except Stop Tally := do
  let t ← orRefuse c t.settle
  if (lacking c t).isEmpty then .ok t else .error (.refused c (.missing (lacking c t)))

/-- End the arguments at a command, which is to have none below it. -/
def close (c : Command) (t : Tally) : Except Stop (Command × List Tally) := do
  let t ← finish c t
  if c.children.isEmpty then .ok (c, [t]) else .error (.refused c .missingCommand)

/-- Read the arguments of a command to which something was given already.  The result is
the command that is called, with what was given to it and then to those above it. -/
def read (c : Command) (t : Tally) : List String → Except Stop (Command × List Tally)
  | [] => close c t
  | text :: rest =>
      match if t.awaits then none else c.child? text with
      | some d => do
          let (called, inner) ← read d .empty rest
          let t ← finish c t
          .ok (called, inner ++ [t])
      | none =>
          if text == helpName && !t.awaits && !c.children.isEmpty then do
            .error (.help (← helpPage c rest))
          else
            match shapeOf text with
            | .divider => do close c (← orRefuse c (rest.foldlM (Tally.addOperand c) t))
            | .long name value => do read c (← readLong c t name value) rest
            | .short letter => do read c (← readShort c t letter) rest
            | .plain =>
                if t.awaits then read c (t.supply text) rest
                else do read c (← orRefuse c (t.addOperand c text)) rest

end FormScaffold.CommandLine
