import FormScaffold.CommandLine.Arguments
import FormScaffold.CommandLine.Report

/-!
# Help

Pages that explain commands, and the texts for arguments that are refused.  A page lists
the commands below, the operands and the options of its command, each kind in one block
with the explanations in one column.
-/

namespace FormScaffold.CommandLine

/-- A line of a block: a label and its explanation. -/
abbrev Row := String × String

/-- The lines of a block.  The explanations stand two columns right of the longest label. -/
def block (title : String) (rows : List Row) : List String :=
  let width := (rows.map fun r => r.1.length).foldl max 0
  if rows.isEmpty then []
  else "" :: (title ++ ":") :: rows.map fun r =>
    "  " ++ Text.padRight width r.1 ++ "  " ++ r.2

/-- What help explains of itself. -/
def helpPurpose : String := "Print this message or the help of the given subcommand(s)"

/-- The rows of the commands below a command. -/
def commandRows (c : Command) : List Row :=
  if c.children.isEmpty then []
  else c.children.map (fun d => (d.name, d.purpose)) ++ [(helpName, helpPurpose)]

/-- What is told of an option, with its standard value. -/
def explanation (s : Setting) : String :=
  match s.standard? with
  | some value => s.purpose ++ " [default: " ++ value ++ "]"
  | none => s.purpose

/-- Merge two lists of options position by position, of one position by name. -/
def interleave : List Setting → List Setting → List Setting
  | [], ts => ts
  | ss, [] => ss
  | s :: ss, t :: ts =>
      if s.name < t.name then s :: t :: interleave ss ts else t :: s :: interleave ss ts

/-- The rows of the options of a command. -/
def settingRows (c : Command) : List Row :=
  (interleave Command.sharedSettings c.ownSettings).map
      (fun s => ("    " ++ s.usage, explanation s))
    ++ [("-h, --" ++ helpName, "Print help")]
    ++ (if c == .program then [("-V, --" ++ versionName, "Print version")] else [])

/-- How a command is called. -/
def usageLine (c : Command) : String :=
  "Usage: " ++ String.intercalate " " (c.words ++ ["[OPTIONS]"]
    ++ c.required.map Setting.usage ++ c.operands.map (fun o => "<" ++ o ++ ">")
    ++ (if c.children.isEmpty then [] else ["<COMMAND>"]))

/-- The lines of a page. -/
def HelpPage.lines : HelpPage → List String
  | ofCommand c =>
      [c.purpose, "", usageLine c] ++ block "Commands" (commandRows c)
        ++ block "Arguments" (c.operands.map fun o => ("<" ++ o ++ ">", ""))
        ++ block "Options" (settingRows c)
  | ofHelp c =>
      [helpPurpose, "",
        "Usage: " ++ String.intercalate " " (c.words ++ [helpName, "[COMMAND]..."])]
        ++ block "Arguments" [("[COMMAND]...", "Print help for the subcommand(s)")]

/-- The line that tells the version. -/
def versionLine : String := programName ++ " " ++ programVersion

/-- What is told of a value that is not one of its option's kind. -/
def badness (s : Setting) (value : String) : String :=
  match s.kind?, Database.ofUserName value with
  | some .database, .error f => ": " ++ f.message
  | _, _ => ""

/-- What is said of a fault in the arguments of a command. -/
def Fault.message (c : Command) : Fault → String
  | unknownArgument text => "unexpected argument '" ++ text ++ "' found"
  | unknownCommand text => "unrecognized subcommand '" ++ text ++ "'"
  | missingCommand =>
      "'" ++ String.intercalate " " c.words
        ++ "' requires a subcommand but one was not provided"
  | missingValue label => "a value is required for '" ++ label ++ "' but none was supplied"
  | needlessValue label value =>
      "unexpected value '" ++ value ++ "' for '" ++ label ++ "' found; no more were expected"
  | badValue s value => "invalid value '" ++ value ++ "' for '" ++ s.usage ++ "'" ++ badness s value
  | repeated s => "the argument '" ++ s.usage ++ "' cannot be used multiple times"
  | missing labels =>
      String.intercalate "\n  " ("the following required arguments were not provided:" :: labels)

/-- The lines that refuse arguments. -/
def refusalLines (c : Command) (f : Fault) : List String :=
  ["error: " ++ f.message c, "", usageLine c, "", "For more information, try '--help'."]

end FormScaffold.CommandLine
