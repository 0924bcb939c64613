import FormScaffold.CommandLine.Arguments
import FormScaffold.Options.Basic

/-!
# Calls

What a command line asks for: a task, and settings that hold for every task.
-/

namespace FormScaffold.CommandLine

/-- What to generate, and where to. -/
structure GenerateTask where
  form : String
  options : GenerationOptions
  outputDir : Option String
  archiveDir : Option String
  requestedBy : String
  asJson : Bool
  deriving DecidableEq, Repr

/-- What is to be done. -/
inductive Task where
  | generate (task : GenerateTask)
  | listTemplates
  | validateTemplates
  | listArchive (archive : String)
  | extractArchive (archive destination : String)
  deriving DecidableEq, Repr

/-- A task, a configuration file to use and a folder of templates to use. -/
structure Call where
  config : Option String
  templatesDir : Option String
  task : Task
  deriving DecidableEq, Repr

namespace Tally

/-- The value of an option, or its standard value. -/
def valueOrStandard (t : Tally) (s : Setting) : String :=
  (t.value? s).getD (s.standard?.getD "")

/-- The options of a generation.  Families are those asked for; if none is, the standard
ones. -/
def options (t : Tally) : GenerationOptions :=
  let standard := GenerationOptions.standard
  let asked : GenerationOptions :=
    { standard with
      objectModel := t.has .objectModel
      relationalSchema := t.has .relationalSchema
      uiComponents := t.has .uiComponents
      deployment := t.has .deployment }
  { (if asked.anyFamily then asked else standard) with
    projectName := t.valueOrStandard .projectName
    projectNamespace := t.value? .projectNamespace
    author := t.value? .author
    description := t.value? .description
    targetDatabase :=
      (Database.named? (t.valueOrStandard .database)).getD standard.targetDatabase }

/-- The generation that was asked for. -/
def generateTask (t : Tally) : GenerateTask :=
  { form := t.valueOrStandard .form
    options := t.options
    outputDir := t.value? .outputDir
    archiveDir := t.value? .archiveDir
    requestedBy := t.valueOrStandard .requestedBy
    asJson := t.has .json }

/-- The operand at a position. -/
def operand (t : Tally) (i : Nat) : String := t.operands[i]?.getD ""

end Tally

/-- The task of a called command, if it stands for one. -/
def taskOf (c : Command) (t : Tally) : Option Task :=
  match c with
  | .generate => some (.generate t.generateTask)
  | .listTemplates => some .listTemplates
  | .validateTemplates => some .validateTemplates
  | .listArchive => some (.listArchive (t.operand 0))
  | .extractArchive => some (.extractArchive (t.operand 0) (t.operand 1))
  | .program | .templates | .archive => none

/-- The first value of an option, the innermost command first. -/
def firstValue (s : Setting) (tallies : List Tally) : Option String :=
  tallies.findSome? fun t => t.value? s

/-- The call that arguments make. -/
def Call.ofArguments (args : List String) : Except Stop Call := do
  let (c, tallies) ← read .program .empty args
  match taskOf c (tallies.headD .empty) with
  | some task => .ok ⟨firstValue .config tallies, firstValue .templatesDir tallies, task⟩
  | none => .error (.refused c .missingCommand)

end FormScaffold.CommandLine
