import FormScaffold.Proofs.Json.IndentedText
import FormScaffold.Proofs.Record.KeyedOrder
import FormScaffold.Proofs.Shipped.Sources
import Mathlib.Data.Bool.AllAny

/-!
# The document of settings

The file of settings is to be a JSON document.  It is the indented text of one if the name of the
project, which is the only part that is put as it is, needs no escape between quotes.
-/

namespace FormScaffold

open Template Json Shipped

/-! ## The document -/

/-- What a path of keys leads to in a value. -/
def Json.Value.at? (v : Value) (path : List String) : Option Value :=
  path.foldlM (fun v key => v.member? key) v

/-- A value that is not put in quotes, without the blanks around it. -/
def bareValue? (cs : List Char) : Option String :=
  match Text.trim cs with
  | '"' :: _ | '\'' :: _ => none
  | cs => some (String.ofList cs)

/-- The bare value of a key in a text of entries with semicolons between them, each of which is a
key, an equality sign and a value. -/
def connectionValue? (key text : String) : Option String :=
  ((text.toList.splitOn ';').find? fun entry =>
      Text.trim (entry.takeWhile (· != '=')) == key.toList).bind
    fun entry => bareValue? ((entry.dropWhile (· != '=')).drop 1)

/-- A text is its own bare value. -/
structure IsBare (t : String) : Prop where
  unsplit : ';' ∉ t.toList
  unquoted : t.toList.head? ≠ some '"' ∧ t.toList.head? ≠ some '\''
  trimmed : Text.trim t.toList = t.toList

theorem bareValue?_of_isBare {t : String} (h : IsBare t) : bareValue? t.toList = some t := by
  obtain ⟨hquote, hapostrophe⟩ := h.unquoted
  unfold bareValue?
  rw [h.trimmed]
  split
  · rename_i heq
    exact absurd (congrArg List.head? heq) hquote
  · rename_i heq
    exact absurd (congrArg List.head? heq) hapostrophe
  · rw [String.ofList_toList]

namespace Settings

/-- How the application reaches its database. -/
def connection (s : Settings) : String :=
  "Server=localhost;Database=" ++ s.project ++
    ";Trusted_Connection=True;TrustServerCertificate=True"

/-- What the application is and is set to. -/
def application (s : Settings) : Value :=
  .object ([("Name", .string s.name), ("Entity", .string s.entity),
    ("GeneratedAt", .string s.stamp)] ++
      if s.entries.isEmpty then [] else [("Settings", .ofStringMap s.entries)])

/-- What all applications are set to. -/
def fixedMembers : List (String × Value) :=
  [("Logging", .object [("LogLevel", .object [("Default", .string "Information"),
     ("Microsoft.AspNetCore", .string "Warning")])]),
   ("AllowedHosts", .string "*")]

/-- The document of the settings. -/
def document (s : Settings) : Value :=
  .object (fixedMembers ++
    [("ConnectionStrings", .object [("DefaultConnection", .string s.connection)]),
     ("Application", s.application)])

/-! ## The text of the document -/

theorem toList_text (t : String) : (Value.string t).text.toList = quoted t :=
  String.toList_ofList

theorem indented_string (level : Nat) (t : String) :
    (Value.string t).indented level = quoted t := by
  cases level <;> rfl

theorem toList_entryText (p : String × String) (isLast : Bool) :
    '\n' :: (entryText p isLast).toList = Value.lineBreak 3 ++ quoted p.1 ++
      ':' :: ' ' :: (quoted p.2 ++ ((if isLast then [] else [',']) ++ ['\n'])) := by
  unfold entryText
  simp only [String.toList_append, toList_text, List.append_assoc]
  cases isLast <;> rfl

/-- The lines of settings are the members of an object. -/
theorem indentedMembers_entries (p : String × String) (rest : Keyed String) :
    '\n' :: (eachText entryText (p :: rest)).toList =
      Value.indentedMembers 3 (Keyed.mapValues Value.string (p :: rest)) ++ ['\n'] := by
  induction rest generalizing p with
  | nil =>
      rw [eachText, eachText, String.append_empty, toList_entryText]
      change _ = Value.indentedMembers 3 [(p.1, Value.string p.2)] ++ ['\n']
      rw [Value.indentedMembers_one, indented_string]
      simp only [List.isEmpty_nil, if_true, List.append_assoc, List.cons_append, List.nil_append]
  | cons q rest ih =>
      rw [eachText, String.toList_append, ← List.cons_append, toList_entryText]
      change _ = Value.indentedMembers 3 ((p.1, Value.string p.2) :: (q.1, .string q.2) ::
        Keyed.mapValues Value.string rest) ++ ['\n']
      rw [Value.indentedMembers_more, indented_string]
      simp only [List.isEmpty_cons, Bool.false_eq_true, if_false, List.append_assoc,
        List.cons_append, List.nil_append]
      rw [ih q]
      rfl

theorem indented_entries (p : String × String) (rest : Keyed String) :
    (Value.ofStringMap (p :: rest)).indented 2 =
      '\x7b' :: '\n' :: ((eachText entryText (p :: rest)).toList ++ "    \x7d".toList) := by
  have hclose : Value.lineBreak 2 ++ ['\x7d'] = ['\n'] ++ "    \x7d".toList := by decide
  change (Value.object ((p.1, .string p.2) :: Keyed.mapValues Value.string rest)).indented 2 = _
  rw [Value.indented_object, List.append_assoc, hclose, ← List.append_assoc]
  exact congrArg (fun cs => '\x7b' :: (cs ++ "    \x7d".toList))
    (indentedMembers_entries p rest).symm

theorem quoted_connection (s : Settings) : quoted s.connection =
    '"' :: ("Server=localhost;Database=".toList ++ (s.project.toList.flatMap escapeChar ++
      (";Trusted_Connection=True;TrustServerCertificate=True".toList ++ ['"']))) := by
  have hserver : "Server=localhost;Database=".toList.flatMap escapeChar =
      "Server=localhost;Database=".toList :=
    flatMap_escapeChar_eq_self.mpr (List.all_iff_forall_prop.mp (by decide))
  have htrusted : ";Trusted_Connection=True;TrustServerCertificate=True".toList.flatMap escapeChar =
      ";Trusted_Connection=True;TrustServerCertificate=True".toList :=
    flatMap_escapeChar_eq_self.mpr (List.all_iff_forall_prop.mp (by decide))
  unfold quoted connection
  simp only [String.toList_append, List.flatMap_append, hserver, htrusted, List.append_assoc]

/-- The members of what the application is, at their depth. -/
theorem indented_application (s : Settings) : s.application.indented 1 =
    '\x7b' :: '\n' :: ("    \"Name\": ".toList ++ (quoted s.name ++ (",\n    \"Entity\": ".toList ++
      (quoted s.entity ++ (",\n    \"GeneratedAt\": ".toList ++ (quoted s.stamp ++
        ((if s.entries.isEmpty then []
          else ",\n    \"Settings\": \x7b\n".toList ++
            ((eachText entryText s.entries).toList ++ "    \x7d".toList)) ++
              "\n  \x7d".toList))))))) := by
  have hname (cs : List Char) : Value.lineBreak 2 ++ (quoted "Name" ++ ':' :: ' ' :: cs) =
      '\n' :: ("    \"Name\": ".toList ++ cs) := rfl
  have hentity (cs : List Char) :
      ',' :: (Value.lineBreak 2 ++ (quoted "Entity" ++ ':' :: ' ' :: cs)) =
        ",\n    \"Entity\": ".toList ++ cs := rfl
  have hstamp (cs : List Char) :
      ',' :: (Value.lineBreak 2 ++ (quoted "GeneratedAt" ++ ':' :: ' ' :: cs)) =
        ",\n    \"GeneratedAt\": ".toList ++ cs := rfl
  have hsettings (cs : List Char) :
      ',' :: (Value.lineBreak 2 ++ (quoted "Settings" ++ ':' :: ' ' :: '\x7b' :: '\n' :: cs)) =
        ",\n    \"Settings\": \x7b\n".toList ++ cs := rfl
  have hclose : Value.lineBreak 1 ++ ['\x7d'] = "\n  \x7d".toList := rfl
  unfold application
  cases hentries : s.entries with
  | nil =>
      simp only [List.isEmpty_nil, if_true, List.append_nil, Value.indented_object,
        Value.indentedMembers_more, Value.indentedMembers_one, indented_string, List.append_assoc,
        List.cons_append, List.nil_append, Nat.reduceAdd, hname, hentity, hstamp, hclose]
  | cons p rest =>
      simp only [List.isEmpty_cons, Bool.false_eq_true, if_false, List.cons_append,
        List.nil_append, Value.indented_object, Value.indentedMembers_more,
        Value.indentedMembers_one, indented_string, Nat.reduceAdd, indented_entries,
        List.append_assoc, hname, hentity, hstamp, hsettings, hclose]

set_option maxRecDepth 4000 in
theorem toList_beforeProject (cs : List Char) :
    '\x7b' :: (Value.indentedMembers 1 fixedMembers ++ ',' :: (Value.lineBreak 1 ++
      (quoted "ConnectionStrings" ++ ':' :: ' ' :: '\x7b' :: (Value.lineBreak 2 ++
        (quoted "DefaultConnection" ++ ':' :: ' ' :: '"' ::
          ("Server=localhost;Database=".toList ++ cs)))))) = beforeProject.toList ++ cs := by
  unfold beforeProject
  simp only [String.toList_append, List.append_assoc]
  rfl

theorem toList_beforeName (cs : List Char) :
    ";Trusted_Connection=True;TrustServerCertificate=True".toList ++
      '"' :: (Value.lineBreak 1 ++ '\x7d' :: ',' :: (Value.lineBreak 1 ++
        (quoted "Application" ++
          ':' :: ' ' :: '\x7b' :: '\n' :: ("    \"Name\": ".toList ++ cs)))) =
      beforeName.toList ++ cs := by
  have hparts : beforeName = ";Trusted_Connection=True;TrustServerCertificate=True" ++
      "\"\n  \x7d,\n  \"Application\": \x7b\n    \"Name\": " := by decide
  rw [hparts, String.toList_append, List.append_assoc]
  exact congrArg (_ ++ ·) rfl

/-- The file behind the name of the project. -/
def afterProject (s : Settings) : List Char :=
  beforeName.toList ++ (quoted s.name ++ (",\n    \"Entity\": ".toList ++ (quoted s.entity ++
    (",\n    \"GeneratedAt\": ".toList ++ (quoted s.stamp ++
      ((if s.entries.isEmpty then []
        else ",\n    \"Settings\": \x7b\n".toList ++
          ((eachText entryText s.entries).toList ++ "    \x7d".toList)) ++
        "\n  \x7d\n\x7d\n".toList))))))

theorem toList_settings (s : Settings) :
    s.text.toList = beforeProject.toList ++ (s.project.toList ++ s.afterProject) := by
  have hentries : (if s.entries.isEmpty then ""
      else ",\n    \"Settings\": \x7b\n" ++ eachText entryText s.entries ++ "    \x7d").toList =
      if s.entries.isEmpty then []
      else ",\n    \"Settings\": \x7b\n".toList ++
        ((eachText entryText s.entries).toList ++ "    \x7d".toList) := by
    split
    · rfl
    · rw [String.toList_append, String.toList_append, List.append_assoc]
  unfold text afterProject
  simp only [String.toList_append, toList_text, List.append_assoc, hentries]

/-- The document has the name of the project in its escaped form, and else the text of the file. -/
theorem indented_document (s : Settings) : s.document.indented 0 ++ ['\n'] =
    beforeProject.toList ++ (s.project.toList.flatMap escapeChar ++ s.afterProject) := by
  have hmembers : Value.indentedMembers 1 (fixedMembers ++
      [("ConnectionStrings", .object [("DefaultConnection", .string s.connection)]),
       ("Application", s.application)]) =
      Value.indentedMembers 1 fixedMembers ++ ',' ::
        Value.indentedMembers 1 [("ConnectionStrings",
          .object [("DefaultConnection", .string s.connection)]), ("Application", s.application)] :=
    rfl
  have hdocument : s.document.indented 0 =
      '\x7b' :: (Value.indentedMembers 1 fixedMembers ++ ',' ::
        Value.indentedMembers 1 [("ConnectionStrings",
          .object [("DefaultConnection", .string s.connection)]), ("Application", s.application)] ++
        Value.lineBreak 0 ++ ['\x7d']) :=
    congrArg (fun cs => '\x7b' :: (cs ++ Value.lineBreak 0 ++ ['\x7d'])) hmembers
  have hclose : "\n  \x7d".toList ++ (Value.lineBreak 0 ++ ['\x7d', '\n']) =
      "\n  \x7d\n\x7d\n".toList := rfl
  rw [hdocument, Value.indentedMembers_more, Value.indentedMembers_one, Value.indented_object,
    Value.indentedMembers_one, indented_string, quoted_connection, indented_application]
  simp only [List.append_assoc, List.cons_append, List.nil_append, hclose]
  rw [toList_beforeProject, toList_beforeName]
  rfl

/-- The file is the indented text of the document if the name of the project needs no escape, and
only then. -/
theorem text_eq_iff (s : Settings) : s.text = s.document.prettyText ++ "\n" ↔
    ∀ c ∈ s.project.toList, IsVerbatim c := by
  have hpretty : (s.document.prettyText ++ "\n").toList =
      beforeProject.toList ++ (s.project.toList.flatMap escapeChar ++ s.afterProject) := by
    rw [← indented_document, String.toList_append]
    exact congrArg (· ++ ['\n']) String.toList_ofList
  rw [← String.toList_inj, hpretty, toList_settings, List.append_cancel_left_eq,
    List.append_cancel_right_eq, ← flatMap_escapeChar_eq_self]
  exact eq_comm

/-- The document is read from the file. -/
theorem read_text (s : Settings) (h : ∀ c ∈ s.project.toList, IsVerbatim c) :
    read s.text = .ok s.document := by
  have happlication : s.application.isPlain (depthLimit - 1) = true := by
    refine Value.isPlain_object (by decide) fun member hmember => ?_
    rcases List.mem_append.mp hmember with hnames | hsettings
    · simp only [List.mem_cons, List.not_mem_nil, or_false] at hnames
      rcases hnames with rfl | rfl | rfl <;> exact Value.isPlain_string _ _
    · split at hsettings
      · cases hsettings
      · obtain rfl := List.mem_singleton.mp hsettings
        exact Value.isPlain_ofStringMap (by decide) _
  have hplain : s.document.isPlain depthLimit = true := by
    refine Value.isPlain_object (by decide) fun member hmember => ?_
    rcases List.mem_append.mp hmember with hfixed | hown
    · have hall : ∀ member ∈ fixedMembers, member.2.isPlain (depthLimit - 1) = true := by decide
      exact hall member hfixed
    · simp only [List.mem_cons, List.not_mem_nil, or_false] at hown
      rcases hown with rfl | rfl
      · exact Value.isPlain_ofStringMap (by decide) [("DefaultConnection", s.connection)]
      · exact happlication
  -- a name without escapes is written as it is, so the text is that of the printed document
  rw [s.text_eq_iff.mpr h]
  exact read_prettyText hplain (isBlank_lineBreak 0)

theorem connectionValue_connection (s : Settings) (h : IsBare s.project) :
    connectionValue? "Database" s.connection = some s.project := by
  have hconnection : s.connection.toList = [';'].intercalate
      ["Server=localhost".toList, "Database=".toList ++ s.project.toList,
       "Trusted_Connection=True".toList, "TrustServerCertificate=True".toList] := by
    unfold connection
    simp only [String.toList_append, List.intercalate_cons_cons, List.intercalate_singleton,
      List.append_assoc]
    rfl
  have hsplit : s.connection.toList.splitOn ';' =
      ["Server=localhost".toList, "Database=".toList ++ s.project.toList,
       "Trusted_Connection=True".toList, "TrustServerCertificate=True".toList] := by
    rw [hconnection]
    exact List.splitOn_intercalate ';' (by simp [h.unsplit]) (List.cons_ne_nil _ _)
  unfold connectionValue?
  rw [hsplit]
  -- the first part has the server, the second the database
  have hserver : (Text.trim ("Server=localhost".toList.takeWhile (· != '=')) == "Database".toList) =
      false := by decide
  have hkey : ("Database=".toList ++ s.project.toList).takeWhile (· != '=') = "Database".toList :=
    rfl
  have hdatabase : (Text.trim "Database".toList == "Database".toList) = true := by decide
  have hvalue : (("Database=".toList ++ s.project.toList).dropWhile (· != '=')).drop 1 =
      s.project.toList := rfl
  rw [List.find?_cons, hserver, List.find?_cons, hkey, hdatabase]
  simp only [Option.bind_some, hvalue]
  exact bareValue?_of_isBare h

theorem at?_settings (s : Settings) : s.document.at? ["Application", "Settings"] =
    if s.entries.isEmpty then none else some (.ofStringMap s.entries) := by
  change (s.application.member? "Settings").bind some = _
  unfold application
  split <;> rfl

end Settings

/-! ## Options -/

theorem renders_settings (world : Functions.World) (m : Model) :
    Renders world "app_settings" m (Settings.ofModel m).text :=
  Settings.plain_settings (m.seen_given world.now) ▸ renders_of_reads
    (mem_sources_of_entry "deployment/appsettings.json.tera" (by decide) rfl)
    reads_settings world m

/-- The file of settings of every form under all options at all times.  If the name of the project
needs no escape, the file is a JSON document with the names of the application and the entity, and
with the custom settings if there are any.  Its connection names the project as the database if the
name is its own bare value. -/
theorem settings_document (form : FormDefinition) (options : GenerationOptions)
    (now : Calendar.Instant) (world : Functions.World) :
    Renders world "app_settings" (Model.build form options now)
      (Settings.ofModel (Model.build form options now)).text ∧
    ((∀ c ∈ options.projectName.toList, IsVerbatim c) →
      ∃ document, read (Settings.ofModel (Model.build form options now)).text = .ok document ∧
        document.at? ["Application", "Name"] =
          some (.string (Model.build form options now).projectNamespace) ∧
        document.at? ["Application", "Entity"] =
          some (.string (Model.build form options now).entityName) ∧
        document.at? ["Application", "Settings"] =
          (if options.customSettings.isEmpty then none
            else some (.ofStringMap (Keyed.ofPairs options.customSettings))) ∧
        ∃ connection,
          document.at? ["ConnectionStrings", "DefaultConnection"] = some (.string connection) ∧
          (IsBare options.projectName →
            connectionValue? "Database" connection = some options.projectName)) := by
  refine ⟨renders_settings world _, fun hproject => ?_⟩
  refine ⟨_, Settings.read_text _ hproject, rfl, rfl, ?_, _, rfl, fun hbare =>
    Settings.connectionValue_connection _ hbare⟩
  rw [Settings.at?_settings, ← Keyed.isEmpty_ofPairs options.customSettings]
  rfl

/-- A form with one text. -/
def noteForm : FormDefinition :=
  ⟨none, none, [⟨"note", "text", false, none, none, none, none, none, none, []⟩]⟩

/-- Options of a project with a space in its name and a setting with quotes. -/
def themedOptions : GenerationOptions :=
  { GenerationOptions.bare "Lead desk" with
    deployment := true
    projectNamespace := some "Lead\"Desk"
    customSettings := [("theme", "\"dark\"\\")] }

theorem themedOptions_document :
    (∀ c ∈ themedOptions.projectName.toList, IsVerbatim c) ∧ IsBare themedOptions.projectName ∧
    ∃ document, read (Settings.ofModel (Model.build noteForm themedOptions ⟨0, 0⟩)).text =
        .ok document ∧
      document.at? ["Application", "Name"] = some (.string "Lead\"Desk") ∧
      document.at? ["Application", "Settings"] =
        some (.ofStringMap [("theme", "\"dark\"\\")]) ∧
      ∃ connection,
        document.at? ["ConnectionStrings", "DefaultConnection"] = some (.string connection) ∧
        connectionValue? "Database" connection = some "Lead desk" := by
  have hverbatim : ∀ c ∈ themedOptions.projectName.toList, IsVerbatim c :=
    List.all_iff_forall_prop.mp (by decide)
  have hbare : IsBare themedOptions.projectName := ⟨by decide, by decide, by decide⟩
  obtain ⟨document, hread, hname, -, hsettings, connection, hconnection, hdatabase⟩ :=
    (settings_document noteForm themedOptions ⟨0, 0⟩ ⟨⟨0, 0⟩, []⟩).2 hverbatim
  exact ⟨hverbatim, hbare, document, hread, hname, hsettings, connection, hconnection,
    hdatabase hbare⟩

/-- Options with a quote in the name of the project. -/
def quotingOptions : GenerationOptions :=
  { GenerationOptions.bare "a\"b" with deployment := true }

/-- The form and the options are accepted, and the file of settings is no JSON document. -/
theorem quotingOptions_unreadable : noteForm.validate = .ok () ∧ quotingOptions.validate = .ok () ∧
    Renders ⟨⟨0, 0⟩, []⟩ "app_settings" (Model.build noteForm quotingOptions ⟨0, 0⟩)
      (Settings.ofModel (Model.build noteForm quotingOptions ⟨0, 0⟩)).text ∧
    ∀ document,
      read (Settings.ofModel (Model.build noteForm quotingOptions ⟨0, 0⟩)).text ≠ .ok document := by
  refine ⟨by decide, by decide, renders_settings _ _, fun document hread => ?_⟩
  obtain ⟨rest, hvalue⟩ := readValue_of_read hread
  rw [Settings.toList_settings, ← Settings.toList_beforeProject] at hvalue
  have hok : Except.isOk _ = true := congrArg Except.isOk hvalue
  exact absurd hok (by decide +kernel)

end FormScaffold
