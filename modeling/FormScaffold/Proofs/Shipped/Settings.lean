import FormScaffold.Proofs.Shipped.FieldLoops
import FormScaffold.Proofs.Shipped.ValueRules
import FormScaffold.Shipped.Deployment

/-!
# Application settings

The file of settings: where the database is, and what the application is and is set to.  Its names
and settings are put as JSON texts, and the name of the database as it is.
-/

namespace FormScaffold

open Template Json Shipped

/-! ## The template -/

namespace Shipped

/-- The JSON text of what a path stands for. -/
abbrev encode (path : String) : Node :=
  .print (.mk (.name path) false [.mk "json_encode" []])

/-- The line of a setting. -/
abbrev settingNodes : List Node :=
  [.text "      ", encode "key", .text ": ", encode "value",
   provided (lacking "loop.last") [.text ","], .text "\n"]

/-- The file up to the name of the database. -/
def beforeProject : String :=
  "\x7b\n  \"Logging\": \x7b\n    \"LogLevel\": \x7b\n" ++
    "      \"Default\": \"Information\",\n      \"Microsoft.AspNetCore\": \"Warning\"\n" ++
    "    \x7d\n  \x7d,\n  \"AllowedHosts\": \"*\",\n  \"ConnectionStrings\": \x7b\n" ++
    "    \"DefaultConnection\": \"Server=localhost;Database="

/-- The file between the names of the database and of the application. -/
def beforeName : String :=
  ";Trusted_Connection=True;TrustServerCertificate=True\"\n  \x7d,\n" ++
    "  \"Application\": \x7b\n    \"Name\": "

/-- The nodes of the file of settings. -/
def settingsNodes : List Node :=
  [.text beforeProject,
   put "project_name",
   .text beforeName,
   encode "namespace", .text ",\n    \"Entity\": ", encode "entity_name",
   .text ",\n    \"GeneratedAt\": ", encode "generated_at",
   provided (someOf "custom_settings")
    [.text ",\n    \"Settings\": \x7b\n",
     .loop (some "key") "value" (valueOf "custom_settings") settingNodes none, .text "    \x7d"],
   .text "\n  \x7d\n\x7d\n"]

set_option maxRecDepth 100000 in
theorem reads_settings : Node.ofText? appsettingsJson = some settingsNodes := by
  unfold appsettingsJson
  apply reads_of_spells
  · repeat' first | exact Spells.nil | apply Spells.cons
  · unfold settingsNodes beforeProject beforeName
    repeat'
      first
      | exact JoinedNodes.nil
      | apply JoinedNodes.text
      | apply JoinedNodes.other
      | apply Joined.append
      | exact Joined.one
  · rfl

variable {b : Bindings} {path s : String}

theorem plain_encode (h : b.get path = .string s) :
    (encode path).plain b = (Value.string s).text := by
  rw [Node.plain_print, plain_filtered, h, plain_encoded, valueText]

end Shipped

/-! ## The file -/

/-- The settings of an application. -/
structure Settings where
  project : String
  name : String
  entity : String
  stamp : String
  entries : Keyed String

namespace Settings

/-- The settings of a model. -/
def ofModel (m : Model) : Settings :=
  { project := m.projectName
    name := m.projectNamespace
    entity := m.entityName
    stamp := m.generatedAt
    entries := Keyed.ofPairs m.customSettings }

/-- The line of a setting. -/
def entryText (p : String × String) (isLast : Bool) : String :=
  "      " ++ (Value.string p.1).text ++ ": " ++ (Value.string p.2).text ++
    (if isLast then "" else ",") ++ "\n"

/-- The written form of the settings. -/
def text (s : Settings) : String :=
  beforeProject ++ s.project ++ beforeName ++ (Value.string s.name).text ++
  ",\n    \"Entity\": " ++ (Value.string s.entity).text ++ ",\n    \"GeneratedAt\": " ++
  (Value.string s.stamp).text ++
  (if s.entries.isEmpty then ""
    else ",\n    \"Settings\": \x7b\n" ++ eachText entryText s.entries ++ "    \x7d") ++
  "\n  \x7d\n\x7d\n"

theorem plain_entries (b : Bindings) (n : Nat) (entries : Keyed String) :
    plainRounds (plainNodes settingNodes) (some "key") "value" b n
      (Keyed.mapValues Value.string entries) = eachText entryText entries := by
  unfold Keyed.mapValues
  induction entries generalizing n with
  | nil => rfl
  | cons p rest ih =>
      rw [List.map_cons, plainRounds, ih, eachText, List.isEmpty_map]
      generalize hinner :
        roundBindings (some "key") "value" n rest.isEmpty (p.1, .string p.2) ++ b = inner
      have hkey : inner.get "key" = .string p.1 := by rw [← hinner]; rfl
      have hvalue : inner.get "value" = .string p.2 := by rw [← hinner]; rfl
      have hlast : inner.get "loop.last" = .bool rest.isEmpty := by rw [← hinner]; rfl
      unfold entryText
      cases hrest : rest.isEmpty <;>
        simp [plain_encode hkey, plain_encode hvalue, hlast, hrest, String.append_assoc]

theorem plain_settings {m : Model} {b : Bindings} (h : m.Seen b) :
    plainNodes settingsNodes b = (ofModel m).text := by
  have hentries : (provided (someOf "custom_settings")
      [.text ",\n    \"Settings\": \x7b\n",
       .loop (some "key") "value" (valueOf "custom_settings") settingNodes none,
       .text "    \x7d"]).plain b =
      if (ofModel m).entries.isEmpty then ""
      else
        ",\n    \"Settings\": \x7b\n" ++ eachText entryText (ofModel m).entries ++ "    \x7d" := by
    have hloop :
        (Node.loop (some "key") "value" (valueOf "custom_settings") settingNodes none).plain b =
          eachText entryText (ofModel m).entries := by
      rw [Node.plain, plain_valueOf, h.settings]
      exact plain_entries b 0 _
    rw [plain_provided, holds_someOf_object h.settings]
    have hisEmpty : (ofModel m).entries.isEmpty = (Keyed.ofPairs m.customSettings).isEmpty := rfl
    rw [Keyed.mapValues, List.isEmpty_map, hisEmpty]
    cases (Keyed.ofPairs m.customSettings).isEmpty <;> simp [hloop, String.append_assoc]
  unfold text
  simp [settingsNodes, plain_encode h.projectNamespace, plain_encode h.entityName,
    plain_encode h.generatedAt, hentries, h.projectName, ofModel, String.append_assoc]

end Settings

end FormScaffold
