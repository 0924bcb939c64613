import FormScaffold.Proofs.Output.Listing
import FormScaffold.Proofs.Pipeline.ShippedRuns
import FormScaffold.Proofs.Shipped.FrontendFiles

/-!
# Imports of the frontend

A component starts with a comment and its imports, one to a line.  A relative import leads from the
folder of the file that has it to another file, which must export what is imported.  The names of
the files, the folders of the layout and the texts of the four templates are given in different
places; they fit together for every entity, since no entity's name has a mark that ends a name or a
line in any of them.
-/

namespace FormScaffold.Rules

open Template Shipped

/-! ## Imports and exports -/

/-- Names that a file gets from another. -/
structure Import where
  isType : Bool
  names : List String
  source : String
  deriving DecidableEq

/-- The line that declares an import. -/
def Import.text (i : Import) : String :=
  "import " ++ (if i.isType then "type " else "") ++ "\x7b " ++ String.intercalate ", " i.names ++
    " \x7d from \"" ++ i.source ++ "\";"

/-- The names in a list with commas. -/
def namesIn (cs : List Char) : List String :=
  ((cs.splitOnP fun c => c == ' ' || c == ',').filter fun name => !name.isEmpty).map String.ofList

/-- The import that a line declares. -/
def importOf? (line : List Char) : Option Import := do
  let rest ← Text.afterPrefix? "import ".toList line
  let (isType, rest) :=
    match Text.afterPrefix? "type ".toList rest with
    | some rest => (true, rest)
    | none => (false, rest)
  let rest ← Text.afterPrefix? ['\x7b'] rest
  let (names, rest) ← Text.cut? ['\x7d'] rest
  let rest ← Text.afterPrefix? " from \"".toList rest
  let (source, rest) ← Text.cut? ['"'] rest
  if rest = [';'] then some ⟨isType, namesIn names, String.ofList source⟩ else none

/-- A line is a comment. -/
def isComment (line : List Char) : Bool := "//".toList.isPrefixOf line

/-- The imports that lines start with, comments apart. -/
def leadingImports : List (List Char) → List Import
  | [] => []
  | line :: rest =>
      if isComment line then leadingImports rest
      else
        match importOf? line with
        | some i => i :: leadingImports rest
        | none => []

/-- The imports of a file, all of which stand at its start. -/
def importsOf (text : String) : List Import := leadingImports (text.toList.splitOn '\n')

/-- The name that a line exports. -/
def exportOf? (line : List Char) : Option String := do
  let rest ← Text.afterPrefix? "export ".toList line
  let (keyword, rest) ← Text.cut? [' '] rest
  let (name, _) ← Text.cut? [' '] rest
  if String.ofList keyword ∈ ["const", "interface", "type"] then some (String.ofList name) else none

/-- The names that a file exports. -/
def exportsOf (text : String) : List String := (text.toList.splitOn '\n').filterMap exportOf?

/-- The source of an import is a path from the folder of the file that has it. -/
def Import.isRelative (i : Import) : Bool := i.source.toList.head? == some '.'

/-- An import gets one name, and neither that nor the source has a mark that ends it. -/
structure Import.GetsOne (i : Import) (name : String) : Prop where
  names : i.names = [name]
  given : name.toList ≠ []
  nameMarks : ∀ k ∈ Text.marks, k ∉ name.toList
  sourceMarks : '"' ∉ i.source.toList ∧ '\n' ∉ i.source.toList

theorem namesIn_one {name : List Char} (hgiven : name ≠ []) (hblank : ' ' ∉ name)
    (hcomma : ',' ∉ name) : namesIn (' ' :: (name ++ [' '])) = [String.ofList name] := by
  have hname : ∀ c ∈ name, (c == ' ' || c == ',') = false := by
    intro c hc
    simp only [Bool.or_eq_false_iff, beq_eq_false_iff_ne]
    exact ⟨fun h => hblank (h ▸ hc), fun h => hcomma (h ▸ hc)⟩
  -- the blanks on both sides of the name leave an empty piece each
  have hsplit : (' ' :: (name ++ [' '])).splitOnP (fun c => c == ' ' || c == ',') =
      [[], name, []] := by
    rw [← List.nil_append (' ' :: _),
      List.splitOnP_append_cons_of_forall_mem (List.forall_mem_nil _) ' ' (by decide),
      List.splitOnP_append_cons_of_forall_mem hname ' ' (by decide), List.splitOnP_nil]
  unfold namesIn
  rw [hsplit]
  simp [hgiven]

theorem Import.text_one (isType : Bool) (name source : String) :
    (Import.mk isType [name] source).text =
      "import " ++ (if isType then "type " else "") ++ "\x7b " ++ name ++ " \x7d from \"" ++
        source ++ "\";" := rfl

theorem Import.GetsOne.toList_text {i : Import} {name : String} (h : i.GetsOne name) :
    i.text.toList = "import ".toList ++ ((if i.isType then "type ".toList else []) ++
      ('\x7b' :: (' ' :: (name.toList ++ [' ']) ++ '\x7d' ::
        (" from \"".toList ++ (i.source.toList ++ ['"', ';']))))) := by
  obtain ⟨isType, names, source⟩ := i
  obtain rfl : names = [name] := h.names
  rw [Import.text_one]
  simp only [String.toList_append, List.append_assoc, List.cons_append, apply_ite String.toList]
  rfl

theorem Import.GetsOne.read {i : Import} {name : String} (h : i.GetsOne name) :
    importOf? i.text.toList = some i := by
  have hnames : namesIn (' ' :: (name.toList ++ [' '])) = i.names := by
    rw [h.names, namesIn_one h.given (h.nameMarks _ (by decide)) (h.nameMarks _ (by decide)),
      String.ofList_toList]
  have hclose : '\x7d' ∉ ' ' :: (name.toList ++ [' ']) := by
    simp [h.nameMarks '\x7d' (by decide)]
  -- behind the keyword both kinds of import are read alike
  have hrest : ∀ isType : Bool, (do
      let (names, rest) ← Text.cut? ['\x7d'] (' ' :: (name.toList ++ [' ']) ++ '\x7d' ::
        (" from \"".toList ++ (i.source.toList ++ ['"', ';'])))
      let rest ← Text.afterPrefix? " from \"".toList rest
      let (source, rest) ← Text.cut? ['"'] rest
      if rest = [';'] then some (Import.mk isType (namesIn names) (String.ofList source))
      else none) =
      some ⟨isType, i.names, i.source⟩ := by
    intro isType
    rw [Text.cut?_first hclose]
    simp only [Option.bind_eq_bind, Option.bind_some, Text.afterPrefix?_append,
      Text.cut?_first h.sourceMarks.1, hnames, String.ofList_toList, if_true]
  rw [h.toList_text]
  unfold importOf?
  rw [Text.afterPrefix?_append]
  obtain ⟨isType, names, source⟩ := i
  cases isType
  · exact hrest false
  · simp only [Option.bind_eq_bind, Option.bind_some, if_true, Text.afterPrefix?_append]
    exact hrest true

theorem Import.GetsOne.line {i : Import} {name : String} (h : i.GetsOne name) :
    '\n' ∉ i.text.toList := by
  rw [h.toList_text]
  have hname := h.nameMarks '\n' (by decide)
  have hsource := h.sourceMarks.2
  cases i.isType <;> simp [hname, hsource]

theorem Import.GetsOne.not_comment {i : Import} {name : String} (h : i.GetsOne name) :
    isComment i.text.toList = false := by
  rw [h.toList_text]
  rfl

/-- What a file starts with: a comment, imports and an empty line. -/
def fileHead (comment : String) (imports : List Import) : String :=
  ofLines (comment :: imports.map Import.text ++ [""])

/-- Lines are read as imports up to an empty one. -/
theorem leadingImports_lines {imports : List Import} (h : ∀ i ∈ imports, ∃ name, i.GetsOne name)
    (rest : List (List Char)) :
    leadingImports ((imports.map Import.text).map String.toList ++ [] :: rest) = imports := by
  induction imports with
  | nil => rfl
  | cons i is ih =>
      obtain ⟨name, hi⟩ := h i List.mem_cons_self
      rw [List.map_cons, List.map_cons, List.cons_append, leadingImports, hi.not_comment,
        if_neg Bool.false_ne_true, hi.read, ih fun i hi => h i (List.mem_cons_of_mem _ hi)]

theorem importsOf_fileHead {comment : String} {imports : List Import}
    (hcomment : isComment comment.toList = true) (hline : '\n' ∉ comment.toList)
    (himports : ∀ i ∈ imports, ∃ name, i.GetsOne name) (rest : String) :
    importsOf (fileHead comment imports ++ rest) = imports := by
  have hlines : ∀ line ∈ comment :: imports.map Import.text ++ [""], '\n' ∉ line.toList := by
    intro line hmem
    rcases List.mem_append.mp hmem with hmem | hmem
    · rcases List.mem_cons.mp hmem with rfl | hmem
      · exact hline
      · obtain ⟨i, hi, rfl⟩ := List.mem_map.mp hmem
        obtain ⟨name, hone⟩ := himports i hi
        exact hone.line
    · rw [List.mem_singleton.mp hmem]
      exact List.not_mem_nil
  unfold importsOf fileHead
  rw [String.toList_append, ofLines, Text.splitOn_lines hlines, List.map_append, List.map_cons,
    List.append_assoc, List.cons_append, leadingImports, hcomment, if_pos rfl]
  exact leadingImports_lines himports _

/-- A line of a text is read as the export that it is. -/
theorem exportOf?_line {keyword name : String} (hkeyword : keyword ∈ ["const", "interface", "type"])
    (hname : ' ' ∉ name.toList) (behind : List Char) :
    exportOf? ("export ".toList ++ (keyword.toList ++ ' ' :: (name.toList ++ ' ' :: behind))) =
      some name := by
  have hblank : ∀ keyword ∈ ["const", "interface", "type"], ' ' ∉ keyword.toList := by decide
  unfold exportOf?
  rw [Text.afterPrefix?_append]
  simp only [Option.bind_eq_bind, Option.bind_some, Text.cut?_first (hblank _ hkeyword),
    Text.cut?_first hname, String.ofList_toList, if_pos hkeyword]

theorem splitOn_append {l : List Char} (h : '\n' ∉ l) (cs : List Char) :
    ∃ first rest, (l ++ cs).splitOn '\n' = (l ++ first) :: rest := by
  induction l with
  | nil =>
      obtain ⟨first, rest, hcs⟩ := List.exists_cons_of_ne_nil (List.splitOn_ne_nil '\n' cs)
      exact ⟨first, rest, hcs⟩
  | cons c l ih =>
      obtain ⟨hc, hl⟩ := not_or.mp (mt List.mem_cons.mpr h)
      obtain ⟨first, rest, hrest⟩ := ih hl
      refine ⟨first, rest, ?_⟩
      rw [List.cons_append, List.splitOn_cons_eq_if_modifyHead, if_neg (by simpa using Ne.symm hc),
        hrest]
      rfl

/-- The start of a line that declares a name and exports it. -/
def exportMark (keyword name : String) : List Char :=
  ("\nexport " ++ keyword ++ " " ++ name ++ " ").toList

/-- A text exports the name of a declaration that starts one of its lines. -/
theorem mem_exportsOf {text keyword name : String}
    (hkeyword : keyword ∈ ["const", "interface", "type"])
    (hname : ∀ k ∈ Text.marks, k ∉ name.toList) (h : exportMark keyword name <:+: text.toList) :
    name ∈ exportsOf text := by
  have hbreak : ∀ keyword ∈ ["const", "interface", "type"], '\n' ∉ keyword.toList := by decide
  have hline : '\n' ∉ "export ".toList ++ (keyword.toList ++ ' ' :: (name.toList ++ [' '])) := by
    simp [hbreak _ hkeyword, hname '\n' (by decide)]
  have hmark : exportMark keyword name =
      '\n' :: ("export ".toList ++ (keyword.toList ++ ' ' :: (name.toList ++ [' ']))) := by
    unfold exportMark
    simp only [String.toList_append, List.append_assoc]
    rfl
  obtain ⟨before, after, htext⟩ := h
  -- the mark starts a line, which goes on behind the name up to the next break
  obtain ⟨first, rest, hsplit⟩ := splitOn_append hline after
  unfold exportsOf
  rw [← htext, hmark, List.append_assoc, List.cons_append, List.splitOn_append_cons_self, hsplit]
  refine List.mem_filterMap.mpr ⟨_, List.mem_append_right _ List.mem_cons_self, ?_⟩
  simpa using exportOf?_line hkeyword (hname ' ' (by decide)) first

/-- A declaration between a text that ends in its keyword and one that starts as its name ends. -/
theorem exportMark_infix (keyword stem ending : String) {before after : List Char}
    (hbefore : ("\nexport " ++ keyword ++ " ").toList <:+ before)
    (hafter : (ending ++ " ").toList <+: after) :
    exportMark keyword (stem ++ ending) <:+: before ++ (stem.toList ++ after) := by
  obtain ⟨start, rfl⟩ := hbefore
  obtain ⟨rest, rfl⟩ := hafter
  refine ⟨start, rest, ?_⟩
  unfold exportMark
  simp only [String.toList_append, List.append_assoc]

/-! ## Components -/

/-- What a form gets from packages. -/
def packageImports : List Import :=
  [⟨false, ["useForm"], "react-hook-form"⟩, ⟨false, ["zodResolver"], "@hookform/resolvers/zod"⟩]

/-- What the form component of a model imports. -/
def formImports (m : Model) : List Import :=
  packageImports ++
    [⟨false, [m.entityNameCamel ++ "Schema"], "../validation/" ++ m.entityName ++ ".schema"⟩,
     ⟨true, [m.entityName ++ "FormValues"], "../types/" ++ m.entityName ++ ".types"⟩]

/-- What the list component of a model imports. -/
def listImports (m : Model) : List Import :=
  [⟨true, [m.entityName], "../types/" ++ m.entityName ++ ".types"⟩]

/-- The comment at the start of a file. -/
def stampComment (m : Model) : String := "// Generated by formgen on " ++ m.generatedAt

/-- The nodes that a form component starts with. -/
def formHead : List Node :=
  [.text "// Generated by formgen on ", put "generated_at",
   .text ("\n" ++ ofLines (packageImports.map Import.text) ++ "import \x7b "),
   put "entity_name_camel", .text ("Schema" ++ " \x7d from \"" ++ "../validation/"),
   put "entity_name",
   .text (".schema" ++ "\";\n" ++ "import type \x7b "), put "entity_name",
   .text ("FormValues" ++ " \x7d from \"" ++ "../types/"), put "entity_name",
   .text (".types" ++ "\";\n" ++ "\nexport interface ")]

/-- The nodes that a list component starts with. -/
def listHead : List Node :=
  [.text "// Generated by formgen on ", put "generated_at", .text ("\nimport type \x7b "),
   put "entity_name", .text (" \x7d from \"" ++ "../types/"), put "entity_name",
   .text (".types" ++ "\";\n" ++ "\nexport interface ")]

set_option maxRecDepth 100000 in
theorem reads_formHead : ∃ rest, Node.ofText? formComponentTsx = some (formHead ++ rest) := by
  unfold formComponentTsx
  dsimp only
  apply reads_start
  · repeat' first | exact Spells.nil | apply Spells.cons
  · decide +kernel

set_option maxRecDepth 100000 in
theorem reads_listHead : ∃ rest, Node.ofText? listComponentTsx = some (listHead ++ rest) := by
  unfold listComponentTsx
  dsimp only
  apply reads_start
  · repeat' first | exact Spells.nil | apply Spells.cons
  · decide +kernel

theorem plain_formHead {m : Model} {b : Bindings} (h : m.Seen b) : plainNodes formHead b =
    fileHead (stampComment m) (formImports m) ++ "export interface " := by
  unfold formHead fileHead formImports packageImports stampComment ofLines
  simp only [plainNodes_cons, plainNodes_nil, Node.plain_text, Node.after_text, plain_put,
    after_put, h.generatedAt, h.entityName, h.entityNameCamel, valueText, List.map_cons,
    List.map_nil, List.cons_append, List.nil_append, String.join_cons, String.join_nil,
    Import.text_one, Bool.false_eq_true, if_false, if_true]
  refine String.toList_injective ?_
  simp only [String.toList_append, List.append_assoc]
  rfl

theorem plain_listHead {m : Model} {b : Bindings} (h : m.Seen b) : plainNodes listHead b =
    fileHead (stampComment m) (listImports m) ++ "export interface " := by
  unfold listHead fileHead listImports stampComment ofLines
  simp only [plainNodes_cons, plainNodes_nil, Node.plain_text, Node.after_text, plain_put,
    after_put, h.generatedAt, h.entityName, valueText, List.map_cons, List.map_nil,
    List.cons_append, List.nil_append, String.join_cons, String.join_nil, Import.text_one, if_true]
  refine String.toList_injective ?_
  simp only [String.toList_append, List.append_assoc]
  rfl

/-! ## What the frontend exports -/

theorem marks_not_mem_append {stem ending : String} (hstem : ∀ k ∈ Text.marks, k ∉ stem.toList)
    (hending : ∀ k ∈ Text.marks, k ∉ ending.toList) :
    ∀ k ∈ Text.marks, k ∉ (stem ++ ending).toList :=
  fun k hk => Text.not_mem_append (hstem k hk) (hending k hk)

theorem marks_not_mem_fixed : ∀ ending ∈ ["FormValues", "Schema"],
    ∀ k ∈ Text.marks, k ∉ ending.toList := by
  simp only [List.forall_mem_cons]
  refine ⟨List.all_iff_forall_prop.mp (by decide), List.all_iff_forall_prop.mp (by decide), ?_⟩
  nofun

theorem infix_behind {l cs : List Char} (before : List Char) (h : l <:+: cs) :
    l <:+: before ++ cs :=
  h.trans (List.suffix_append before _).isInfix

theorem exports_types {t : FormTypes} (hentity : ∀ k ∈ Text.marks, k ∉ t.entity.toList) :
    t.entity ∈ exportsOf t.text ∧ t.entity ++ "FormValues" ∈ exportsOf t.text := by
  have hkeyword : "interface" ∈ ["const", "interface", "type"] := by decide
  have hvalues := marks_not_mem_append hentity (marks_not_mem_fixed "FormValues" (by decide))
  constructor
  · refine mem_exportsOf hkeyword hentity ?_
    have hplain : exportMark "interface" t.entity = exportMark "interface" (t.entity ++ "") := by
      rw [String.append_empty]
    rw [hplain]
    unfold FormTypes.text
    simp only [String.toList_append, List.append_assoc]
    iterate 2 refine infix_behind _ ?_
    exact exportMark_infix _ _ _ (by decide)
      ((show _ <+: " \x7b\n  id: number;\n".toList by decide).trans (List.prefix_append _ _))
  · refine mem_exportsOf hkeyword hvalues ?_
    unfold FormTypes.text
    simp only [String.toList_append, List.append_assoc]
    iterate 6 refine infix_behind _ ?_
    exact exportMark_infix _ _ _ (by decide)
      ((show _ <+: "FormValues \x7b\n".toList by decide).trans (List.prefix_append _ _))

theorem exports_schema {s : Schema} (hcamel : ∀ k ∈ Text.marks, k ∉ s.entityCamel.toList) :
    s.entityCamel ++ "Schema" ∈ exportsOf s.text := by
  have hkeyword : "const" ∈ ["const", "interface", "type"] := by decide
  have hname := marks_not_mem_append hcamel (marks_not_mem_fixed "Schema" (by decide))
  refine mem_exportsOf hkeyword hname ?_
  unfold Schema.text
  simp only [String.toList_append, List.append_assoc]
  iterate 2 refine infix_behind _ ?_
  exact exportMark_infix _ _ _ (by decide)
    ((show _ <+: "Schema = z.object(\x7b\n".toList by decide).trans (List.prefix_append _ _))

/-! ## Names of a built model -/

section Built

variable (form : FormDefinition) (options : GenerationOptions) (now : Calendar.Instant)

theorem given_entity : (Model.build form options now).entityName.toList ≠ [] := by
  intro hnil
  have hblank := Naming.isBlankText_entityName options.projectName
  unfold Text.isBlankText at hblank
  rw [show (Naming.entityName options.projectName).toList = [] from hnil] at hblank
  cases hblank

theorem getsOne_between {isType : Bool} {name before stem after : String}
    (hgiven : name.toList ≠ []) (hname : ∀ k ∈ Text.marks, k ∉ name.toList)
    (hstem : ∀ k ∈ Text.marks, k ∉ stem.toList)
    (hfixed : ('"' ∉ before.toList ∧ '\n' ∉ before.toList) ∧
      '"' ∉ after.toList ∧ '\n' ∉ after.toList) :
    Import.GetsOne ⟨isType, [name], before ++ stem ++ after⟩ name := by
  obtain ⟨hbefore, hafter⟩ := hfixed
  have hquote := hstem '"' (by decide)
  have hbreak := hstem '\n' (by decide)
  exact ⟨rfl, hgiven, hname,
    Text.not_mem_append (Text.not_mem_append hbefore.1 hquote) hafter.1,
    Text.not_mem_append (Text.not_mem_append hbefore.2 hbreak) hafter.2⟩

theorem getsOne_formImports :
    ∀ i ∈ formImports (Model.build form options now), ∃ name, i.GetsOne name := by
  have hentity := Model.marks_not_mem_entityName form options now
  have hcamel := Model.marks_not_mem_entityNameCamel form options now
  simp only [formImports, packageImports, List.cons_append, List.nil_append, List.forall_mem_cons]
  refine ⟨⟨_, rfl, by decide, List.all_iff_forall_prop.mp (by decide), by decide⟩,
    ⟨_, rfl, by decide, List.all_iff_forall_prop.mp (by decide), by decide⟩,
    ⟨_, getsOne_between (by simp)
      (marks_not_mem_append hcamel (marks_not_mem_fixed "Schema" (by decide))) hentity
      (by decide)⟩,
    ⟨_, getsOne_between (by simp)
      (marks_not_mem_append hentity (marks_not_mem_fixed "FormValues" (by decide))) hentity
      (by decide)⟩,
    nofun⟩

theorem getsOne_listImports :
    ∀ i ∈ listImports (Model.build form options now), ∃ name, i.GetsOne name := by
  have hentity := Model.marks_not_mem_entityName form options now
  simp only [listImports, List.forall_mem_cons]
  exact ⟨⟨_, getsOne_between (given_entity form options now) hentity hentity (by decide)⟩, nofun⟩

theorem importsOf_head {imports : List Import} (himports : ∀ i ∈ imports, ∃ name, i.GetsOne name)
    (rest : String) :
    importsOf (fileHead (stampComment (Model.build form options now)) imports ++ rest) =
      imports := by
  have hbreak : '\n' ∉ (stampComment (Model.build form options now)).toList := by
    unfold stampComment
    exact Text.not_mem_append (by decide) (Model.break_not_mem_generatedAt form options now)
  refine importsOf_fileHead ?_ hbreak himports rest
  unfold stampComment
  rw [String.toList_append]
  rfl

end Built

/-! ## The files of a run -/

open Files Path Output Registry Pipeline

/-- The templates of the frontend, with the kind of the file and how its name ends. -/
def frontendTemplates : List (String × ArtifactKind × String) :=
  [("form_component", .uiComponent, "Form.tsx"), ("list_component", .uiComponent, "List.tsx"),
   ("ui_types", .uiTypes, ".types.ts"), ("validation_schema", .uiValidation, ".schema.ts")]

/-- The folders of the standard layout for the files of the frontend. -/
def frontendFolders : List (ArtifactKind × String) :=
  [(.uiComponent, "components"), (.uiTypes, "types"), (.uiValidation, "validation")]

/-- What an import gets is exported by another of the files, to which its source leads from the
folder of the file that has it. -/
def Resolves (o : Organizer) (made : List Artifact) (a : Artifact) (i : Import) : Prop :=
  ∃ b ∈ made, b.kind ≠ a.kind ∧ (∀ name ∈ i.names, name ∈ exportsOf b.content) ∧
    ∀ working root, landingOf (landingOf working (o.pathOf root a)).dropLast (i.source ++ ".ts") =
      landingOf working (o.pathOf root b)

theorem frontend_entry : ∀ row ∈ frontendTemplates, ∀ e ∈ standardEntries, e.name = row.1 →
    e.kind = row.2.1 ∧ (⟨[], row.2.2.toList, true⟩ : NameShape) ∈ standardShapes ∧
      Text.splitAt TemplateEntry.placeholder.toList e.outputPattern.toList =
        [[], row.2.2.toList] := by
  decide

theorem frontend_enabled {o : GenerationOptions} (h : o.uiComponents = true) :
    ∀ row ∈ frontendTemplates,
      ∃ t ∈ (Family.enabled o).flatMap Family.templates, t.name = row.1 := by
  have htemplates : ∀ row ∈ frontendTemplates,
      ∃ t ∈ Family.uiComponents.templates, t.name = row.1 := by
    decide
  intro row hrow
  obtain ⟨t, ht, hname⟩ := htemplates row hrow
  have henabled : Family.uiComponents ∈ Family.enabled o :=
    List.mem_filter.mpr ⟨by decide, h⟩
  exact ⟨t, List.mem_flatMap.mpr ⟨_, henabled, ht⟩, hname⟩

/-- A file of the frontend is made from its template, under the name of the entity. -/
structure IsFrontend (m : Model) (a : Artifact) (name ending : String) : Prop where
  path : a.filePath = m.entityName ++ ending
  renders : ∃ world, Renders world name m a.content

theorem isFrontend_of_made {m : Model} {t : FamilyTemplate} {a : Artifact} (h : MadeFrom m t a)
    {kind : ArtifactKind} {name ending : String} (hrow : (name, kind, ending) ∈ frontendTemplates)
    (hname : t.name = name) : a.kind = kind ∧ IsFrontend m a name ending := by
  obtain ⟨e, he, hentry, hkind, hpath, hrenders⟩ := h
  obtain ⟨hrowKind, -, hsplit⟩ := frontend_entry _ hrow e he (hentry.trans hname)
  refine ⟨hkind.trans hrowKind, ?_, hname ▸ hentry ▸ hrenders⟩
  rw [hpath]
  refine String.toList_injective ?_
  unfold TemplateEntry.outputFileName Text.replaced Text.replaceAll
  rw [String.toList_ofList, hsplit]
  simp [List.intercalate]

theorem exists_of_forall₂ {α β : Type} {R : α → β → Prop} {xs : List α} {ys : List β}
    (h : List.Forall₂ R xs ys) : (∀ x ∈ xs, ∃ y ∈ ys, R x y) ∧ ∀ y ∈ ys, ∃ x ∈ xs, R x y := by
  induction h with
  | nil => exact ⟨nofun, nofun⟩
  | cons hfirst _ ih =>
      refine ⟨List.forall_mem_cons.mpr ⟨⟨_, List.mem_cons_self, hfirst⟩, fun x hx => ?_⟩,
        List.forall_mem_cons.mpr ⟨⟨_, List.mem_cons_self, hfirst⟩, fun y hy => ?_⟩⟩
      · obtain ⟨y, hy, hR⟩ := ih.1 x hx
        exact ⟨y, List.mem_cons_of_mem _ hy, hR⟩
      · obtain ⟨x, hx, hR⟩ := ih.2 y hy
        exact ⟨x, List.mem_cons_of_mem _ hx, hR⟩

section Made

variable {form : FormDefinition} {options : GenerationOptions} {now : Calendar.Instant}

/-- The files of the frontend are named by their paths. -/
theorem plain_frontend {name ending : String} {kind : ArtifactKind}
    (hrow : (name, kind, ending) ∈ frontendTemplates) {a : Artifact}
    (h : IsFrontend (Model.build form options now) a name ending) :
    names a.filePath = [a.filePath] ∧ isAbsolute a.filePath = false ∧ ¬ Climbs a.filePath := by
  have hshapes : ∀ row ∈ frontendTemplates,
      (⟨[], row.2.2.toList, true⟩ : NameShape) ∈ standardShapes ++ aboutShapes := by
    decide
  have hfill : a.filePath.toList = NameShape.fill
      (Model.build form options now).entityName.toList ⟨[], ending.toList, true⟩ := by
    rw [h.path, String.toList_append]
    rfl
  obtain ⟨hslash, hlength, -⟩ := plain_of_shape (hshapes _ hrow)
    (Model.marks_not_mem_entityName form options now '/' (by decide)) hfill
  exact names_of_long hslash hlength

theorem landing_sibling {o : Organizer} (hlayout : o.layout = Layout.standard) {a b : Artifact}
    {dir : String} (ha : a.kind = .uiComponent) (hb : (b.kind, dir) ∈ frontendFolders)
    (hafile : names a.filePath = [a.filePath] ∧ isAbsolute a.filePath = false ∧ ¬ Climbs a.filePath)
    (hbfile : names b.filePath = [b.filePath] ∧ isAbsolute b.filePath = false ∧ ¬ Climbs b.filePath)
    (working : Location) (root : String) :
    landingOf (landingOf working (o.pathOf root a)).dropLast (join ("../" ++ dir) b.filePath) =
      landingOf working (o.pathOf root b) := by
  have hfolders : ∀ p ∈ frontendFolders,
      names ((Layout.standard.folderFor? p.1).getD "") = ["Frontend", "src", p.2] := by
    decide
  have hfrom : ∀ p ∈ frontendFolders, FileSystem.stepsOf ("../" ++ p.2) = ["..", p.2] ∧
      isAbsolute ("../" ++ p.2) = false ∧ p.2 ≠ "." ∧ p.2 ≠ ".." := by
    decide
  have hplaceA : o.placeOf a = ["Frontend", "src", "components", a.filePath] := by
    unfold Organizer.placeOf Organizer.folderOf
    rw [hlayout, ha, hfolders (.uiComponent, "components") (by decide), hafile.1]
    rfl
  have hplaceB : o.placeOf b = ["Frontend", "src", dir, b.filePath] := by
    unfold Organizer.placeOf Organizer.folderOf
    rw [hlayout, hfolders _ hb, hbfile.1]
    rfl
  -- from the file of the component to the folder that holds those of all kinds
  have hup : ∀ (l : Location) (file : String),
      (l ++ ["Frontend", "src", "components", file]).dropLast.dropLast =
        l ++ ["Frontend", "src"] := by
    intro l file
    have hlast : (["Frontend", "src", "components", file] : Location).dropLast =
        ["Frontend", "src", "components"] := rfl
    rw [List.dropLast_append_of_ne_nil (List.cons_ne_nil _ _), hlast,
      List.dropLast_append_of_ne_nil (List.cons_ne_nil _ _)]
    rfl
  obtain ⟨hsteps, hrelative, hdot, hdots⟩ := hfrom _ hb
  have hbase : ∀ l : Location, landingOf l ("../" ++ dir) = l.dropLast ++ [dir] := by
    intro l
    unfold landingOf
    rw [hsteps, FileSystem.startOf, if_neg (by rw [hrelative]; exact Bool.false_ne_true)]
    exact landing_name l.dropLast hdot hdots []
  rw [landingOf_join _ hbfile.2.1 hbfile.2.2, hbase,
    o.landingOf_pathOf _ _ (isConfined_iff.mpr hafile.2),
    o.landingOf_pathOf _ _ (isConfined_iff.mpr hbfile.2), hplaceA, hplaceB,
    hbfile.1, hup, List.append_assoc, List.append_assoc]
  rfl

theorem join_relative {base path : String} (hpath : isAbsolute path = false)
    (hbase : (base.toList.getLast? == some '/' || base == "") = false) :
    join base path = base ++ "/" ++ path := by
  unfold join
  rw [hpath, hbase, if_neg Bool.false_ne_true, if_neg Bool.false_ne_true]

variable {o : Organizer} {ts : List FamilyTemplate} {made : List Artifact}
  (hlayout : o.layout = Layout.standard) (hui : options.uiComponents = true)
  (hmade : List.Forall₂ (MadeFrom (Model.build form options now))
    ((Family.enabled options).flatMap Family.templates) made)
include hui hmade

theorem exists_frontend {name ending : String} {kind : ArtifactKind}
    (hrow : (name, kind, ending) ∈ frontendTemplates) : ∃ a ∈ made, a.kind = kind ∧
      IsFrontend (Model.build form options now) a name ending := by
  obtain ⟨t, ht, hname⟩ := frontend_enabled hui _ hrow
  obtain ⟨a, ha, hfrom⟩ := (exists_of_forall₂ hmade).1 t ht
  exact ⟨a, ha, isFrontend_of_made hfrom hrow hname⟩

include hlayout

/-- What a component gets from a file of the frontend that exports it. -/
theorem resolves_sibling {a : Artifact} {name ending : String}
    (hrow : (name, .uiComponent, ending) ∈ frontendTemplates) (hkind : a.kind = .uiComponent)
    (ha : IsFrontend (Model.build form options now) a name ending) (from' ending' dir : String)
    {kind : ArtifactKind} (hfrom : (from', kind, ending') ∈ frontendTemplates)
    (hfolder : (kind, dir) ∈ frontendFolders) (hother : kind ≠ .uiComponent) {i : Import}
    (hsource : i.source ++ ".ts" =
      "../" ++ dir ++ "/" ++ ((Model.build form options now).entityName ++ ending'))
    (hslash : (("../" ++ dir).toList.getLast? == some '/' || "../" ++ dir == "") = false)
    (hexports : ∀ world content, Renders world from' (Model.build form options now) content →
      ∀ name ∈ i.names, name ∈ exportsOf content) : Resolves o made a i := by
  obtain ⟨b, hb, hbkind, hbfile⟩ := exists_frontend hui hmade hfrom
  obtain ⟨world, hrenders⟩ := hbfile.renders
  have hplain := plain_frontend hfrom hbfile
  have hother' : b.kind ≠ a.kind := by
    rw [hbkind, hkind]
    exact hother
  refine ⟨b, hb, hother', hexports world _ hrenders, fun working root => ?_⟩
  rw [hsource, ← hbfile.path, ← join_relative hplain.2.1 hslash]
  exact landing_sibling hlayout hkind (hbkind ▸ hfolder) (plain_frontend hrow ha) hplain working
    root

theorem resolves_types {a : Artifact} {name ending : String}
    (hrow : (name, .uiComponent, ending) ∈ frontendTemplates) (hkind : a.kind = .uiComponent)
    (ha : IsFrontend (Model.build form options now) a name ending) {imported : String}
    (himported : imported ∈ [(Model.build form options now).entityName,
      (Model.build form options now).entityName ++ "FormValues"]) :
    Resolves o made a
      ⟨true, [imported], "../types/" ++ (Model.build form options now).entityName ++ ".types"⟩ := by
  have htypes : ("ui_types", .uiTypes, ".types.ts") ∈ frontendTemplates := by decide
  refine resolves_sibling hlayout hui hmade hrow hkind ha "ui_types" ".types.ts" "types"
    htypes (by decide) (by decide) ?_ (by decide) ?_
  · refine String.toList_injective ?_
    simp only [String.toList_append, List.append_assoc]
    rfl
  · intro world content hrenders name' hname'
    obtain ⟨hentity, hvalues⟩ := exports_types (t := .ofModel (Model.build form options now))
      (Model.marks_not_mem_entityName form options now)
    rw [hrenders.unique (renders_types world _), List.mem_singleton.mp hname']
    rcases List.mem_cons.mp himported with rfl | himported
    · exact hentity
    · rw [List.mem_singleton.mp himported]
      exact hvalues

theorem resolves_schema {a : Artifact} {name ending : String}
    (hrow : (name, .uiComponent, ending) ∈ frontendTemplates) (hkind : a.kind = .uiComponent)
    (ha : IsFrontend (Model.build form options now) a name ending) :
    Resolves o made a ⟨false, [(Model.build form options now).entityNameCamel ++ "Schema"],
      "../validation/" ++ (Model.build form options now).entityName ++ ".schema"⟩ := by
  have hschema : ("validation_schema", .uiValidation, ".schema.ts") ∈ frontendTemplates := by decide
  refine resolves_sibling hlayout hui hmade hrow hkind ha "validation_schema" ".schema.ts"
    "validation" hschema (by decide) (by decide) ?_ (by decide) ?_
  · refine String.toList_injective ?_
    simp only [String.toList_append, List.append_assoc]
    rfl
  · intro world content hrenders name' hname'
    rw [hrenders.unique (renders_validationSchema world _), List.mem_singleton.mp hname']
    exact exports_schema (s := .ofModel (Model.build form options now))
      (Model.marks_not_mem_entityNameCamel form options now)

end Made

section Imported

variable {form : FormDefinition} {options : GenerationOptions} {now : Calendar.Instant}
  {a : Artifact}

theorem importsOf_form
    (h : IsFrontend (Model.build form options now) a "form_component" "Form.tsx") :
    importsOf a.content = formImports (Model.build form options now) := by
  obtain ⟨world, hrenders⟩ := h.renders
  have hname : ("form_component", formComponentTsx) ∈ sources :=
    mem_sources_of_entry "ui/form_component.tsx.tera" (by decide) rfl
  obtain ⟨rest, hstart⟩ := renders_start hname reads_formHead world (Model.build form options now)
  rw [hrenders.unique hstart, plain_formHead (Model.seen_given _ world.now), String.append_assoc]
  exact importsOf_head form options now (getsOne_formImports form options now) _

theorem importsOf_list
    (h : IsFrontend (Model.build form options now) a "list_component" "List.tsx") :
    importsOf a.content = listImports (Model.build form options now) := by
  obtain ⟨world, hrenders⟩ := h.renders
  have hname : ("list_component", listComponentTsx) ∈ sources :=
    mem_sources_of_entry "ui/list_component.tsx.tera" (by decide) rfl
  obtain ⟨rest, hstart⟩ := renders_start hname reads_listHead world (Model.build form options now)
  rw [hrenders.unique hstart, plain_listHead (Model.seen_given _ world.now), String.append_assoc]
  exact importsOf_head form options now (getsOne_listImports form options now) _

end Imported

/-- If a run under the standard layout makes files of the frontend, they have a form and a list
component, and whatever one of these imports by a relative path is exported by another file of the
run, to which the path leads from the component's folder once the files are organized. -/
theorem imports_resolve [Archive.Codec] {c : Config} (hmanifest : c.manifest = none)
    (hfolders : c.folders = []) {known : FileSystem} {p : Pipeline Workspace}
    (hpipeline : c.pipeline known = .ok p)
    {w : Workspace} (hw : Equipped p.registry w) {request : GenerationRequest}
    (hui : request.options.uiComponents = true) {job : Job} {v : Workspace}
    (hstart : p.start request w = (.ok job, v)) :
    let m := Model.build request.form request.options job.request.requestedAt
    ∃ organizer made w', c.organizer = .ok organizer ∧
      p.renderFamilies m (Family.enabled request.options) job v =
        ((.ok (), job.withArtifacts made), w') ∧
      (∀ {project now fs organized fs'},
        organizer.organize made project now fs = (.ok organized, fs') →
          organized.files = made.map (organizer.entryOf organized.root)) ∧
      (∃ a ∈ made, a.kind = .uiComponent ∧ a.filePath = m.entityName ++ "Form.tsx" ∧
        importsOf a.content = formImports m) ∧
      (∃ a ∈ made, a.kind = .uiComponent ∧ a.filePath = m.entityName ++ "List.tsx" ∧
        importsOf a.content = listImports m) ∧
      ∀ a ∈ made, a.kind = .uiComponent → ∀ i ∈ importsOf a.content, i.isRelative = true →
        Resolves organizer made a i := by
  intro m
  obtain ⟨organizer, horganizer, hobservers, -, hservices, hstandard⟩ :=
    pipeline_eq_ok hmanifest hpipeline
  obtain ⟨hjob, hv⟩ := start_equipped hservices hobservers hw hstart
  obtain ⟨made, w', hrender, -, hmade⟩ := renderFamilies_equipped hservices hstandard
    (Family.enabled request.options) m job hjob hv
  have hlayout := layout_standard hfolders horganizer
  have hformRow : ("form_component", .uiComponent, "Form.tsx") ∈ frontendTemplates := by decide
  have hlistRow : ("list_component", .uiComponent, "List.tsx") ∈ frontendTemplates := by decide
  obtain ⟨form, hform, hformKind, hformFile⟩ := exists_frontend hui hmade hformRow
  obtain ⟨list, hlist, hlistKind, hlistFile⟩ := exists_frontend hui hmade hlistRow
  refine ⟨organizer, made, w', horganizer, hrender,
    Organizer.organize_files (organizer_eq_ok horganizer).2.1,
    ⟨form, hform, hformKind, hformFile.path, importsOf_form hformFile⟩,
    ⟨list, hlist, hlistKind, hlistFile.path, importsOf_list hlistFile⟩,
    fun a ha hkind i hi hrelative => ?_⟩
  -- a component is one of two files, since no other entry is of its kind
  have hentries : ∀ e ∈ standardEntries, e.kind = .uiComponent →
      e.name = "form_component" ∨ e.name = "list_component" := by
    decide
  obtain ⟨t, -, hfrom⟩ := (exists_of_forall₂ hmade).2 a ha
  obtain ⟨e, he, hname, hkindOf, -⟩ := id hfrom
  rcases hentries e he (hkindOf.symm.trans hkind) with hform | hlist
  · have hfile := (isFrontend_of_made hfrom hformRow (hname.symm.trans hform)).2
    rw [importsOf_form hfile] at hi
    simp only [formImports, packageImports, List.cons_append, List.nil_append, List.mem_cons,
      List.not_mem_nil, or_false] at hi
    -- the first two come from packages
    rcases hi with rfl | rfl | rfl | rfl
    · exact absurd hrelative (by decide)
    · exact absurd hrelative (by decide)
    · exact resolves_schema hlayout hui hmade hformRow hkind hfile
    · exact resolves_types hlayout hui hmade hformRow hkind hfile
        (List.mem_cons_of_mem _ List.mem_cons_self)
  · have hfile := (isFrontend_of_made hfrom hlistRow (hname.symm.trans hlist)).2
    rw [importsOf_list hfile] at hi
    obtain rfl := List.mem_singleton.mp hi
    exact resolves_types hlayout hui hmade hlistRow hkind hfile List.mem_cons_self

/-- A request for the files of the frontend for a form with one text. -/
def noteRequest : GenerationRequest :=
  ⟨⟨1⟩, ⟨2⟩, 1, ⟨none, none, [⟨"note", "text", false, none, none, none, none, none, none, []⟩]⟩,
    { GenerationOptions.bare "lead desk" with uiComponents := true }, "r"⟩

theorem noteRequest_resolves : ∃ p job v organizer made,
    bareConfig.pipeline shippedSpace.files = .ok p ∧ Equipped p.registry shippedSpace ∧
    noteRequest.options.uiComponents = true ∧ p.start noteRequest shippedSpace = (.ok job, v) ∧
    bareConfig.organizer = .ok organizer ∧
    ∃ a ∈ made, a.filePath = "LeadDeskForm.tsx" ∧ Resolves organizer made a
      ⟨false, ["leadDeskSchema"], "../validation/LeadDesk.schema"⟩ := by
  have hroot : (match bareConfig.pipeline shippedSpace.files with
      | .ok p => p.registry.root == "t"
      | .error _ => false) = true := by
    decide +kernel
  cases hpipeline : bareConfig.pipeline shippedSpace.files with
  | error f => simp [hpipeline] at hroot
  | ok p =>
      rw [hpipeline] at hroot
      obtain ⟨_, -, hobservers, -, hservices, -⟩ := pipeline_eq_ok rfl hpipeline
      have hvalid : (noteRequest.toJobRequest ⟨0, 0⟩).validate = .ok () := by decide
      obtain ⟨job, v, hstart⟩ := request_starts hservices hobservers (by decide) fun _ => hvalid
      have hequipped := equipped_shippedSpace (eq_of_beq hroot)
      obtain ⟨organizer, made, w', horganizer, -, -, ⟨a, ha, hkind, hpath, himports⟩, -,
          hresolves⟩ :=
        imports_resolve rfl rfl hpipeline hequipped rfl hstart
      have hfixed : Naming.entityName "lead desk" = "LeadDesk" ∧
          Naming.camelCase (Naming.entityName "lead desk") = "leadDesk" := by
        decide +kernel
      have hentity : (Model.build noteRequest.form noteRequest.options
        job.request.requestedAt).entityName = "LeadDesk" := hfixed.1
      have hcamel : (Model.build noteRequest.form noteRequest.options
        job.request.requestedAt).entityNameCamel = "leadDesk" := hfixed.2
      rw [hentity] at hpath
      refine ⟨p, job, v, organizer, made, rfl, hequipped, rfl, hstart, horganizer, a, ha, hpath,
        hresolves a ha hkind _ ?_ (by decide)⟩
      rw [himports]
      unfold formImports
      rw [hentity, hcamel]
      decide

end FormScaffold.Rules
