import FormScaffold.Proofs.Model.Names
import FormScaffold.Proofs.Shipped.SqlScripts
import FormScaffold.Proofs.Text.Reading

/-!
# Scripts read back

The script of a table and that of its procedures are read from the left.  No name of a column or of
a table has a blank, so a name ends at the next one, and a list of names is read name by name up to
the one that does not end with a comma.  The scripts of a model are read as what they declare for
every form that has fields.
-/

namespace FormScaffold.Sql

open Template Shipped Text Reader

/-! ## Lists -/

/-- Items that end with commas, and a last one that ends in another way. -/
def listReader {α : Type} (item : String → Reader α) (stop : String) : Reader (List α) := do
  let items ← (item ",").repeatedly
  let last ← item stop
  pure (items ++ [last])

theorem reads_list {α β : Type} {item : String → Reader α} {write : α → String} {stop : String}
    {xs : List α} (hxs : xs ≠ []) (hstop : ' ' ∉ stop.toList)
    (hitem : ∀ ending : String, ' ' ∉ ending.toList →
      ∀ x ∈ xs, Reads (item ending) (write x ++ ending ++ " ") x)
    (hlast : ∀ x ∈ xs, Refuses (item ",") (write x ++ stop ++ " ")) {f : List α → Reader β}
    {t : String} {b : β} (hf : Reads (f xs) t b) :
    Reads (listReader item stop >>= f)
      (String.intercalate ", " (xs.map write) ++ stop ++ " " ++ t) b := by
  obtain ⟨init, x, rfl⟩ := (List.eq_nil_or_concat' xs).resolve_left hxs
  have hx : x ∈ init ++ [x] := List.mem_append_right _ List.mem_cons_self
  have hcomma : ", " = "," ++ " " := by decide
  -- the blank between two items goes to the first of them, as a name is read up to it
  have htext : String.intercalate ", " ((init ++ [x]).map write) ++ stop ++ " " ++ t =
      String.join (init.map fun y => write y ++ "," ++ " ") ++ (write x ++ stop ++ " " ++ t) := by
    rw [List.map_append, List.map_cons, List.map_nil, intercalate_append_cons,
      String.intercalate_singleton, List.map_map, hcomma]
    simp only [Function.comp_def, String.append_assoc]
  rw [htext]
  unfold listReader
  simp only [bind_assoc, pure_bind]
  exact .repeatedly (fun y hy => hitem "," (by decide) y (List.mem_append_left _ hy))
    ((hlast x hx).append _) ((hitem stop hstop x hx).bind hf)

/-- A name in brackets. -/
def nameReader (ending : String) : Reader String := do
  exactly "["
  word ("]" ++ ending)

/-- A column and the value that is assigned to it. -/
def assignmentReader (ending : String) : Reader (String × String) := do
  exactly "["
  let column ← word "]"
  exactly "= "
  let value ← word ending
  pure (column, value)

section Items

variable {name value ending stop : String} {last : Char}

theorem getLast?_append (s : String) (h : stop.toList.getLast? = some last) :
    (s ++ stop).toList.getLast? = some last := by
  rw [String.toList_append, List.getLast?_append, h, Option.some_or]

theorem reads_word (hvalue : ' ' ∉ value.toList) (hending : ' ' ∉ ending.toList) :
    Reads (word ending) (value ++ ending ++ " ") value := by
  have h := Reads.word hvalue hending (.pure value)
  rwa [bind_pure, String.append_empty] at h

theorem text_name (name ending : String) :
    bracketed name ++ ending ++ " " = "[" ++ (name ++ ("]" ++ ending) ++ " ") := by
  unfold bracketed
  simp only [String.append_assoc]

theorem text_assignment (name value ending : String) :
    bracketed name ++ " = " ++ value ++ ending ++ " " =
      "[" ++ (name ++ "]" ++ " " ++ ("= " ++ (value ++ ending ++ " "))) := by
  have hsign : " = " = " " ++ "= " := by decide
  unfold bracketed
  rw [hsign]
  simp only [String.append_assoc]

theorem reads_name (hname : ' ' ∉ name.toList) (hending : ' ' ∉ ending.toList) :
    Reads (nameReader ending) (bracketed name ++ ending ++ " ") name := by
  rw [text_name]
  exact (reads_exactly _).bind (reads_word hname (not_mem_append (by decide) hending))

theorem reads_assignment (hname : ' ' ∉ name.toList) (hvalue : ' ' ∉ value.toList)
    (hending : ' ' ∉ ending.toList) :
    Reads (assignmentReader ending) (bracketed name ++ " = " ++ value ++ ending ++ " ")
      (name, value) := by
  rw [text_assignment]
  exact (reads_exactly _).bind (.word hname (by decide)
    ((reads_exactly _).bind ((reads_word hvalue hending).last (.pure _))))

-- a list ends with another character than a comma
variable (hstop : ' ' ∉ stop.toList) (hend : stop.toList.getLast? = some last) (hlast : last ≠ ',')
include hstop hend hlast

theorem refuses_value (hvalue : ' ' ∉ value.toList) :
    Refuses (word ",") (value ++ stop ++ " ") := by
  refine refuses_word (c := ',') hvalue hstop (by decide) fun hcomma => hlast ?_
  rw [getLast?_append value hend] at hcomma
  exact Option.some.inj hcomma

theorem refuses_name (hname : ' ' ∉ name.toList) :
    Refuses (nameReader ",") (bracketed name ++ stop ++ " ") := by
  rw [text_name]
  refine (reads_exactly _).refuses (refuses_word (c := ',') hname
    (not_mem_append (by decide) hstop) (by decide) fun hcomma => hlast ?_)
  rw [getLast?_append name (getLast?_append "]" hend)] at hcomma
  exact Option.some.inj hcomma

theorem refuses_assignment (hname : ' ' ∉ name.toList) (hvalue : ' ' ∉ value.toList) :
    Refuses (assignmentReader ",") (bracketed name ++ " = " ++ value ++ stop ++ " ") := by
  rw [text_assignment]
  exact (reads_exactly _).refuses ((reads_word hname (by decide)).refuses
    ((reads_exactly _).refuses ((refuses_value hstop hend hlast hvalue).bind _)))

end Items

theorem reads_names {β : Type} {names : List String} (hgiven : names ≠ [])
    (hnames : ∀ name ∈ names, ' ' ∉ name.toList) {stop : String} {last : Char}
    (hstop : ' ' ∉ stop.toList) (hend : stop.toList.getLast? = some last) (hlast : last ≠ ',')
    {f : List String → Reader β} {t : String} {b : β} (hf : Reads (f names) t b) :
    Reads (listReader nameReader stop >>= f)
      (String.intercalate ", " (names.map bracketed) ++ stop ++ " " ++ t) b :=
  reads_list hgiven hstop (fun _ hending name hname => reads_name (hnames name hname) hending)
    (fun name hname => refuses_name hstop hend hlast (hnames name hname)) hf

/-! ## Columns -/

/-- The line of a column. -/
def columnReader : Reader Column := do
  exactly "        ["
  let name ← word "]"
  let type ← upTo ' '
  let identity ← optionally (exactly "IDENTITY(1,1) ")
  let mandatory ← optionally (exactly "NOT ")
  exactly "NULL"
  let line ← upTo '\n'
  let default ← given (withoutEnd? "," line)
  pure ⟨name, type, identity.isSome, mandatory.isNone, default⟩

/-- A column is told by its line. -/
structure Column.IsLegible (c : Column) : Prop where
  name : ' ' ∉ c.name.toList
  type : ' ' ∉ c.type.toList
  default : '\n' ∉ c.default.toList

theorem Column.text_parts (c : Column) : c.text =
    "        [" ++ (c.name ++ "]" ++ " " ++ (c.type ++ " " ++
      ((if c.isIdentity then "IDENTITY(1,1) " else "") ++
        ((if !c.isNullable then "NOT " else "") ++ ("NULL" ++ (c.default ++ "," ++ "\n")))))) := by
  have hbracket : "] " = "]" ++ " " := by decide
  have hend : ",\n" = "," ++ "\n" := by decide
  have hidentity : (if c.isIdentity then " IDENTITY(1,1)" else "") ++ " " =
      " " ++ if c.isIdentity then "IDENTITY(1,1) " else "" := by
    cases c.isIdentity <;> decide
  have hnull : (if c.isNullable then "NULL" else "NOT NULL") =
      (if !c.isNullable then "NOT " else "") ++ "NULL" := by
    cases c.isNullable <;> decide
  unfold Column.text
  rw [@String.append_assoc _ _ " ", hidentity, hbracket, hend, hnull]
  simp only [String.append_assoc]

theorem Column.IsLegible.reads {c : Column} (h : c.IsLegible) : Reads columnReader c.text c := by
  have hline : '\n' ∉ (c.default ++ ",").toList :=
    not_mem_append h.default (by decide)
  -- what may be missing is refused where what follows it stands
  have hnull (t : String) : Refuses (exactly "IDENTITY(1,1) ") ("NULL" ++ t) :=
    (refuses_exactly (by decide)).append t
  have hnot : Refuses (exactly "IDENTITY(1,1) ") "NOT " := refuses_exactly (by decide)
  have hmandatory (t : String) : Refuses (exactly "NOT ") ("NULL" ++ t) :=
    (refuses_exactly (by decide)).append t
  rw [c.text_parts]
  unfold columnReader
  refine (reads_exactly _).bind (.word h.name (by decide) ((reads_upTo rfl h.type).bind ?_))
  refine .flag (.flag hnot (hnull _)) (.flag (hmandatory _) ((reads_exactly _).bind ?_))
  refine (reads_upTo rfl hline).last (.given (withoutEnd?_append _ _) ?_)
  obtain ⟨name, type, isIdentity, isNullable, default⟩ := c
  cases isIdentity <;> cases isNullable <;> exact .pure _

theorem isLegible_createdAt {table : String} (h : '\n' ∉ table.toList) :
    (Column.createdAt table).IsLegible where
  name := (by decide : ' ' ∉ "CreatedAt".toList)
  type := (by decide : ' ' ∉ "DATETIME2".toList)
  default := by
    unfold Column.createdAt
    exact not_mem_append (not_mem_append (by decide) h) (by decide)

/-! ## Tables -/

/-- What stands behind the name of a table where the script makes it. -/
def tableStart (name : String) : String :=
  "N'U') IS NULL\nBEGIN\n    CREATE TABLE [dbo].[" ++ name ++ "] (\n"

/-- What stands behind the columns of a table. -/
def tableEnd (name : String) : String :=
  "        CONSTRAINT [PK_" ++ name ++ "] PRIMARY KEY CLUSTERED ([Id] ASC)\n    );\nEND\nGO\n"

/-- The script of a table, which has the table's name at three places. -/
def tableReader : Reader Table := do
  exactly "-- Generated by formgen on "
  let stamp ← upTo '\n'
  exactly "-- Target database: "
  let database ← upTo '\n'
  exactly "IF OBJECT_ID(N'[dbo].["
  let name ← word "]',"
  exactly (tableStart name)
  let columns ← columnReader.repeatedly
  exactly (tableEnd name)
  pure ⟨stamp, database, name, columns⟩

/-- A table is told by its script. -/
structure Table.IsLegible (t : Table) : Prop where
  stamp : '\n' ∉ t.stamp.toList
  database : '\n' ∉ t.database.toList
  name : ' ' ∉ t.name.toList
  columns : ∀ c ∈ t.columns, c.IsLegible

theorem Table.text_parts (t : Table) : t.text =
    "-- Generated by formgen on " ++ (t.stamp ++ "\n" ++ ("-- Target database: " ++
      (t.database ++ "\n" ++ ("IF OBJECT_ID(N'[dbo].[" ++ (t.name ++ "]'," ++ " " ++
        (tableStart t.name ++ (String.join (t.columns.map Column.text) ++
          tableEnd t.name))))))) := by
  have hdatabase : "\n-- Target database: " = "\n" ++ "-- Target database: " := by decide
  have hname : "\nIF OBJECT_ID(N'[dbo].[" = "\n" ++ "IF OBJECT_ID(N'[dbo].[" := by decide
  have hstart : "]', N'U') IS NULL\nBEGIN\n    CREATE TABLE [dbo].[" =
      "]'," ++ " " ++ "N'U') IS NULL\nBEGIN\n    CREATE TABLE [dbo].[" := by decide
  unfold Table.text tableStart tableEnd
  rw [hdatabase, hname, hstart]
  simp only [String.append_assoc]

theorem Table.IsLegible.reads {t : Table} (h : t.IsLegible) : Reads tableReader t.text t := by
  -- the line of the key starts as that of a column does, but has no bracket there
  have hend : Refuses columnReader (tableEnd t.name) := by
    unfold tableEnd
    exact ((refuses_start (by decide)).append _).append _
  rw [t.text_parts]
  exact (reads_exactly _).bind ((reads_upTo rfl h.stamp).bind ((reads_exactly _).bind
    ((reads_upTo rfl h.database).bind ((reads_exactly _).bind (.word h.name (by decide)
      ((reads_exactly _).bind (.repeatedly (fun c hc => (h.columns c hc).reads) hend
        ((reads_exactly _).last (.pure _)))))))))

/-! ## Parameters -/

/-- The texts in turn are the texts of items that are each the last one or not. -/
theorem eachText_eq_join {α : Type} (text : α → Bool → String) (xs : List α) :
    ∃ ps : List (α × Bool), ps.map Prod.fst = xs ∧
      eachText text xs = String.join (ps.map fun p => text p.1 p.2) := by
  induction xs with
  | nil => exact ⟨[], rfl, rfl⟩
  | cons x xs ih =>
      obtain ⟨ps, hps, htext⟩ := ih
      exact ⟨(x, xs.isEmpty) :: ps, by rw [List.map_cons, hps],
        by rw [eachText, htext, List.map_cons, String.join_cons]⟩

/-- Items in turn that are read whether they are the last one or not. -/
theorem reads_eachText {α β : Type} {r : Reader α} {text : α → Bool → String} {xs : List α}
    {f : List α → Reader β} {t : String} {b : β}
    (hxs : ∀ x ∈ xs, ∀ isLast, Reads r (text x isLast) x) (ht : Refuses r t)
    (hf : Reads (f xs) t b) : Reads (r.repeatedly >>= f) (eachText text xs ++ t) b := by
  obtain ⟨ps, rfl, htext⟩ := eachText_eq_join text xs
  rw [htext]
  exact .repeatedly_map (fun p hp => hxs p.1 (List.mem_map_of_mem hp) p.2) ht hf

/-- The line of a parameter, with or without a comma. -/
def parameterReader : Reader Parameter := do
  exactly "    @"
  let name ← upTo ' '
  let line ← upTo '\n'
  let declared := (withoutEnd? "," line).getD line
  pure ⟨name, (withoutEnd? " = NULL" declared).getD declared,
    (withoutEnd? " = NULL" declared).isSome⟩

/-- A parameter is told by its line. -/
structure Parameter.IsLegible (p : Parameter) : Prop where
  name : ' ' ∉ p.name.toList
  type : TypeMapping.IsMarkFree p.type

theorem withoutEnd?_null {type : String} (h : ' ' ∉ type.toList) :
    withoutEnd? " = NULL" type = none := by
  refine Option.eq_none_iff_forall_ne_some.mpr fun before hbefore => h ?_
  rw [of_withoutEnd? hbefore, String.toList_append]
  exact List.mem_append_right _ (by decide)

/-- The type of a parameter and what it defaults to. -/
def Parameter.declared (p : Parameter) : String :=
  p.type ++ if p.defaultsToNull then " = NULL" else ""

theorem Parameter.line_parts (p : Parameter) (isLast : Bool) : p.line isLast =
    "    @" ++ (p.name ++ " " ++ (p.declared ++ (if !isLast then "," else "") ++ "\n")) := by
  have hstart : "    " ++ "@" = "    @" := by decide
  have hcomma : (if !isLast then "," else "") = if isLast then "" else "," := by
    cases isLast <;> rfl
  unfold Parameter.line Parameter.declared
  rw [hstart, hcomma]
  simp only [String.append_assoc]

section Legible

variable {p : Parameter} (h : p.IsLegible)
include h

theorem Parameter.IsLegible.withoutEnd?_comma : withoutEnd? "," p.declared = none := by
  refine withoutEnd?_eq_none (c := ',') (by decide) ?_
  unfold Parameter.declared
  cases p.defaultsToNull with
  | true =>
      rw [if_pos rfl, String.toList_append, List.getLast?_append_of_ne_nil _ (by decide)]
      decide
  | false =>
      rw [if_neg Bool.false_ne_true, String.append_empty]
      exact h.type.2.2

theorem Parameter.IsLegible.withoutEnd?_declared :
    withoutEnd? " = NULL" p.declared = if p.defaultsToNull then some p.type else none :=
  withoutEnd?_flag (withoutEnd?_null h.type.1) p.defaultsToNull

theorem Parameter.IsLegible.break_not_mem (isLast : Bool) :
    '\n' ∉ (p.declared ++ if !isLast then "," else "").toList := by
  have hnull : '\n' ∉ (if p.defaultsToNull then " = NULL" else "").toList := by
    cases p.defaultsToNull <;> decide
  have hcomma : '\n' ∉ (if !isLast then "," else "").toList := by cases isLast <;> decide
  unfold Parameter.declared
  exact not_mem_append (not_mem_append h.type.2.1 hnull) hcomma

theorem Parameter.IsLegible.reads (isLast : Bool) :
    Reads parameterReader (p.line isLast) p := by
  -- the comma is taken off first, and nothing else ends with one
  have hkept : (withoutEnd? "," (p.declared ++ if !isLast then "," else "")).getD
      (p.declared ++ if !isLast then "," else "") = p.declared := by
    rw [withoutEnd?_flag h.withoutEnd?_comma]
    cases isLast with
    | true => exact String.append_empty
    | false => rfl
  rw [p.line_parts isLast]
  unfold parameterReader
  refine (reads_exactly _).bind ((reads_upTo rfl h.name).bind
    ((reads_upTo rfl (h.break_not_mem isLast)).last ?_))
  dsimp only
  rw [hkept, h.withoutEnd?_declared]
  obtain ⟨name, type, defaultsToNull⟩ := p
  cases defaultsToNull with
  | true => exact .pure _
  | false =>
      have hdeclared : Parameter.declared ⟨name, type, false⟩ = type := String.append_empty
      rw [hdeclared]
      exact .pure _

end Legible

/-! ## Statements -/

/-- A selection. -/
def selectReader : Reader Statement := do
  exactly "SELECT "
  let columns ← listReader nameReader "\n"
  exactly "   FROM [dbo].["
  let table ← word "]\n"
  exactly "   "
  let clause ← upTo ';'
  exactly "\n"
  pure (.select columns table clause)

/-- An insertion. -/
def insertReader : Reader Statement := do
  exactly "INSERT INTO [dbo].["
  let table ← word "]"
  exactly "("
  let columns ← listReader nameReader ")\n"
  exactly "   VALUES ("
  let values ← listReader word ");\n"
  exactly "   SELECT CAST(SCOPE_IDENTITY() AS INT);\n"
  pure (.insert table columns values)

/-- A change. -/
def updateReader : Reader Statement := do
  exactly "UPDATE [dbo].["
  let table ← word "]\n"
  exactly "   SET "
  let assignments ← listReader assignmentReader "\n"
  exactly "   WHERE [Id] = @Id;\n    SELECT @@ROWCOUNT;\n"
  pure (.update table assignments)

/-- A deletion. -/
def deleteReader : Reader Statement := do
  exactly "DELETE FROM [dbo].["
  let table ← word "]"
  exactly "WHERE [Id] = @Id;\n    SELECT @@ROWCOUNT;\n"
  pure (.delete table)

/-- A statement, told by its first word. -/
def statementReader : Reader Statement :=
  firstOf selectReader (firstOf insertReader (firstOf updateReader deleteReader))

/-- A statement is told by its text. -/
def Statement.IsLegible : Statement → Prop
  | .select columns table clause =>
      columns ≠ [] ∧ (∀ name ∈ columns, ' ' ∉ name.toList) ∧ ' ' ∉ table.toList ∧
        ';' ∉ clause.toList
  | .insert table columns values =>
      columns ≠ [] ∧ values ≠ [] ∧ (∀ name ∈ columns, ' ' ∉ name.toList) ∧
        (∀ value ∈ values, ' ' ∉ value.toList) ∧ ' ' ∉ table.toList
  | .update table assignments =>
      assignments ≠ [] ∧ (∀ a ∈ assignments, ' ' ∉ a.1.toList ∧ ' ' ∉ a.2.toList) ∧
        ' ' ∉ table.toList
  | .delete table => ' ' ∉ table.toList

theorem reads_select {columns : List String} {table clause : String} (hcolumns : columns ≠ [])
    (hnames : ∀ name ∈ columns, ' ' ∉ name.toList) (htable : ' ' ∉ table.toList)
    (hclause : ';' ∉ clause.toList) :
    Reads selectReader (Statement.select columns table clause).text
      (.select columns table clause) := by
  have hfrom : "\n    FROM [dbo].[" = "\n" ++ " " ++ "   FROM [dbo].[" := by decide
  have htail : "]\n    " = "]\n" ++ " " ++ "   " := by decide
  have hend : ";\n" = ";" ++ "\n" := by decide
  have htext : (Statement.select columns table clause).text =
      "SELECT " ++ (String.intercalate ", " (columns.map bracketed) ++ "\n" ++ " " ++
        ("   FROM [dbo].[" ++ (table ++ "]\n" ++ " " ++ ("   " ++ (clause ++ ";" ++ "\n"))))) := by
    unfold Statement.text
    rw [hfrom, htail, hend]
    simp only [String.append_assoc]
  rw [htext]
  exact (reads_exactly _).bind (reads_names hcolumns hnames (by decide) rfl (by decide)
    ((reads_exactly _).bind (.word htable (by decide) ((reads_exactly _).bind
      ((reads_upTo rfl hclause).bind ((reads_exactly _).last (.pure _)))))))

theorem reads_insert {table : String} {columns values : List String} (hcolumns : columns ≠ [])
    (hvalues : values ≠ []) (hnames : ∀ name ∈ columns, ' ' ∉ name.toList)
    (hblank : ∀ value ∈ values, ' ' ∉ value.toList) (htable : ' ' ∉ table.toList) :
    Reads insertReader (Statement.insert table columns values).text
      (.insert table columns values) := by
  have hopen : "] (" = "]" ++ " " ++ "(" := by decide
  have hmiddle : ")\n    VALUES (" = ")\n" ++ " " ++ "   VALUES (" := by decide
  have hend : ");\n    SELECT CAST(SCOPE_IDENTITY() AS INT);\n" =
      ");\n" ++ " " ++ "   SELECT CAST(SCOPE_IDENTITY() AS INT);\n" := by decide
  have htext : (Statement.insert table columns values).text =
      "INSERT INTO [dbo].[" ++ (table ++ "]" ++ " " ++ ("(" ++
        (String.intercalate ", " (columns.map bracketed) ++ ")\n" ++ " " ++ ("   VALUES (" ++
          (String.intercalate ", " (values.map id) ++ ");\n" ++ " " ++
            "   SELECT CAST(SCOPE_IDENTITY() AS INT);\n"))))) := by
    unfold Statement.text
    rw [hopen, hmiddle, hend, List.map_id]
    simp only [String.append_assoc]
  rw [htext]
  exact (reads_exactly _).bind (.word htable (by decide) ((reads_exactly _).bind
    (reads_names hcolumns hnames (by decide) rfl (by decide) ((reads_exactly _).bind
      (reads_list hvalues (by decide) (fun _ hending value hvalue =>
          reads_word (hblank value hvalue) hending)
        (fun value hvalue => refuses_value (by decide) rfl (by decide) (hblank value hvalue))
        ((reads_exactly _).last (.pure _)))))))

theorem reads_update {table : String} {assignments : List (String × String)}
    (hassignments : assignments ≠ [])
    (hblank : ∀ a ∈ assignments, ' ' ∉ a.1.toList ∧ ' ' ∉ a.2.toList)
    (htable : ' ' ∉ table.toList) :
    Reads updateReader (Statement.update table assignments).text (.update table assignments) := by
  have hset : "]\n    SET " = "]\n" ++ " " ++ "   SET " := by decide
  have hend : "\n    WHERE [Id] = @Id;\n    SELECT @@ROWCOUNT;\n" =
      "\n" ++ " " ++ "   WHERE [Id] = @Id;\n    SELECT @@ROWCOUNT;\n" := by decide
  have htext : (Statement.update table assignments).text =
      "UPDATE [dbo].[" ++ (table ++ "]\n" ++ " " ++ ("   SET " ++
        (String.intercalate ", " (assignments.map fun a => bracketed a.1 ++ " = " ++ a.2) ++
          "\n" ++ " " ++ "   WHERE [Id] = @Id;\n    SELECT @@ROWCOUNT;\n"))) := by
    unfold Statement.text
    rw [hset, hend]
    simp only [String.append_assoc]
  rw [htext]
  exact (reads_exactly _).bind (.word htable (by decide) ((reads_exactly _).bind
    (reads_list hassignments (by decide)
      (fun _ hending a ha => reads_assignment (hblank a ha).1 (hblank a ha).2 hending)
      (fun a ha => refuses_assignment (by decide) rfl (by decide) (hblank a ha).1 (hblank a ha).2)
      ((reads_exactly _).last (.pure _)))))

theorem reads_delete {table : String} (htable : ' ' ∉ table.toList) :
    Reads deleteReader (Statement.delete table).text (.delete table) := by
  have hend : "] WHERE [Id] = @Id;\n    SELECT @@ROWCOUNT;\n" =
      "]" ++ " " ++ "WHERE [Id] = @Id;\n    SELECT @@ROWCOUNT;\n" := by decide
  have htext : (Statement.delete table).text = "DELETE FROM [dbo].[" ++ (table ++ "]" ++ " " ++
      "WHERE [Id] = @Id;\n    SELECT @@ROWCOUNT;\n") := by
    unfold Statement.text
    rw [hend]
    simp only [String.append_assoc]
  rw [htext]
  exact (reads_exactly _).bind (.word htable (by decide) ((reads_exactly _).last (.pure _)))


/-- The words that a statement starts with. -/
def Statement.start : Statement → String
  | .select .. => "SELECT "
  | .insert .. => "INSERT INTO [dbo].["
  | .update .. => "UPDATE [dbo].["
  | .delete _ => "DELETE FROM [dbo].["

theorem Statement.text_start (st : Statement) : ∃ t, st.text = st.start ++ t := by
  unfold Statement.text Statement.start
  cases st <;> simp only [String.append_assoc] <;> exact ⟨_, rfl⟩

/-- A statement is refused where other words are looked for. -/
theorem Statement.refuses {words : String} {β : Type} {f : Unit → Reader β} {st : Statement}
    (start : String) (hstart : st.start = start) (h : differs words.toList start.toList = true) :
    Refuses (exactly words >>= f) st.text := by
  obtain ⟨t, ht⟩ := st.text_start
  rw [ht, hstart]
  exact (refuses_start h).append t

theorem Statement.IsLegible.reads {st : Statement} (h : st.IsLegible) :
    Reads statementReader st.text st := by
  unfold statementReader
  cases st with
  | select columns table clause =>
      obtain ⟨hcolumns, hnames, htable, hclause⟩ := h
      exact .firstOf_left (reads_select hcolumns hnames htable hclause)
  | insert table columns values =>
      obtain ⟨hcolumns, hvalues, hnames, hblank, htable⟩ := h
      exact .firstOf_right (Statement.refuses "INSERT INTO [dbo].[" rfl (by decide))
        (.firstOf_left (reads_insert hcolumns hvalues hnames hblank htable))
  | update table assignments =>
      obtain ⟨hassignments, hblank, htable⟩ := h
      exact .firstOf_right (Statement.refuses "UPDATE [dbo].[" rfl (by decide))
        (.firstOf_right (Statement.refuses "UPDATE [dbo].[" rfl (by decide))
          (.firstOf_left (reads_update hassignments hblank htable)))
  | delete table =>
      exact .firstOf_right (Statement.refuses "DELETE FROM [dbo].[" rfl (by decide))
        (.firstOf_right (Statement.refuses "DELETE FROM [dbo].[" rfl (by decide))
          (.firstOf_right (Statement.refuses "DELETE FROM [dbo].[" rfl (by decide))
            (reads_delete h)))

/-! ## Procedures -/

/-- What stands between the parameters of a procedure and its statement. -/
def bodyStart : String := "AS\nBEGIN\n    SET NOCOUNT ON;\n    "

/-- A procedure behind an empty line. -/
def procedureReader : Reader Procedure := do
  exactly "\nCREATE OR ALTER PROCEDURE [dbo].["
  let line ← upTo '\n'
  let name ← given (withoutEnd? "]" line)
  let parameters ← parameterReader.repeatedly
  exactly bodyStart
  let statement ← statementReader
  exactly "END\nGO\n"
  pure ⟨name, parameters, statement⟩

/-- A procedure is told by its text. -/
structure Procedure.IsLegible (p : Procedure) : Prop where
  name : '\n' ∉ p.name.toList
  parameters : ∀ q ∈ p.parameters, q.IsLegible
  statement : p.statement.IsLegible

theorem Procedure.IsLegible.reads {p : Procedure} (h : p.IsLegible) :
    Reads procedureReader ("\n" ++ p.text) p := by
  have hstart : "\n" ++ "CREATE OR ALTER PROCEDURE [dbo].[" =
      "\nCREATE OR ALTER PROCEDURE [dbo].[" := by decide
  have hname : "]\n" = "]" ++ "\n" := by decide
  have htext : "\n" ++ p.text = "\nCREATE OR ALTER PROCEDURE [dbo].[" ++ (p.name ++ "]" ++ "\n" ++
      (eachText Parameter.line p.parameters ++ (bodyStart ++ (p.statement.text ++
        "END\nGO\n")))) := by
    unfold Procedure.text bodyStart
    rw [← hstart, hname]
    simp only [String.append_assoc]
  have hline : '\n' ∉ (p.name ++ "]").toList :=
    not_mem_append h.name (by decide)
  have hbody : Refuses parameterReader bodyStart := refuses_start (by decide)
  rw [htext]
  exact (reads_exactly _).bind ((reads_upTo rfl hline).bind (.given (withoutEnd?_append _ _)
    (reads_eachText (fun q hq => (h.parameters q hq).reads) (hbody.append _)
      ((reads_exactly _).bind (h.statement.reads.bind ((reads_exactly _).last (.pure _)))))))

/-- The script of the procedures of a table. -/
def scriptReader : Reader Script := do
  exactly "-- Generated by formgen on "
  let stamp ← upTo '\n'
  exactly "-- Target database: "
  let database ← upTo '\n'
  let getAll ← procedureReader
  let getById ← procedureReader
  let insert ← procedureReader
  let update ← procedureReader
  let delete ← procedureReader
  pure ⟨stamp, database, getAll, getById, insert, update, delete⟩

/-- A script is told by its text. -/
structure Script.IsLegible (s : Script) : Prop where
  stamp : '\n' ∉ s.stamp.toList
  database : '\n' ∉ s.database.toList
  procedures : ∀ p ∈ s.procedures, p.IsLegible

theorem Script.IsLegible.reads {s : Script} (h : s.IsLegible) : Reads scriptReader s.text s := by
  have hdatabase : "\n-- Target database: " = "\n" ++ "-- Target database: " := by decide
  have htext : s.text = "-- Generated by formgen on " ++ (s.stamp ++ "\n" ++
      ("-- Target database: " ++ (s.database ++ "\n" ++ ("\n" ++ s.getAll.text ++
        ("\n" ++ s.getById.text ++ ("\n" ++ s.insert.text ++ ("\n" ++ s.update.text ++
          ("\n" ++ s.delete.text)))))))) := by
    unfold Script.text Script.procedures
    rw [hdatabase]
    simp only [List.map_cons, List.map_nil, String.join_cons, String.join_nil,
      String.append_assoc, String.append_empty]
  have hprocedures := h.procedures
  unfold Script.procedures at hprocedures
  simp only [List.forall_mem_cons] at hprocedures
  obtain ⟨hgetAll, hgetById, hinsert, hupdate, hdelete, -⟩ := hprocedures
  rw [htext]
  exact (reads_exactly _).bind ((reads_upTo rfl h.stamp).bind ((reads_exactly _).bind
    ((reads_upTo rfl h.database).bind (hgetAll.reads.bind (hgetById.reads.bind
      (hinsert.reads.bind (hupdate.reads.bind (hdelete.reads.last (.pure _)))))))))

/-! ## The scripts of a form -/

section Built

variable (form : FormDefinition) (options : GenerationOptions) (now : Calendar.Instant)

theorem blank_not_mem_tableName : ' ' ∉ (Model.build form options now).tableName.toList :=
  Model.marks_not_mem_tableName form options now ' ' (by decide)

/-- The script of the table of a form is read as what it declares. -/
theorem isLegible_table : (Table.ofModel (Model.build form options now)).IsLegible where
  stamp := Model.break_not_mem_generatedAt form options now
  database := Model.break_not_mem_databaseTag form options now
  name := blank_not_mem_tableName form options now
  columns := by
    have hcreated : (Column.createdAt (Model.build form options now).tableName).IsLegible :=
      isLegible_createdAt (Model.marks_not_mem_tableName form options now '\n' (by decide))
    have hfields : ∀ f ∈ (Model.build form options now).fields, (Column.ofField f).IsLegible :=
      fun f hf => ⟨Model.blank_not_mem_pascalName hf, (Model.isMarkFree_columnType hf).1,
        List.not_mem_nil⟩
    unfold Table.ofModel
    simp only [List.cons_append, List.forall_mem_cons, List.forall_mem_append,
      List.forall_mem_map]
    exact ⟨⟨by decide, by decide, by decide⟩, hfields, hcreated,
      ⟨by decide, by decide, by decide⟩, nofun⟩

theorem break_not_mem_procedureName {operation : String} (h : '\n' ∉ operation.toList) :
    '\n' ∉ (procedureName (Model.build form options now) operation).toList := by
  unfold procedureName
  exact not_mem_append (not_mem_append (by decide)
    (Model.marks_not_mem_entityName form options now '\n' (by decide))) h

theorem blank_not_mem_columnNames :
    ∀ name ∈ columnNames (Model.build form options now), ' ' ∉ name.toList := by
  unfold columnNames
  simp only [List.cons_append, List.forall_mem_cons, List.forall_mem_append, List.forall_mem_map]
  exact ⟨by decide, fun f hf => Model.blank_not_mem_pascalName hf, by decide, by decide, nofun⟩

theorem isLegible_parameters : ∀ p ∈ (Model.build form options now).fields.map Parameter.ofField,
    p.IsLegible := by
  simp only [List.forall_mem_map]
  exact fun f hf => ⟨Model.blank_not_mem_pascalName hf, Model.isMarkFree_columnType hf⟩

theorem blank_not_mem_value {name : String} (h : ' ' ∉ name.toList) : ' ' ∉ ("@" ++ name).toList :=
  not_mem_append (by decide) h

theorem isLegible_insert (hfields : (Model.build form options now).fields ≠ []) :
    (Script.ofModel (Model.build form options now)).insert.statement.IsLegible := by
  refine ⟨mt List.map_eq_nil_iff.mp hfields, mt List.map_eq_nil_iff.mp hfields, ?_, ?_,
    blank_not_mem_tableName form options now⟩
  · simp only [List.forall_mem_map]
    exact fun f hf => Model.blank_not_mem_pascalName hf
  · simp only [List.forall_mem_map]
    exact fun f hf => blank_not_mem_value (Model.blank_not_mem_pascalName hf)

theorem isLegible_update :
    (Script.ofModel (Model.build form options now)).update.statement.IsLegible := by
  refine ⟨List.append_ne_nil_of_right_ne_nil _ (List.cons_ne_nil _ _), ?_,
    blank_not_mem_tableName form options now⟩
  simp only [List.forall_mem_append, List.forall_mem_map, List.forall_mem_cons]
  exact ⟨fun f hf => ⟨Model.blank_not_mem_pascalName hf,
    blank_not_mem_value (Model.blank_not_mem_pascalName hf)⟩, ⟨by decide, by decide⟩, nofun⟩

/-- The script of the procedures of a form that has fields is read as what it declares. -/
theorem isLegible_script (hfields : (Model.build form options now).fields ≠ []) :
    (Script.ofModel (Model.build form options now)).IsLegible where
  stamp := Model.break_not_mem_generatedAt form options now
  database := Model.break_not_mem_databaseTag form options now
  procedures := by
    have hid : Parameter.id.IsLegible := ⟨by decide, by decide⟩
    have hparameters := isLegible_parameters form options now
    have hcolumns : columnNames (Model.build form options now) ≠ [] := List.cons_ne_nil _ _
    have hnames := blank_not_mem_columnNames form options now
    have htable := blank_not_mem_tableName form options now
    unfold Script.procedures
    simp only [List.forall_mem_cons]
    exact ⟨⟨break_not_mem_procedureName form options now (by decide), nofun,
        hcolumns, hnames, htable, by decide⟩,
      ⟨break_not_mem_procedureName form options now (by decide),
        List.forall_mem_singleton.mpr hid, hcolumns, hnames, htable, by decide⟩,
      ⟨break_not_mem_procedureName form options now (by decide), hparameters,
        isLegible_insert form options now hfields⟩,
      ⟨break_not_mem_procedureName form options now (by decide),
        List.forall_mem_cons.mpr ⟨hid, hparameters⟩, isLegible_update form options now⟩,
      ⟨break_not_mem_procedureName form options now (by decide),
        List.forall_mem_singleton.mpr hid, htable⟩, nofun⟩

end Built

end FormScaffold.Sql
