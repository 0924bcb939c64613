import FormScaffold.Proofs.Shipped.FieldLoops
import FormScaffold.Proofs.Shipped.Spelling
import FormScaffold.Shipped.Sql

/-!
# The scripts of a table

The scripts that the templates of the relational schema make, as what they declare: a table with
columns, and procedures with parameters and statements.  Each template's text is the written form
of such a script, whose parts are those of the model's fields.
-/

namespace FormScaffold.Shipped

/-!
## The nodes of the scripts of a table

What the templates of the relational schema are read as.
-/

open Template

/-- The line of the column of a field. -/
abbrev columnNodes : List Node :=
  [.text "        [", put "f.pascal_name", .text "] ", put "f.column_type", .text " ",
   .branch [(valueOf "f.required", [.text "NOT NULL"])] (some [.text "NULL"]), .text ",\n"]

/-- The nodes of the script of the table. -/
def createTableNodes : List Node :=
  [.text "-- Generated by formgen on ", put "generated_at",
   .text "\n-- Target database: ", put "database",
   .text "\nIF OBJECT_ID(N'[dbo].[", put "table_name",
   .text "]', N'U') IS NULL\nBEGIN\n    CREATE TABLE [dbo].[", put "table_name",
   .text ("] (\n" ++ "        [Id] INT IDENTITY(1,1) NOT NULL,\n"),
   eachField columnNodes,
   .text "        [CreatedAt] DATETIME2 NOT NULL CONSTRAINT [DF_", put "table_name",
   .text ("_CreatedAt] DEFAULT (SYSUTCDATETIME())" ++ ",\n" ++
    "        [UpdatedAt] DATETIME2 NULL,\n" ++ "        CONSTRAINT [PK_"), put "table_name",
   .text "] PRIMARY KEY CLUSTERED ([Id] ASC)\n    );\nEND\nGO\n"]

/-- The columns that two procedures select. -/
abbrev selectedNodes : List Node := [.text "[", put "f.pascal_name", .text ("]" ++ ", ")]

/-- The line of the parameter of a field. -/
abbrev parameterNodes : List Node :=
  [.text ("    " ++ "@"), put "f.pascal_name", .text " ", put "f.column_type",
   provided (lacking "f.required") [.text " = NULL"], provided (lacking "loop.last") [.text ","],
   .text "\n"]

/-- The columns that are inserted. -/
abbrev insertedNodes : List Node :=
  [.text "[", put "f.pascal_name", .text "]", provided (lacking "loop.last") [.text ", "]]

/-- The values that are inserted. -/
abbrev valueNodes : List Node :=
  [.text "@", put "f.pascal_name", provided (lacking "loop.last") [.text ", "]]

/-- The assignments to the columns of the fields. -/
abbrev assignedNodes : List Node :=
  [.text "[", put "f.pascal_name", .text ("]" ++ " = " ++ "@"), put "f.pascal_name", .text ", "]

/-- What stands before the name of an entity in the name of a procedure. -/
abbrev procedureHead : String := "CREATE OR ALTER PROCEDURE [dbo].[" ++ "usp_"

/-- What stands between the parameters of a procedure and its statement. -/
abbrev bodyHead : String := "AS\nBEGIN\n    SET NOCOUNT ON;\n    "

/-- What stands after the statement of a procedure that another one follows. -/
abbrev bodyEnd : String := "END\nGO\n" ++ "\n"

/-- The nodes of the script of the procedures. -/
def storedProceduresNodes : List Node :=
  [.text "-- Generated by formgen on ", put "generated_at", .text "\n-- Target database: ",
   put "database", .text ("\n" ++ "\n" ++ procedureHead), put "entity_name",
   .text ("_GetAll" ++ "]\n" ++ bodyHead ++ "SELECT " ++ "[Id], "), eachField selectedNodes,
   .text ("[CreatedAt], [UpdatedAt]" ++ "\n    FROM [dbo].["), put "table_name",
   .text ("]\n    " ++ "ORDER BY [Id]" ++ ";\n" ++ bodyEnd ++ procedureHead), put "entity_name",
   .text ("_GetById" ++ "]\n" ++ "    @Id INT\n" ++ bodyHead ++ "SELECT " ++ "[Id], "),
   eachField selectedNodes, .text ("[CreatedAt], [UpdatedAt]" ++ "\n    FROM [dbo].["),
   put "table_name", .text ("]\n    " ++ "WHERE [Id] = @Id" ++ ";\n" ++ bodyEnd ++ procedureHead),
   put "entity_name", .text ("_Insert" ++ "]\n"), eachField parameterNodes,
   .text (bodyHead ++ "INSERT INTO [dbo].["), put "table_name", .text "] (",
   eachField insertedNodes, .text ")\n    VALUES (", eachField valueNodes,
   .text (");\n    SELECT CAST(SCOPE_IDENTITY() AS INT);\n" ++ bodyEnd ++ procedureHead),
   put "entity_name", .text ("_Update" ++ "]\n" ++ "    @Id INT,\n"), eachField parameterNodes,
   .text (bodyHead ++ "UPDATE [dbo].["), put "table_name", .text "]\n    SET ",
   eachField assignedNodes,
   .text ("[UpdatedAt] = SYSUTCDATETIME()" ++
    "\n    WHERE [Id] = @Id;\n    SELECT @@ROWCOUNT;\n" ++ bodyEnd ++ procedureHead),
   put "entity_name", .text ("_Delete" ++ "]\n" ++ "    @Id INT\n" ++ bodyHead ++
    "DELETE FROM [dbo].["), put "table_name",
   .text ("] WHERE [Id] = @Id;\n    SELECT @@ROWCOUNT;\n" ++ "END\nGO\n")]

set_option maxRecDepth 100000 in
theorem reads_createTable : Node.ofText? createTableSql = some createTableNodes := by
  unfold createTableSql
  apply reads_of_spells
  · repeat' first | exact Spells.nil | apply Spells.cons
  · unfold createTableNodes
    repeat'
      first
      | exact JoinedNodes.nil
      | apply JoinedNodes.text
      | apply JoinedNodes.other
      | apply Joined.append
      | exact Joined.one
  · rfl

set_option maxRecDepth 100000 in
theorem reads_storedProcedures :
    Node.ofText? storedProceduresSql = some storedProceduresNodes := by
  unfold storedProceduresSql
  dsimp only
  apply reads_of_spells
  · repeat' first | exact Spells.nil | apply Spells.cons
  · unfold storedProceduresNodes
    repeat'
      first
      | exact JoinedNodes.nil
      | apply JoinedNodes.text
      | apply JoinedNodes.other
      | apply Joined.append
      | exact Joined.one
  · rfl

end FormScaffold.Shipped

namespace FormScaffold.Sql

/-! ## The scripts of a table -/

open Template Shipped Json

/-! ### Scripts -/

/-- A column of a table. -/
structure Column where
  name : String
  type : String
  isIdentity : Bool
  isNullable : Bool
  default : String
  deriving DecidableEq, Repr

/-- The line of a column. -/
def Column.text (c : Column) : String :=
  "        [" ++ c.name ++ "] " ++ c.type ++ (if c.isIdentity then " IDENTITY(1,1)" else "") ++
    " " ++ (if c.isNullable then "NULL" else "NOT NULL") ++ c.default ++ ",\n"

/-- A script that makes a table. -/
structure Table where
  stamp : String
  database : String
  name : String
  columns : List Column

/-- The written form of the script. -/
def Table.text (t : Table) : String :=
  "-- Generated by formgen on " ++ t.stamp ++ "\n-- Target database: " ++ t.database ++
    "\nIF OBJECT_ID(N'[dbo].[" ++ t.name ++ "]', N'U') IS NULL\nBEGIN\n    CREATE TABLE [dbo].[" ++
    t.name ++ "] (\n" ++ String.join (t.columns.map Column.text) ++ "        CONSTRAINT [PK_" ++
    t.name ++ "] PRIMARY KEY CLUSTERED ([Id] ASC)\n    );\nEND\nGO\n"

/-- The column of the number of an entity. -/
def Column.id : Column := ⟨"Id", "INT", true, false, ""⟩

/-- The column of the time at which an entity was made. -/
def Column.createdAt (table : String) : Column :=
  ⟨"CreatedAt", "DATETIME2", false, false,
    " CONSTRAINT [DF_" ++ table ++ "_CreatedAt] DEFAULT (SYSUTCDATETIME())"⟩

/-- The column of the time at which an entity was changed. -/
def Column.updatedAt : Column := ⟨"UpdatedAt", "DATETIME2", false, true, ""⟩

/-- The column of a field. -/
def Column.ofField (f : FieldModel) : Column :=
  ⟨f.pascalName, f.types.columnType, false, !f.required, ""⟩

/-- The table of a model. -/
def Table.ofModel (m : Model) : Table :=
  { stamp := m.generatedAt
    database := m.database.tag
    name := m.tableName
    columns := Column.id :: m.fields.map Column.ofField ++
      [Column.createdAt m.tableName, Column.updatedAt] }

theorem Column.text_id : Column.id.text = "        [Id] INT IDENTITY(1,1) NOT NULL,\n" := rfl

theorem Column.text_createdAt (table : String) : (Column.createdAt table).text =
    "        [CreatedAt] DATETIME2 NOT NULL CONSTRAINT [DF_" ++
      (table ++ ("_CreatedAt] DEFAULT (SYSUTCDATETIME())" ++ ",\n")) := by
  rw [show "        [CreatedAt] DATETIME2 NOT NULL CONSTRAINT [DF_" =
    "        [" ++ "CreatedAt" ++ "] " ++ "DATETIME2" ++ " " ++ "NOT NULL" ++ " CONSTRAINT [DF_"
    from rfl]
  unfold Column.text Column.createdAt
  simp only [Bool.false_eq_true, if_false, String.append_assoc, String.empty_append]

theorem Column.text_updatedAt :
    Column.updatedAt.text = "        [UpdatedAt] DATETIME2 NULL,\n" := rfl

theorem plain_column {f : FieldModel} {isLast : Bool} {b : Bindings} (h : f.Seen isLast b) :
    plainNodes columnNodes b = (Column.ofField f).text := by
  unfold Column.text Column.ofField
  cases hrequired : f.required <;>
    simp [Node.plain_branch, h.pascalName, h.columnType, h.required, hrequired,
      String.append_assoc]

theorem plain_createTable {m : Model} {b : Bindings} (h : m.Seen b) :
    plainNodes createTableNodes b = (Table.ofModel m).text := by
  have hcolumns : (eachField columnNodes).plain b =
      String.join ((m.fields.map Column.ofField).map Column.text) := by
    rw [plain_eachField h _ fun hf _ => plain_column hf, eachText_join, List.map_map]
    rfl
  simp only [createTableNodes, plainNodes_cons, plainNodes_nil, Node.plain_text, Node.after_text,
    plain_put, after_put, hcolumns, after_eachField, h.generatedAt, h.database, h.tableName,
    valueText]
  unfold Table.text Table.ofModel
  simp only [List.map_cons, List.map_append, List.map_nil, List.cons_append, String.join_cons,
    String.join_append, String.join_nil, Column.text_id, Column.text_createdAt,
    Column.text_updatedAt, String.append_assoc, String.append_empty]

/-! ### Scripts of procedures -/

/-- A parameter of a procedure. -/
structure Parameter where
  name : String
  type : String
  defaultsToNull : Bool

/-- The line of a parameter, which ends in a comma unless the parameter is the last one. -/
def Parameter.line (p : Parameter) (isLast : Bool) : String :=
  "    " ++ "@" ++ p.name ++ " " ++ p.type ++ (if p.defaultsToNull then " = NULL" else "") ++
    (if isLast then "" else ",") ++ "\n"

/-- A statement on a table. -/
inductive Statement where
  | select (columns : List String) (table clause : String)
  | insert (table : String) (columns values : List String)
  | update (table : String) (assignments : List (String × String))
  | delete (table : String)

/-- A name as it is written in a statement. -/
def bracketed (name : String) : String := "[" ++ name ++ "]"

/-- The written form of a statement. -/
def Statement.text : Statement → String
  | .select columns table clause =>
      "SELECT " ++ String.intercalate ", " (columns.map bracketed) ++ "\n    FROM [dbo].[" ++
        table ++ "]\n    " ++ clause ++ ";\n"
  | .insert table columns values =>
      "INSERT INTO [dbo].[" ++ table ++ "] (" ++ String.intercalate ", " (columns.map bracketed) ++
        ")\n    VALUES (" ++ String.intercalate ", " values ++
        ");\n    SELECT CAST(SCOPE_IDENTITY() AS INT);\n"
  | .update table assignments =>
      "UPDATE [dbo].[" ++ table ++ "]\n    SET " ++
        String.intercalate ", " (assignments.map fun a => bracketed a.1 ++ " = " ++ a.2) ++
        "\n    WHERE [Id] = @Id;\n    SELECT @@ROWCOUNT;\n"
  | .delete table =>
      "DELETE FROM [dbo].[" ++ table ++ "] WHERE [Id] = @Id;\n    SELECT @@ROWCOUNT;\n"

/-- A procedure with one statement. -/
structure Procedure where
  name : String
  parameters : List Parameter
  statement : Statement

/-- The written form of a procedure. -/
def Procedure.text (p : Procedure) : String :=
  "CREATE OR ALTER PROCEDURE [dbo].[" ++ p.name ++ "]\n" ++
    eachText Parameter.line p.parameters ++ "AS\nBEGIN\n    SET NOCOUNT ON;\n    " ++
    p.statement.text ++ "END\nGO\n"

/-- A script that makes the procedures of a table. -/
structure Script where
  stamp : String
  database : String
  getAll : Procedure
  getById : Procedure
  insert : Procedure
  update : Procedure
  delete : Procedure

/-- The procedures in the order of the script. -/
def Script.procedures (s : Script) : List Procedure :=
  [s.getAll, s.getById, s.insert, s.update, s.delete]

/-- The written form of the script. -/
def Script.text (s : Script) : String :=
  "-- Generated by formgen on " ++ s.stamp ++ "\n-- Target database: " ++ s.database ++ "\n" ++
    String.join (s.procedures.map fun p => "\n" ++ p.text)

/-! #### The procedures of a model -/

/-- The name of the procedure of an operation. -/
def procedureName (m : Model) (operation : String) : String := "usp_" ++ m.entityName ++ operation

/-- The parameter for the number of an entity. -/
def Parameter.id : Parameter := ⟨"Id", "INT", false⟩

/-- The parameter of a field. -/
def Parameter.ofField (f : FieldModel) : Parameter :=
  ⟨f.pascalName, f.types.columnType, !f.required⟩

/-- The names of all columns of the table. -/
def columnNames (m : Model) : List String :=
  "Id" :: m.fields.map FieldModel.pascalName ++ ["CreatedAt", "UpdatedAt"]

/-- The procedures of a model. -/
def Script.ofModel (m : Model) : Script :=
  { stamp := m.generatedAt
    database := m.database.tag
    getAll := ⟨procedureName m "_GetAll", [],
      .select (columnNames m) m.tableName "ORDER BY [Id]"⟩
    getById := ⟨procedureName m "_GetById", [.id],
      .select (columnNames m) m.tableName "WHERE [Id] = @Id"⟩
    insert := ⟨procedureName m "_Insert", m.fields.map .ofField,
      .insert m.tableName (m.fields.map FieldModel.pascalName)
        (m.fields.map fun f => "@" ++ f.pascalName)⟩
    update := ⟨procedureName m "_Update", .id :: m.fields.map .ofField,
      .update m.tableName ((m.fields.map fun f => (f.pascalName, "@" ++ f.pascalName)) ++
        [("UpdatedAt", "SYSUTCDATETIME()")])⟩
    delete := ⟨procedureName m "_Delete", [.id], .delete m.tableName⟩ }

theorem intercalate_columnNames (m : Model) :
    String.intercalate ", " ((columnNames m).map bracketed) =
      "[Id], " ++ (String.join (m.fields.map fun f => bracketed f.pascalName ++ ", ") ++
        "[CreatedAt], [UpdatedAt]") := by
  rw [columnNames, List.map_append, List.map_cons, List.map_cons, intercalate_append_cons,
    List.map_cons, String.join_cons, String.append_assoc, List.map_map, List.map_map]
  rfl

theorem intercalate_assignments (m : Model) :
    String.intercalate ", " (((m.fields.map fun f => (f.pascalName, "@" ++ f.pascalName)) ++
        [("UpdatedAt", "SYSUTCDATETIME()")]).map fun a => bracketed a.1 ++ " = " ++ a.2) =
      String.join (m.fields.map fun f => bracketed f.pascalName ++ " = " ++ ("@" ++ f.pascalName) ++
        ", ") ++ "[UpdatedAt] = SYSUTCDATETIME()" := by
  rw [List.map_append, List.map_cons, intercalate_append_cons, List.map_map, List.map_map]
  rfl

theorem lines_nil : eachText Parameter.line [] = "" := rfl

theorem line_id : eachText Parameter.line [.id] = "    @Id INT\n" := rfl

/-- The parameter for the number is not the last one if there are fields. -/
theorem lines_id_cons {ps : List Parameter} (h : ps ≠ []) :
    eachText Parameter.line (.id :: ps) = "    @Id INT,\n" ++ eachText Parameter.line ps := by
  rw [eachText, List.isEmpty_eq_false_iff.mpr h]
  rfl

theorem plain_selected {m : Model} {b : Bindings} (h : m.Seen b) :
    (eachField selectedNodes).plain b =
      String.join (m.fields.map fun f => bracketed f.pascalName ++ ", ") := by
  rw [plain_eachField h (fun f _ => bracketed f.pascalName ++ ", ") ?_, eachText_join]
  intro f isLast inner hf _
  unfold bracketed
  simp [hf.pascalName, String.append_assoc]

theorem plain_parameters {m : Model} {b : Bindings} (h : m.Seen b) :
    (eachField parameterNodes).plain b =
      eachText Parameter.line (m.fields.map Parameter.ofField) := by
  rw [plain_eachField h (fun f isLast => (Parameter.ofField f).line isLast) ?_, eachText_map]
  intro f isLast inner hf _
  unfold Parameter.line Parameter.ofField
  cases hrequired : f.required <;> cases isLast <;>
    simp [hf.pascalName, hf.columnType, hf.required, hrequired, hf.last, String.append_assoc]

theorem plain_inserted {m : Model} {b : Bindings} (h : m.Seen b) :
    (eachField insertedNodes).plain b =
      String.intercalate ", " (m.fields.map fun f => bracketed f.pascalName) := by
  rw [plain_eachField h
    (fun f isLast => bracketed f.pascalName ++ if isLast then "" else ", ") ?_,
    eachText_intercalate]
  intro f isLast inner hf _
  unfold bracketed
  cases isLast <;> simp [hf.pascalName, hf.last, String.append_assoc]

theorem plain_values {m : Model} {b : Bindings} (h : m.Seen b) :
    (eachField valueNodes).plain b =
      String.intercalate ", " (m.fields.map fun f => "@" ++ f.pascalName) := by
  rw [plain_eachField h (fun f isLast => "@" ++ f.pascalName ++ if isLast then "" else ", ") ?_,
    eachText_intercalate]
  intro f isLast inner hf _
  cases isLast <;> simp [hf.pascalName, hf.last, String.append_assoc]

theorem plain_assigned {m : Model} {b : Bindings} (h : m.Seen b) :
    (eachField assignedNodes).plain b =
      String.join (m.fields.map fun f =>
        bracketed f.pascalName ++ " = " ++ ("@" ++ f.pascalName) ++ ", ") := by
  rw [plain_eachField h
    (fun f _ => bracketed f.pascalName ++ " = " ++ ("@" ++ f.pascalName) ++ ", ") ?_,
    eachText_join]
  intro f isLast inner hf _
  simp only [plainNodes_cons, plainNodes_nil, Node.plain_text, Node.after_text, plain_put,
    after_put, hf.pascalName, valueText]
  unfold bracketed
  simp only [String.append_assoc, String.append_empty]

theorem plain_storedProcedures {m : Model} {b : Bindings} (h : m.Seen b) (hfields : m.fields ≠ []) :
    plainNodes storedProceduresNodes b = (Script.ofModel m).text := by
  simp only [storedProceduresNodes, plainNodes_cons, plainNodes_nil, Node.plain_text,
    Node.after_text, plain_put, after_put, after_eachField, h.generatedAt, h.database, h.tableName,
    h.entityName, valueText, plain_selected h, plain_parameters h, plain_inserted h, plain_values h,
    plain_assigned h]
  have hparameters : m.fields.map Parameter.ofField ≠ [] := mt List.map_eq_nil_iff.mp hfields
  unfold Script.text Script.procedures Script.ofModel Procedure.text Statement.text procedureName
  simp only [List.map_cons, List.map_nil, String.join_cons, String.join_nil]
  simp only [intercalate_columnNames, intercalate_assignments, lines_nil, line_id,
    lines_id_cons hparameters]
  simp only [List.map_map, Function.comp_def, bodyHead, String.append_assoc, String.append_empty]

end FormScaffold.Sql
