import FormScaffold.Proofs.Form.Accepted
import FormScaffold.Proofs.Shipped.ScriptReading
import FormScaffold.Proofs.Shipped.Sources

/-!
# The database layer

The table, its procedures and the class that calls them are made by three templates, none of which
knows of the others.  With the model of an accepted form they agree: each procedure is called by
its name with its parameters, and what the procedures say of columns is what the table declares.
-/

namespace FormScaffold.Sql

open Template Shipped Text Reader

variable (world : Functions.World) (m : Model)

/-! ## The three templates -/

theorem renders_createTable : Renders world "create_table" m (Table.ofModel m).text :=
  plain_createTable (m.seen_given world.now) ▸ renders_of_reads
    (mem_sources_of_entry "sql/create_table.sql.tera" (by decide) rfl)
    reads_createTable world m

theorem renders_storedProcedures (hfields : m.fields ≠ []) :
    Renders world "stored_procedures" m (Script.ofModel m).text :=
  plain_storedProcedures (m.seen_given world.now) hfields ▸ renders_of_reads
    (mem_sources_of_entry "sql/stored_procedures.sql.tera" (by decide) rfl)
    reads_storedProcedures world m

theorem renders_repository : Renders world "repository" m (Repository.ofModel m).text :=
  plain_repository (m.seen_given world.now) ▸ renders_of_reads
    (mem_sources_of_entry "object_model/repository.cs.tera" (by decide) rfl)
    reads_repository world m

/-! ## Agreement -/

/-- The parameter for the value of a column. -/
def Parameter.ofColumn (c : Column) : Parameter := ⟨c.name, c.type, c.isNullable⟩

/-- The call passes the parameters of the procedure, by name and in order. -/
structure Call.Fits (c : Call) (p : Procedure) : Prop where
  procedure : c.procedure = p.name
  arguments : c.arguments.map Argument.name = p.parameters.map Parameter.name

/-- A script of procedures is about the columns of a table, of which it sets the own ones from
parameters.  Such a parameter has the type of its column and can be left out if that can be null. -/
structure Script.Fits (s : Script) (t : Table) (own : List Column) : Prop where
  getAll : ∃ clause, s.getAll.statement = .select (t.columns.map Column.name) t.name clause
  getById : ∃ clause, s.getById.statement = .select (t.columns.map Column.name) t.name clause
  insert : s.insert.statement =
    .insert t.name (own.map Column.name) (own.map fun c => "@" ++ c.name)
  update : s.update.statement = .update t.name
    ((own.map fun c => (c.name, "@" ++ c.name)) ++ [("UpdatedAt", "SYSUTCDATETIME()")])
  delete : s.delete.statement = .delete t.name
  insertParameters : s.insert.parameters = own.map Parameter.ofColumn
  updateParameters : s.update.parameters = Parameter.id :: own.map Parameter.ofColumn

/-- A table, a script of its procedures and a class that calls them are one layer.  The table's own
columns are those besides its key and its two times. -/
structure Layered (t : Table) (s : Script) (r : Repository) (own : List Column) : Prop where
  columns : t.columns = Column.id :: own ++ [Column.createdAt t.name, Column.updatedAt]
  script : s.Fits t own
  calls : List.Forall₂ Call.Fits r.calls s.procedures

theorem columnNames_ofModel : (Table.ofModel m).columns.map Column.name = columnNames m := by
  unfold Table.ofModel columnNames
  rw [List.map_append, List.map_cons, List.map_map]
  rfl

theorem fits_ofModel :
    (Script.ofModel m).Fits (Table.ofModel m) (m.fields.map Column.ofField) where
  getAll := ⟨_, congrArg (fun names => Statement.select names m.tableName "ORDER BY [Id]")
    (columnNames_ofModel m).symm⟩
  getById := ⟨_, congrArg (fun names => Statement.select names m.tableName "WHERE [Id] = @Id")
    (columnNames_ofModel m).symm⟩
  insert := by
    rw [List.map_map, List.map_map]
    rfl
  update := by
    rw [List.map_map]
    rfl
  delete := rfl
  insertParameters := by
    rw [List.map_map]
    rfl
  updateParameters := by
    rw [List.map_map]
    rfl

theorem layered_ofModel : Layered (Table.ofModel m) (Script.ofModel m) (Repository.ofModel m)
    (m.fields.map Column.ofField) where
  columns := rfl
  script := fits_ofModel m
  calls := by
    have hfields : (m.fields.map (Repository.argument m)).map Argument.name =
        (m.fields.map Parameter.ofField).map Parameter.name := by
      rw [List.map_map, List.map_map]
      rfl
    refine .cons ⟨rfl, rfl⟩ (.cons ⟨rfl, rfl⟩ (.cons ⟨rfl, hfields⟩ (.cons ⟨rfl, ?_⟩
      (.cons ⟨rfl, rfl⟩ .nil))))
    exact congrArg ("Id" :: ·) hfields

/-- With the model of every accepted form under all options at all times, the three templates make
the written forms of a table, of a script and of a class that are one layer, whose own columns
are those of the form's fields.  The two scripts are read back as what they declare. -/
theorem database_layer_agrees {form : FormDefinition} (haccepted : form.validate = .ok ())
    (options : GenerationOptions) (now : Calendar.Instant) (world : Functions.World) :
    ∃ table script repository,
      Renders world "create_table" (Model.build form options now) table.text ∧
      Renders world "stored_procedures" (Model.build form options now) script.text ∧
      Renders world "repository" (Model.build form options now) repository.text ∧
      Reads tableReader table.text table ∧ Reads scriptReader script.text script ∧
      Layered table script repository
        (form.fields.map fun f => Column.ofField (FieldModel.ofField f)) := by
  have hfields : (Model.build form options now).fields ≠ [] :=
    mt List.map_eq_nil_iff.mp (FormDefinition.validate_eq_ok.mp haccepted).fields
  refine ⟨_, _, _, renders_createTable world _, renders_storedProcedures world _ hfields,
    renders_repository world _, (isLegible_table form options now).reads,
    (isLegible_script form options now hfields).reads, ?_⟩
  have hown : (form.fields.map fun f => Column.ofField (FieldModel.ofField f)) =
      (Model.build form options now).fields.map Column.ofField := by
    unfold Model.build
    rw [List.map_map]
    rfl
  exact hown ▸ layered_ofModel (Model.build form options now)

/-- A form with a mandatory and an optional field. -/
def contactForm : FormDefinition :=
  ⟨none, none, [⟨"full name", "text", true, none, none, none, some 40, none, none, []⟩,
    ⟨"age", "number", false, none, none, none, none, none, none, []⟩]⟩

theorem contactForm_layered : contactForm.validate = .ok () ∧
    ∃ table script repository,
      Renders ⟨⟨0, 0⟩, []⟩ "create_table"
        (Model.build contactForm (.bare "contact") ⟨0, 0⟩) table.text ∧
      Renders ⟨⟨0, 0⟩, []⟩ "stored_procedures"
        (Model.build contactForm (.bare "contact") ⟨0, 0⟩) script.text ∧
      Renders ⟨⟨0, 0⟩, []⟩ "repository"
        (Model.build contactForm (.bare "contact") ⟨0, 0⟩) repository.text ∧
      Reads tableReader table.text table ∧ Reads scriptReader script.text script ∧
      Layered table script repository
        [⟨"FullName", "NVARCHAR(40)", false, false, ""⟩, ⟨"Age", "INT", false, true, ""⟩] := by
  have haccepted : contactForm.validate = .ok () := by decide
  have hown : (contactForm.fields.map fun f => Column.ofField (FieldModel.ofField f)) =
      [⟨"FullName", "NVARCHAR(40)", false, false, ""⟩,
        ⟨"Age", "INT", false, true, ""⟩] := by
    decide
  exact ⟨haccepted, hown ▸ database_layer_agrees haccepted (.bare "contact") ⟨0, 0⟩ ⟨⟨0, 0⟩, []⟩⟩

end FormScaffold.Sql
