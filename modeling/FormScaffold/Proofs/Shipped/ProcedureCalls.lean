import FormScaffold.Proofs.Shipped.FieldLoops
import FormScaffold.Proofs.Shipped.Spelling
import FormScaffold.Proofs.Shipped.SqlScripts
import FormScaffold.Shipped.ObjectModel

/-!
# Calls of the procedures of a table

The class that the repository template makes, as the calls in its methods: the procedure that each
method calls, and the parameters that it passes by name.
-/

namespace FormScaffold.Shipped

/-!
## The nodes of the repository

What the template of the class that calls the procedures of a table is read as.
-/

open Template

/-- The line that adds the value of a field to the parameters of a call. -/
abbrev addedNodes : List Node :=
  [.text "        parameters.Add(\"", put "f.pascal_name", .text "\", ", put "entity_name_camel",
   .text ".", put "f.pascal_name", .text ");\n"]

/-- What stands before the name of an entity in the name of a procedure that is called. -/
abbrev commandHead : String :=
  "        var command = new CommandDefinition(\n            \"dbo." ++ "usp_"

/-- What stands after the parameters of a call. -/
abbrev commandEnd : String :=
  "            commandType: CommandType.StoredProcedure,\n" ++
    "            cancellationToken: cancellationToken);\n"

/-- What stands between the head of a method and its call. -/
abbrev connected : String := "        using var connection = CreateConnection();\n"

/-- What stands between the entity that a method is given and the parameters of its call. -/
abbrev collected : String :=
  ", CancellationToken cancellationToken = default)\n    \x7b\n" ++ connected ++
    "        var parameters = new DynamicParameters();\n"

/-- The nodes of the class that calls the procedures. -/
def repositoryNodes : List Node :=
  [.text "// <auto-generated>\n//     Generated by formgen on ", put "generated_at",
   .text (".\n// </auto-generated>\nusing System.Data;\nusing Dapper;\n" ++
    "using Microsoft.Data.SqlClient;\nusing Microsoft.Extensions.Configuration;\nusing "),
   put "namespace", .text ".Models.Entities;\nusing ", put "namespace",
   .text ".Repositories.Interfaces;\n\nnamespace ", put "namespace",
   .text ".Repositories;\n\npublic class ", put "entity_name", .text "Repository : I",
   put "entity_name",
   .text "Repository\n\x7b\n    private readonly string _connectionString;\n\n    public ",
   put "entity_name",
   .text ("Repository(IConfiguration configuration)\n    \x7b\n" ++
    "        _connectionString = configuration.GetConnectionString(\"DefaultConnection\")\n" ++
    "            ?? throw new InvalidOperationException(" ++
    "\"Connection string 'DefaultConnection' is not configured.\");\n    \x7d\n\n" ++
    "    private IDbConnection CreateConnection() => new SqlConnection(_connectionString);\n\n" ++
    "    public async Task<IReadOnlyList<"),
   put "entity_name",
   .text (">> GetAllAsync(CancellationToken cancellationToken = default)\n    \x7b\n" ++
    connected ++ commandHead),
   put "entity_name",
   .text ("_GetAll" ++ "\",\n" ++ commandEnd ++ "        var rows = await connection.QueryAsync<"),
   put "entity_name",
   .text ">(command);\n        return rows.ToList();\n    \x7d\n\n    public async Task<",
   put "entity_name",
   .text ("?> GetByIdAsync(int id, CancellationToken cancellationToken = default)\n    \x7b\n" ++
    connected ++ commandHead),
   put "entity_name",
   .text ("_GetById" ++ "\",\n" ++ "            new \x7b Id = id \x7d,\n" ++ commandEnd ++
    "        return await connection.QuerySingleOrDefaultAsync<"),
   put "entity_name",
   .text (">(command);\n    \x7d\n\n" ++ "    public async Task<int> CreateAsync("),
   put "entity_name", .text " ", put "entity_name_camel", .text collected, eachField addedNodes,
   .text commandHead, put "entity_name",
   .text ("_Insert" ++ "\",\n" ++ "            parameters,\n" ++ commandEnd ++
    "        return await connection.ExecuteScalarAsync<int>(command);\n    \x7d\n\n" ++
    "    public async Task<bool> UpdateAsync("),
   put "entity_name", .text " ", put "entity_name_camel",
   .text (collected ++ "        parameters.Add(\"" ++ "Id" ++ "\", "), put "entity_name_camel",
   .text ("." ++ "Id" ++ ");\n"), eachField addedNodes, .text commandHead, put "entity_name",
   .text ("_Update" ++ "\",\n" ++ "            parameters,\n" ++ commandEnd ++
    "        return await connection.ExecuteScalarAsync<int>(command) > 0;\n    \x7d\n\n" ++
    "    public async Task<bool> DeleteAsync(int id, CancellationToken cancellationToken = default)\n" ++
    "    \x7b\n" ++ connected ++ commandHead),
   put "entity_name",
   .text ("_Delete" ++ "\",\n" ++ "            new \x7b Id = id \x7d,\n" ++ commandEnd ++
    "        return await connection.ExecuteScalarAsync<int>(command) > 0;\n    \x7d\n\x7d\n")]

set_option maxRecDepth 100000 in
theorem reads_repository : Node.ofText? repositoryCs = some repositoryNodes := by
  unfold repositoryCs
  dsimp only
  apply reads_of_spells
  · repeat' first | exact Spells.nil | apply Spells.cons
  · unfold repositoryNodes
    repeat'
      first
      | exact JoinedNodes.nil
      | apply JoinedNodes.text
      | apply JoinedNodes.other
      | apply Joined.append
      | exact Joined.one
  · rfl

end FormScaffold.Shipped

namespace FormScaffold.Sql

/-! ## Calls of the procedures of a table -/

open Template Shipped Json

/-- A parameter that is passed, and the expression of its value. -/
structure Argument where
  name : String
  value : String

/-- A call of a procedure. -/
structure Call where
  procedure : String
  arguments : List Argument

namespace Call

/-- The call with what stands between the name of the procedure and the kind of the command. -/
def command (c : Call) (arguments : String) : String :=
  "        var command = new CommandDefinition(\n            \"dbo." ++ c.procedure ++ "\",\n" ++
    arguments ++ commandEnd

/-- The parameters as the members of an object. -/
def members (c : Call) : String :=
  "            new \x7b " ++
    String.intercalate ", " (c.arguments.map fun a => a.name ++ " = " ++ a.value) ++ " \x7d,\n"

/-- The parameters as they are added to a collection. -/
def additions (c : Call) : String :=
  String.join (c.arguments.map fun a =>
    "        parameters.Add(\"" ++ a.name ++ "\", " ++ a.value ++ ");\n")

end Call

/-- A class that calls the procedures of a table. -/
structure Repository where
  stamp : String
  projectNamespace : String
  entity : String
  parameter : String
  getAll : Call
  getById : Call
  create : Call
  update : Call
  delete : Call

namespace Repository

/-- The calls in the order of the methods. -/
def calls (r : Repository) : List Call := [r.getAll, r.getById, r.create, r.update, r.delete]

/-- What stands before the methods. -/
def head (r : Repository) : String :=
  "// <auto-generated>\n//     Generated by formgen on " ++ r.stamp ++
    ".\n// </auto-generated>\nusing System.Data;\nusing Dapper;\n" ++
    "using Microsoft.Data.SqlClient;\nusing Microsoft.Extensions.Configuration;\nusing " ++
    r.projectNamespace ++ ".Models.Entities;\nusing " ++ r.projectNamespace ++
    ".Repositories.Interfaces;\n\nnamespace " ++ r.projectNamespace ++
    ".Repositories;\n\npublic class " ++ r.entity ++ "Repository : I" ++ r.entity ++
    "Repository\n\x7b\n    private readonly string _connectionString;\n\n    public " ++ r.entity ++
    "Repository(IConfiguration configuration)\n    \x7b\n" ++
    "        _connectionString = configuration.GetConnectionString(\"DefaultConnection\")\n" ++
    "            ?? throw new InvalidOperationException(" ++
    "\"Connection string 'DefaultConnection' is not configured.\");\n    \x7d\n\n" ++
    "    private IDbConnection CreateConnection() => new SqlConnection(_connectionString);\n\n"

/-- The methods that read entities. -/
def queries (r : Repository) : String :=
  "    public async Task<IReadOnlyList<" ++ r.entity ++
    ">> GetAllAsync(CancellationToken cancellationToken = default)\n    \x7b\n" ++ connected ++
    r.getAll.command "" ++ "        var rows = await connection.QueryAsync<" ++ r.entity ++
    ">(command);\n        return rows.ToList();\n    \x7d\n\n    public async Task<" ++ r.entity ++
    "?> GetByIdAsync(int id, CancellationToken cancellationToken = default)\n    \x7b\n" ++
    connected ++ r.getById.command r.getById.members ++
    "        return await connection.QuerySingleOrDefaultAsync<" ++ r.entity ++
    ">(command);\n    \x7d\n\n"

/-- The methods that make, change and remove entities. -/
def commands (r : Repository) : String :=
  "    public async Task<int> CreateAsync(" ++ r.entity ++ " " ++ r.parameter ++ collected ++
    r.create.additions ++ r.create.command "            parameters,\n" ++
    "        return await connection.ExecuteScalarAsync<int>(command);\n    \x7d\n\n" ++
    "    public async Task<bool> UpdateAsync(" ++ r.entity ++ " " ++ r.parameter ++ collected ++
    r.update.additions ++ r.update.command "            parameters,\n" ++
    "        return await connection.ExecuteScalarAsync<int>(command) > 0;\n    \x7d\n\n" ++
    "    public async Task<bool> DeleteAsync(int id, CancellationToken cancellationToken = default)\n" ++
    "    \x7b\n" ++ connected ++ r.delete.command r.delete.members ++
    "        return await connection.ExecuteScalarAsync<int>(command) > 0;\n    \x7d\n\x7d\n"

/-- The written form of the class. -/
def text (r : Repository) : String := r.head ++ r.queries ++ r.commands

/-- The parameter for a field of an entity. -/
def argument (m : Model) (f : FieldModel) : Argument :=
  ⟨f.pascalName, m.entityNameCamel ++ "." ++ f.pascalName⟩

/-- The class of a model. -/
def ofModel (m : Model) : Repository :=
  { stamp := m.generatedAt
    projectNamespace := m.projectNamespace
    entity := m.entityName
    parameter := m.entityNameCamel
    getAll := ⟨procedureName m "_GetAll", []⟩
    getById := ⟨procedureName m "_GetById", [⟨"Id", "id"⟩]⟩
    create := ⟨procedureName m "_Insert", m.fields.map (argument m)⟩
    update := ⟨procedureName m "_Update",
      ⟨"Id", m.entityNameCamel ++ "." ++ "Id"⟩ :: m.fields.map (argument m)⟩
    delete := ⟨procedureName m "_Delete", [⟨"Id", "id"⟩]⟩ }

end Repository

theorem members_id (procedure : String) :
    Call.members ⟨procedure, [⟨"Id", "id"⟩]⟩ = "            new \x7b Id = id \x7d,\n" := rfl

theorem plain_additions {m : Model} {b : Bindings} (h : m.Seen b) :
    (eachField addedNodes).plain b = String.join (m.fields.map fun f =>
      "        parameters.Add(\"" ++ f.pascalName ++ "\", " ++
        (m.entityNameCamel ++ "." ++ f.pascalName) ++ ");\n") := by
  rw [plain_eachField h (fun f _ => "        parameters.Add(\"" ++ f.pascalName ++ "\", " ++
    (m.entityNameCamel ++ "." ++ f.pascalName) ++ ");\n") ?_, eachText_join]
  intro f isLast inner hf hm
  simp [hf.pascalName, hm.entityNameCamel, String.append_assoc]

theorem plain_repository {m : Model} {b : Bindings} (h : m.Seen b) :
    plainNodes repositoryNodes b = (Repository.ofModel m).text := by
  simp only [repositoryNodes, plainNodes_cons, plainNodes_nil, Node.plain_text, Node.after_text,
    plain_put, after_put, after_eachField, h.generatedAt, h.projectNamespace, h.entityName,
    h.entityNameCamel, valueText, plain_additions h]
  unfold Repository.text Repository.head Repository.queries Repository.commands Repository.ofModel
    Call.command Call.additions procedureName Repository.argument
  simp only [members_id, List.map_cons, String.join_cons, List.map_map, Function.comp_def,
    connected, collected, commandHead, commandEnd, String.append_assoc, String.append_empty]

end FormScaffold.Sql
