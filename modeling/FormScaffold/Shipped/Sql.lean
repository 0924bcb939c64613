import FormScaffold.Shipped.Lines

/-!
# Shipped templates: Sql

Scripts of the relational schema.
-/

namespace FormScaffold.Shipped

/-- The template file `sql/create_table.sql.tera`. -/
def createTableSql : String := ofLines
  ["-- Generated by formgen on \x7b\x7b generated_at \x7d\x7d",
   "-- Target database: \x7b\x7b database \x7d\x7d",
   "IF OBJECT_ID(N'[dbo].[\x7b\x7b table_name \x7d\x7d]', N'U') IS NULL",
   "BEGIN",
   "    CREATE TABLE [dbo].[\x7b\x7b table_name \x7d\x7d] (",
   "        [Id] INT IDENTITY(1,1) NOT NULL,",
   "\x7b% for f in fields %\x7d        [\x7b\x7b f.pascal_name \x7d\x7d] \x7b\x7b f.column_type \x7d\x7d \x7b% if f.required %\x7dNOT NULL\x7b% else %\x7dNULL\x7b% endif %\x7d,",
   "\x7b% endfor %\x7d        [CreatedAt] DATETIME2 NOT NULL CONSTRAINT [DF_\x7b\x7b table_name \x7d\x7d_CreatedAt] DEFAULT (SYSUTCDATETIME()),",
   "        [UpdatedAt] DATETIME2 NULL,",
   "        CONSTRAINT [PK_\x7b\x7b table_name \x7d\x7d] PRIMARY KEY CLUSTERED ([Id] ASC)",
   "    );",
   "END",
   "GO"]

/-- The template file `sql/stored_procedures.sql.tera`. -/
def storedProceduresSql : String := ofLines
  ["-- Generated by formgen on \x7b\x7b generated_at \x7d\x7d",
   "-- Target database: \x7b\x7b database \x7d\x7d",
   "",
   "CREATE OR ALTER PROCEDURE [dbo].[usp_\x7b\x7b entity_name \x7d\x7d_GetAll]",
   "AS",
   "BEGIN",
   "    SET NOCOUNT ON;",
   "    SELECT [Id], \x7b% for f in fields %\x7d[\x7b\x7b f.pascal_name \x7d\x7d], \x7b% endfor %\x7d[CreatedAt], [UpdatedAt]",
   "    FROM [dbo].[\x7b\x7b table_name \x7d\x7d]",
   "    ORDER BY [Id];",
   "END",
   "GO",
   "",
   "CREATE OR ALTER PROCEDURE [dbo].[usp_\x7b\x7b entity_name \x7d\x7d_GetById]",
   "    @Id INT",
   "AS",
   "BEGIN",
   "    SET NOCOUNT ON;",
   "    SELECT [Id], \x7b% for f in fields %\x7d[\x7b\x7b f.pascal_name \x7d\x7d], \x7b% endfor %\x7d[CreatedAt], [UpdatedAt]",
   "    FROM [dbo].[\x7b\x7b table_name \x7d\x7d]",
   "    WHERE [Id] = @Id;",
   "END",
   "GO",
   "",
   "CREATE OR ALTER PROCEDURE [dbo].[usp_\x7b\x7b entity_name \x7d\x7d_Insert]",
   "\x7b% for f in fields %\x7d    @\x7b\x7b f.pascal_name \x7d\x7d \x7b\x7b f.column_type \x7d\x7d\x7b% if not f.required %\x7d = NULL\x7b% endif %\x7d\x7b% if not loop.last %\x7d,\x7b% endif %\x7d",
   "\x7b% endfor %\x7dAS",
   "BEGIN",
   "    SET NOCOUNT ON;",
   "    INSERT INTO [dbo].[\x7b\x7b table_name \x7d\x7d] (\x7b% for f in fields %\x7d[\x7b\x7b f.pascal_name \x7d\x7d]\x7b% if not loop.last %\x7d, \x7b% endif %\x7d\x7b% endfor %\x7d)",
   "    VALUES (\x7b% for f in fields %\x7d@\x7b\x7b f.pascal_name \x7d\x7d\x7b% if not loop.last %\x7d, \x7b% endif %\x7d\x7b% endfor %\x7d);",
   "    SELECT CAST(SCOPE_IDENTITY() AS INT);",
   "END",
   "GO",
   "",
   "CREATE OR ALTER PROCEDURE [dbo].[usp_\x7b\x7b entity_name \x7d\x7d_Update]",
   "    @Id INT,",
   "\x7b% for f in fields %\x7d    @\x7b\x7b f.pascal_name \x7d\x7d \x7b\x7b f.column_type \x7d\x7d\x7b% if not f.required %\x7d = NULL\x7b% endif %\x7d\x7b% if not loop.last %\x7d,\x7b% endif %\x7d",
   "\x7b% endfor %\x7dAS",
   "BEGIN",
   "    SET NOCOUNT ON;",
   "    UPDATE [dbo].[\x7b\x7b table_name \x7d\x7d]",
   "    SET \x7b% for f in fields %\x7d[\x7b\x7b f.pascal_name \x7d\x7d] = @\x7b\x7b f.pascal_name \x7d\x7d, \x7b% endfor %\x7d[UpdatedAt] = SYSUTCDATETIME()",
   "    WHERE [Id] = @Id;",
   "    SELECT @@ROWCOUNT;",
   "END",
   "GO",
   "",
   "CREATE OR ALTER PROCEDURE [dbo].[usp_\x7b\x7b entity_name \x7d\x7d_Delete]",
   "    @Id INT",
   "AS",
   "BEGIN",
   "    SET NOCOUNT ON;",
   "    DELETE FROM [dbo].[\x7b\x7b table_name \x7d\x7d] WHERE [Id] = @Id;",
   "    SELECT @@ROWCOUNT;",
   "END",
   "GO"]

end FormScaffold.Shipped
