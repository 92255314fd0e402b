import CrudScaffold.Artifact.Basic
import CrudScaffold.Schema.Column
import CrudScaffold.Schema.ForeignKeys

/-! Migrations: one that creates the model's table, then one pivot table migration for each
many-to-many relation. The file names start with the clock's stamp, and each pivot is stamped
one second after the migration before it, so the files sort in the order they must run. A
pivot whose stamp would pass the end of the calendar stops the run. -/

namespace CrudScaffold

open Naming

/-- The column lines of the table: one per field, one per foreign key no field declares,
then a blank line and the timestamp and soft-delete columns, each indented to sit inside
`Schema::create`. -/
def migrationColumns (ctx : RenderContext) : String :=
  let fieldLines := ctx.request.fields.map fun f => (storageColumn f).render
  let keyLines := (belongsToForeignKeys ctx.request.fields ctx.request.relations).map
    fun (r, key) => "$table->foreignId('" ++ key ++ "')->constrained('" ++ tableName r.target ++
      "')->cascadeOnDelete();"
  let lines := fieldLines ++ keyLines
  let markers := (if ctx.config.timestamps then ["$table->timestamps();"] else []) ++
    (if ctx.config.softDeletes then ["$table->softDeletes();"] else [])
  let all := lines ++ (if !markers.isEmpty && !lines.isEmpty then [""] else []) ++ markers
  "\n".intercalate (all.map fun l => if l.isEmpty then "" else "            " ++ l)

/-- The file name of a migration creating a table, stamped with a moment. -/
def migrationFileName (stampAt : Moment) (table : String) : String :=
  stampAt.stamp ++ "_create_" ++ table ++ "_table.php"

/-- The pivot migration of a many-to-many relation, stamped with a moment. -/
def pivotMigration (ctx : RenderContext) (r : Relation) (stampAt : Moment) :
    Except ScaffoldError Artifact := do
  let (first, second) := pivotPair ctx.names.model r.target
  let pivot := first ++ "_" ++ second
  let content ← ctx.render "migration.pivot" [
    ("table_name", pivot),
    ("foreign_key_1", first ++ "_id"),
    ("foreign_key_2", second ++ "_id"),
    ("table_1", pluralize first),
    ("table_2", pluralize second)]
  let dir := ArtifactKind.migration.directory ctx.config.paths
  pure { path := joinPath dir (migrationFileName stampAt pivot)
         content
         description := "Pivot migration for " ++ pivot ++ " table" }

/-- The pivot migrations of many-to-many relations, each stamped one second after `last`, the
stamp of the migration before it. -/
def pivotMigrations (ctx : RenderContext) (last : Moment) :
    List Relation → Except ScaffoldError (List Artifact)
  | [] => pure []
  | r :: rs => do
    let stampAt ← match last.next? with
      | some m => pure m
      | none => throw .clockOverflow
    let a ← pivotMigration ctx r stampAt
    let rest ← pivotMigrations ctx stampAt rs
    pure (a :: rest)

/-- The table migration and the pivot migrations. -/
def renderMigrations (ctx : RenderContext) : Except ScaffoldError (List Artifact) := do
  let table := ctx.names.table
  let content ← ctx.render "migration" [("table_name", table), ("columns", migrationColumns ctx)]
  let dir := ArtifactKind.migration.directory ctx.config.paths
  let main : Artifact :=
    { path := joinPath dir (migrationFileName ctx.now table)
      content
      description := "Migration for " ++ table ++ " table" }
  let rest ← pivotMigrations ctx ctx.now (ctx.request.relations.filter (·.kind == .belongsToMany))
  pure (main :: rest)

end CrudScaffold
