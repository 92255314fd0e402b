import CrudScaffold.Artifact.Basic

/-! The database seeder: it makes two pages of records through the model's factory. Seeders
live in one directory, whatever the model's sub-namespace. -/

namespace CrudScaffold

/-- The seeder class. -/
def renderSeeder (ctx : RenderContext) : Except ScaffoldError (List Artifact) := do
  let model := ctx.names.model
  let className := model ++ "Seeder"
  let content ← ctx.render "seeder" [
    ("model_class", ctx.request.modelClass),
    ("class_name", className),
    ("model_name", model),
    ("count", toString ctx.config.seedCount)]
  pure [{ path := joinPath (ArtifactKind.seeder.directory ctx.config.paths) (className ++ ".php")
          content
          description := "Seeder for " ++ model }]

end CrudScaffold
