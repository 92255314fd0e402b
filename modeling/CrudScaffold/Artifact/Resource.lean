import CrudScaffold.Artifact.Basic

/-! The API resource: the id, every field, the timestamps and every relation once loaded,
each related model through its own resource. -/

namespace CrudScaffold

/-- The entry of a relation: the loaded value itself for a polymorphic owner, a collection of
resources for a relation to many, one resource otherwise. -/
def resourceRelationEntry (r : Relation) : String :=
  let method := r.methodName
  let loaded := "$this->whenLoaded(" ++ singleQuoted method ++ ")"
  let resource := r.modelClass ++ "Resource"
  if r.kind == .morphTo then singleQuoted method ++ " => " ++ loaded
  else if r.kind.isToMany then singleQuoted method ++ " => " ++ resource ++ "::collection(" ++ loaded ++ ")"
  else singleQuoted method ++ " => new " ++ resource ++ "(" ++ loaded ++ ")"

/-- The entries of the resource's array. -/
def resourceEntries (r : Request) : List String :=
  ["'id' => $this->id"] ++ r.fields.map (fun f => singleQuoted f.name ++ " => $this->" ++ f.name) ++
    ["'created_at' => $this->created_at?->toISOString()",
     "'updated_at' => $this->updated_at?->toISOString()"] ++
    r.relations.map resourceRelationEntry

/-- The namespace of the resource. -/
def resourceNamespace (ctx : RenderContext) : String :=
  ctx.namespaceUnder (ctx.appNamespace "Http\\Resources")

/-- The resource class. -/
def renderResource (ctx : RenderContext) : Except ScaffoldError (List Artifact) := do
  let className := ctx.names.model ++ "Resource"
  let content ← ctx.render "resource" [
    ("namespace", resourceNamespace ctx),
    ("class_name", className),
    ("fields", joinIndented (resourceEntries ctx.request) 12 ",")]
  pure [{ path := joinPath (ctx.namespacedDir .resource) (className ++ ".php")
          content
          description := "API resource for " ++ ctx.names.model }]

end CrudScaffold
