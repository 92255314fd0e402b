import CrudScaffold.Artifact.FormRequest
import CrudScaffold.Artifact.Resource

/-! The resource controller: listing with search, sorting and pagination, and the create,
show, update and delete actions. An API-only request gets the JSON flavour, which answers
through the API resource; the other flavour answers with views. -/

namespace CrudScaffold

open Naming

/-- The relation accessors to load with the model, in declaration order. -/
def eagerLoads (r : Request) : List String :=
  r.relations.map fun rel => singleQuoted rel.methodName

/-- The searchable fields as a PHP list, or `['id']` when none is. -/
def searchFields (r : Request) : String :=
  match (r.fields.filter (·.type.isSearchable)).map (singleQuoted ·.name) with
  | [] => "['id']"
  | names => "[" ++ ", ".intercalate names ++ "]"

/-- The columns a listing may be sorted by. -/
def sortableFields (ctx : RenderContext) : String :=
  let cols := ["'id'"] ++ ctx.request.fields.map (singleQuoted ·.name) ++
    (if ctx.config.timestamps then ["'created_at'"] else [])
  "[" ++ ", ".intercalate cols ++ "]"

/-- The class a controller extends: the sibling `Controller`, or the root one from a
sub-namespace. -/
def baseController (ctx : RenderContext) : String :=
  if ctx.request.subNamespace.isEmpty then "Controller"
  else "\\" ++ ctx.appNamespace "Http\\Controllers" ++ "\\Controller"

/-- The namespace of the controller. -/
def controllerNamespace (ctx : RenderContext) : String :=
  ctx.namespaceUnder (ctx.appNamespace "Http\\Controllers")

/-- The controller class. -/
def renderController (ctx : RenderContext) : Except ScaffoldError (List Artifact) := do
  let names := ctx.names
  let requests := requestNamespace ctx
  let (withRelations, loadRelations) := match eagerLoads ctx.request with
    | [] => ("", "")
    | loads =>
      let list := ", ".intercalate loads
      ("->with([" ++ list ++ "])", "->load([" ++ list ++ "])")
  let values := [
    ("namespace", controllerNamespace ctx),
    ("base_controller", baseController ctx),
    ("model_class", ctx.request.modelClass),
    ("store_request_class", requests ++ "\\Store" ++ names.model ++ "Request"),
    ("update_request_class", requests ++ "\\Update" ++ names.model ++ "Request"),
    ("class_name", names.controller),
    ("model_name", names.model),
    ("model_variable", names.variableName),
    ("model_variable_plural", names.pluralVariable),
    ("store_request", "Store" ++ names.model ++ "Request"),
    ("update_request", "Update" ++ names.model ++ "Request"),
    ("with_relations", withRelations),
    ("load_relations", loadRelations),
    ("search_fields", searchFields ctx.request),
    ("sortable_fields", sortableFields ctx),
    ("per_page", toString ctx.config.perPage),
    ("view_folder", names.viewFolder),
    ("route_prefix", names.routePrefix),
    ("label", label names.snake)]
  let api := ctx.request.apiOnly
  let (stub, values) :=
    if api then
      ("controller.api", values ++ [
        ("resource_class", resourceNamespace ctx ++ "\\" ++ names.model ++ "Resource"),
        ("resource_name", names.model ++ "Resource")])
    else ("controller", values)
  let content ← ctx.render stub values
  pure [{ path := joinPath (ctx.namespacedDir .controller) (names.controller ++ ".php")
          content
          description := (if api then "API controller" else "Controller") ++ " for " ++ names.model }]

end CrudScaffold
