import CrudScaffold.Artifact.Controller

/-! Route registration: a route group appended to `web.php`, or to `api.php` for an API-only
request. A route file that does not exist starts with the PHP opening tag and the `Route`
import; a model whose resource route is in the file already is not registered again. -/

namespace CrudScaffold

/-- The opening of a route file. -/
def routeFilePreamble : String := "<?php\n\nuse Illuminate\\Support\\Facades\\Route;\n"

/-- Middleware as PHP: one name quoted, several (or none) as a list. -/
def middlewareText : List String → String
  | [single] => singleQuoted single
  | many => "[" ++ ", ".intercalate (many.map singleQuoted) ++ "]"

/-- The text whose presence in the route file shows the model is registered. -/
def routeMarker (api : Bool) (routePrefix : String) : String :=
  (if api then "Route::apiResource(" else "Route::resource(") ++ singleQuoted routePrefix

/-- The route registration. -/
def renderRoutes (ctx : RenderContext) : Except ScaffoldError (List Artifact) := do
  let names := ctx.names
  let routes := ctx.config.routes
  let api := ctx.request.apiOnly
  let (stub, file, middleware, routeName) :=
    if api then ("routes.api", "api.php", routes.apiMiddleware, "api." ++ names.routePrefix)
    else ("routes.web", "web.php", routes.middleware, names.routePrefix)
  let groupPrefix :=
    if routes.urlPrefix.isEmpty || api then "" else "->prefix(" ++ singleQuoted routes.urlPrefix ++ ")"
  let content ← ctx.render stub [
    ("model_name", names.model),
    ("middleware", middlewareText middleware),
    ("prefix_call", groupPrefix),
    ("route_prefix", names.routePrefix),
    ("controller_class", "\\" ++ controllerNamespace ctx ++ "\\" ++ names.controller),
    ("route_name", routeName)]
  pure [{ path := joinPath (ArtifactKind.routes.directory ctx.config.paths) file
          content
          description := (if api then "API" else "Web") ++ " routes for " ++ names.model
          mode := .appendUnlessPresent (routeMarker api names.routePrefix) (some routeFilePreamble) }]

end CrudScaffold
