import CrudScaffold.Schema.Input

/-! The configuration of a project: namespace, styling, output directories, which artifacts
are made by default, route registration, pagination and form widgets per field type. The
defaults are those of a fresh Laravel application. -/

namespace CrudScaffold

/-- The CSS framework the views are styled for. -/
inductive CssFramework where
  | tailwind
  | bootstrap
deriving Repr, DecidableEq, Inhabited

/-- The configuration name of a framework. -/
def CssFramework.name : CssFramework → String
  | .tailwind => "tailwind"
  | .bootstrap => "bootstrap"

/-- Output directories, relative to the project root. -/
structure PathSettings where
  model : String := "app/Models"
  controller : String := "app/Http/Controllers"
  request : String := "app/Http/Requests"
  resource : String := "app/Http/Resources"
  migration : String := "database/migrations"
  seeder : String := "database/seeders"
  factory : String := "database/factories"
  view : String := "resources/views"
  route : String := "routes"
deriving Repr, DecidableEq, Inhabited

/-- Which artifact kinds are made when a request says nothing. -/
structure GenerateSettings where
  migration : Bool := true
  model : Bool := true
  factory : Bool := true
  seeder : Bool := true
  request : Bool := true
  resource : Bool := true
  controller : Bool := true
  views : Bool := true
  routes : Bool := true
deriving Repr, DecidableEq, Inhabited

/-- How routes are registered. -/
structure RouteSettings where
  /-- URL prefix of the web route group; empty for none. -/
  urlPrefix : String := ""
  middleware : List String := ["web"]
  apiMiddleware : List String := ["api"]
deriving Repr, DecidableEq, Inhabited

/-- The configuration of a project. -/
structure Config where
  /-- The root PHP namespace of the application. -/
  rootNamespace : String := "App"
  cssFramework : CssFramework := .tailwind
  apiOnly : Bool := false
  softDeletes : Bool := true
  timestamps : Bool := true
  /-- Directory of project stubs that override the bundled ones. -/
  stubsPath : String := "resources/stubs/vendor/crudwright"
  paths : PathSettings := {}
  generate : GenerateSettings := {}
  routes : RouteSettings := {}
  /-- Records per page of a listing, below 2^32. -/
  perPage : Nat := 15
  /-- Form widgets per field type name, in key order. -/
  fieldTypes : List (String × InputKind) := []
deriving Repr, DecidableEq, Inhabited

/-- Records a seeder makes: two pages, capped at 2^32 - 1. -/
def Config.seedCount (c : Config) : Nat :=
  min (2 * c.perPage) 4294967295

end CrudScaffold
