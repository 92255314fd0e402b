import CrudScaffold.Naming.Case
import CrudScaffold.Naming.Inflection

/-! The names a model is known by in a Laravel application: its class, variables, table,
routes, views, controller and keys, all derived from the model name by case styles and
inflection. -/

namespace CrudScaffold.Naming

/-- The plural of a name, in snake case. -/
def pluralize (s : String) : String := pluralOf (snakeCase s)

/-- The singular of a name, in snake case. -/
def singularize (s : String) : String := singularOf (snakeCase s)

/-- The plural in Pascal case: `BlogPosts`. -/
def pluralPascal (model : String) : String := pascalCase (pluralize model)

/-- The database table of a model. -/
def tableName (model : String) : String := pluralize model

/-- The resource route prefix of a model: `blog-posts`. -/
def routePrefix (model : String) : String := kebabCase (pluralize model)

/-- The view folder of a model, the same as its route prefix. -/
def viewFolder (model : String) : String := routePrefix model

/-- The variable holding a collection of the model: `blogPosts`. -/
def pluralVariable (model : String) : String := camelCase (pluralize model)

/-- The controller class of a model. -/
def controllerName (model : String) : String := pascalCase model ++ "Controller"

/-- The foreign key that refers to a model. -/
def foreignKeyFor (model : String) : String := snakeCase model ++ "_id"

/-- The accessor of a relation: plural for a relation to many, singular otherwise. -/
def relationMethodName (toMany : Bool) (related : String) : String :=
  if toMany then pluralVariable related else camelCase related

/-- The polymorphic name of a model: `commentable`. -/
def morphName (model : String) : String := snakeCase model ++ "able"

/-- The two snake-case names of a many-to-many pair, in byte order. -/
def pivotPair (first second : String) : String × String :=
  let a := snakeCase first
  let b := snakeCase second
  if b < a then (b, a) else (a, b)

/-- The pivot table of a many-to-many pair. -/
def pivotTableName (first second : String) : String :=
  let p := pivotPair first second
  p.1 ++ "_" ++ p.2

/-- A human label for a field or model name: `Published at`. -/
def label (name : String) : String := sentenceCase name

end CrudScaffold.Naming

namespace CrudScaffold

open Naming

/-- Every name derived from one model name. -/
structure NameSet where
  model : String
  variableName : String
  snake : String
  kebab : String
  plural : String
  pluralVariable : String
  table : String
  routePrefix : String
  viewFolder : String
  controller : String
deriving Repr, DecidableEq

/-- The names of a model; all of them are derived from its Pascal-case class name. -/
def NameSet.ofModel (name : String) : NameSet :=
  let model := pascalCase name
  { model := model
    variableName := camelCase model
    snake := snakeCase model
    kebab := kebabCase model
    plural := pluralPascal model
    pluralVariable := Naming.pluralVariable model
    table := tableName model
    routePrefix := Naming.routePrefix model
    viewFolder := Naming.viewFolder model
    controller := controllerName model }

end CrudScaffold
