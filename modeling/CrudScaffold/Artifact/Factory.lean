import CrudScaffold.Artifact.Basic
import CrudScaffold.Schema.Synthetic
import CrudScaffold.Schema.ForeignKeys

/-! The model factory: a synthetic value for every field and foreign key, and named states
that set one field: one per value of an enum field, and two per boolean field (`active` and
`notActive`). A state whose name is empty or taken by an earlier state is left out. -/

namespace CrudScaffold

open Naming

/-- A named factory state: the field it sets and the value, as code. -/
structure FactoryState where
  name : String
  field : String
  value : String
deriving Repr, DecidableEq

/-- `\App\Models\User::factory()` for the related model of a relation. -/
def relatedFactory (ctx : RenderContext) (r : Relation) : String :=
  "\\" ++ ctx.relatedModelClass r.modelClass ++ "::factory()"

/-- The definition entries: a field that is the foreign key of a `belongsTo` relation points
at the related factory, any other field gets its synthetic value; then every foreign key no
field declares points at its factory. -/
def factoryDefinitions (ctx : RenderContext) : List String :=
  let r := ctx.request
  let forField (f : Field) : String :=
    let owner := r.relations.find? fun rel =>
      rel.kind == .belongsTo && rel.effectiveForeignKey == f.name
    let expression := match owner with
      | some rel => relatedFactory ctx rel
      | none => (syntheticStrategy f).expression
    singleQuoted f.name ++ " => " ++ expression
  r.fields.map forField ++ (belongsToForeignKeys r.fields r.relations).map fun (rel, key) =>
    singleQuoted key ++ " => " ++ relatedFactory ctx rel

/-- Every candidate state, enum states first, in field order. -/
def candidateStates (fields : List Field) : List FactoryState :=
  let enumStates := (fields.filter (·.type == .enum)).flatMap fun f =>
    f.effectiveEnumValues.map fun v => ⟨camelCase v, f.name, singleQuoted v⟩
  let booleanStates := (fields.filter (·.type == .boolean)).flatMap fun f =>
    [⟨camelCase f.name, f.name, "true"⟩, ⟨camelCase ("not_" ++ f.name), f.name, "false"⟩]
  enumStates ++ booleanStates

/-- Keeps the states with a name not seen before; `seen` holds the names kept so far. -/
def freshStates (seen : List String) : List FactoryState → List FactoryState
  | [] => []
  | s :: rest =>
    if s.name.isEmpty || seen.contains s.name then freshStates seen rest
    else s :: freshStates (s.name :: seen) rest

/-- The states of a factory. -/
def factoryStates (fields : List Field) : List FactoryState :=
  freshStates [] (candidateStates fields)

/-- The method of a state, after a blank line. -/
def FactoryState.method (s : FactoryState) : String :=
  "\n\n    /**\n     * Indicate that the model is " ++ s.name ++ ".\n     */\n    public function " ++
    s.name ++ "(): static\n    \x7b\n        return $this->state(fn (array $attributes) => [\n" ++
    "            " ++ singleQuoted s.field ++ " => " ++ s.value ++ ",\n        ]);\n    \x7d"

/-- The factory class. -/
def renderFactory (ctx : RenderContext) : Except ScaffoldError (List Artifact) := do
  let names := ctx.names
  let className := names.model ++ "Factory"
  let content ← ctx.render "factory" [
    ("namespace", ctx.namespaceUnder "Database\\Factories"),
    ("model_class", ctx.request.modelClass),
    ("model_name", names.model),
    ("class_name", className),
    ("definitions", joinIndented (factoryDefinitions ctx) 12 ","),
    ("states", String.join ((factoryStates ctx.request.fields).map FactoryState.method))]
  pure [{ path := joinPath (ctx.namespacedDir .factory) (className ++ ".php")
          content
          description := "Factory for " ++ names.model }]

end CrudScaffold
