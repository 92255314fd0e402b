import CrudScaffold.Artifact.Basic
import CrudScaffold.Schema.Column
import CrudScaffold.Schema.ForeignKeys

/-! The Eloquent model: its table, mass-assignable columns, casts, traits, imports and one
accessor per relation. -/

namespace CrudScaffold

open Naming

/-- The relation class of a kind: `BelongsTo`, `HasMany`, ... -/
def relationClass (k : RelationKind) : String := pascalCase k.name

/-- The columns that may be mass assigned: the fields, then the foreign keys no field
declares. -/
def fillableColumns (r : Request) : List String :=
  r.fields.map (·.name) ++ (belongsToForeignKeys r.fields r.relations).map (·.2)

/-- The cast entries, `'name' => 'cast'`, of the fields that have a cast. -/
def castEntries (r : Request) : List String :=
  r.fields.filterMap fun f => (modelCast f).map fun c => singleQuoted f.name ++ " => " ++ singleQuoted c

/-- The classes the model imports, sorted and without repeats: the base classes, the
soft-delete trait when configured, and per relation its class and the related model (unless
that is the model itself or the relation is polymorphic). -/
def modelImports (ctx : RenderContext) : List String :=
  let base := ["Illuminate\\Database\\Eloquent\\Factories\\HasFactory",
    "Illuminate\\Database\\Eloquent\\Model"] ++
    (if ctx.config.softDeletes then ["Illuminate\\Database\\Eloquent\\SoftDeletes"] else [])
  let perRelation := ctx.request.relations.flatMap fun r =>
    ["Illuminate\\Database\\Eloquent\\Relations\\" ++ relationClass r.kind] ++
      (if r.kind != .morphTo && r.modelClass != ctx.names.model then
        [ctx.relatedModelClass r.modelClass] else [])
  ((base ++ perRelation).mergeSort fun a b => decide (a ≤ b)).eraseDups

/-- The builder call that an accessor returns. -/
def relationCall (ctx : RenderContext) (r : Relation) : String :=
  let related := r.modelClass
  let explicitKey := match r.foreignKey with
    | some key => if r.kind.takesForeignKey then ", " ++ singleQuoted key else ""
    | none => ""
  match r.kind with
  | .belongsTo | .hasMany | .hasOne =>
    "$this->" ++ r.kind.name ++ "(" ++ related ++ "::class" ++ explicitKey ++ ")"
  | .belongsToMany => "$this->belongsToMany(" ++ related ++ "::class)"
  | .morphTo => "$this->morphTo()"
  | .morphMany =>
    "$this->morphMany(" ++ related ++ "::class, " ++ singleQuoted (morphName ctx.names.model) ++ ")"

/-- The accessor method of a relation, after a blank line. -/
def relationMethod (ctx : RenderContext) (r : Relation) : String :=
  let method := r.methodName
  "\n\n    /**\n     * Get the " ++ method ++ " relationship.\n     */\n    public function " ++
    method ++ "(): " ++ relationClass r.kind ++ "\n    \x7b\n        return " ++
    relationCall ctx r ++ ";\n    \x7d"

/-- The model class. -/
def renderModel (ctx : RenderContext) : Except ScaffoldError (List Artifact) := do
  let names := ctx.names
  let traits := if ctx.config.softDeletes then "use HasFactory, SoftDeletes;" else "use HasFactory;"
  let content ← ctx.render "model" [
    ("namespace", ctx.request.modelNamespace),
    ("imports", "\n".intercalate ((modelImports ctx).map fun i => "use " ++ i ++ ";")),
    ("class_name", names.model),
    ("traits", traits),
    ("table_name", names.table),
    ("fillable", joinIndented ((fillableColumns ctx.request).map singleQuoted) 8 ","),
    ("casts", joinIndented (castEntries ctx.request) 12 ","),
    ("relations", String.join (ctx.request.relations.map (relationMethod ctx)))]
  pure [{ path := joinPath (ctx.namespacedDir .model) (names.model ++ ".php")
          content
          description := "Model " ++ names.model }]

end CrudScaffold
