import CrudScaffold.Config.Basic
import CrudScaffold.Spec.Relation
import CrudScaffold.Error

/-! Generation requests: which model to scaffold, with which fields and relations, and which
artifact kinds to make.

A model name may carry a sub-namespace: `Blog/Post` (or `Blog\Post`) is the model `Post` in
the namespace `App\Models\Blog`. Every segment is trimmed and put in Pascal case, blank
segments are dropped, and the last segment must start with a letter. -/

namespace CrudScaffold

open Text Naming

/-- The kinds of artifact a request can make, in the order they are made. -/
inductive ArtifactKind where
  | migration
  | model
  | factory
  | seeder
  | request
  | resource
  | controller
  | views
  | routes
deriving Repr, DecidableEq, Inhabited

namespace ArtifactKind

/-- Every kind, in generation order. -/
def all : List ArtifactKind :=
  [.migration, .model, .factory, .seeder, .request, .resource, .controller, .views, .routes]

/-- The name of a kind. -/
def name : ArtifactKind → String
  | .migration => "migration"
  | .model => "model"
  | .factory => "factory"
  | .seeder => "seeder"
  | .request => "request"
  | .resource => "resource"
  | .controller => "controller"
  | .views => "views"
  | .routes => "routes"

/-- The label of a kind in reports. -/
def label : ArtifactKind → String
  | .migration => "Migration"
  | .model => "Model"
  | .factory => "Factory"
  | .seeder => "Seeder"
  | .request => "Form Requests"
  | .resource => "API Resource"
  | .controller => "Controller"
  | .views => "Views"
  | .routes => "Routes"

/-- Reads a kind word, trimmed and compared without regard to case; a few plurals and
synonyms are accepted. The error keeps the word as given. -/
def parse (word : String) : Except ScaffoldError ArtifactKind :=
  match asciiLower (trim word) with
  | "migration" | "migrations" | "schema" => .ok .migration
  | "model" => .ok .model
  | "factory" => .ok .factory
  | "seeder" | "seed" => .ok .seeder
  | "request" | "requests" => .ok .request
  | "resource" => .ok .resource
  | "controller" => .ok .controller
  | "views" | "view" => .ok .views
  | "routes" | "route" => .ok .routes
  | _ => .error (.unknownArtifactKind word)

/-- Whether a kind is made by default under a configuration. -/
def enabledBy (g : GenerateSettings) : ArtifactKind → Bool
  | .migration => g.migration
  | .model => g.model
  | .factory => g.factory
  | .seeder => g.seeder
  | .request => g.request
  | .resource => g.resource
  | .controller => g.controller
  | .views => g.views
  | .routes => g.routes

/-- The configured output directory of a kind. -/
def directory (p : PathSettings) : ArtifactKind → String
  | .migration => p.migration
  | .model => p.model
  | .factory => p.factory
  | .seeder => p.seeder
  | .request => p.request
  | .resource => p.resource
  | .controller => p.controller
  | .views => p.view
  | .routes => p.route

end ArtifactKind

/-- Per-kind switches given explicitly by a request; a later switch of a kind replaces an
earlier one. -/
def KindSwitches := ArtifactKind → Option Bool

instance : Inhabited KindSwitches := ⟨fun _ => none⟩

/-- Sets the switch of one kind. -/
def KindSwitches.set (s : KindSwitches) (k : ArtifactKind) (b : Bool) : KindSwitches :=
  fun k' => if k' = k then some b else s k'

/-- A request to scaffold one model. -/
structure Request where
  modelName : String
  modelNamespace : String
  subNamespace : List String
  fields : List Field
  relations : List Relation
  forceOverwrite : Bool
  apiOnly : Bool
  switches : KindSwitches

/-- The fully qualified model class. -/
def Request.modelClass (r : Request) : String :=
  r.modelNamespace ++ "\\" ++ r.modelName

/-- Whether a kind is made: never views for an API-only request, else the request's switch
for the kind, else the configuration's default. -/
def Request.shouldGenerate (r : Request) (c : Config) (k : ArtifactKind) : Bool :=
  if k = .views && r.apiOnly then false
  else (r.switches k).getD (k.enabledBy c.generate)

/-- A request under construction. -/
structure RequestBuilder where
  name : String
  fields : List Field := []
  relations : List Relation := []
  forceOverwrite : Bool := false
  apiOnly : Option Bool := none
  switches : KindSwitches := default

namespace RequestBuilder

/-- Fields from a spec. -/
def withFieldSpec (b : RequestBuilder) (spec : String) : RequestBuilder :=
  { b with fields := parseFields spec }

/-- Fields given directly; a repeated name keeps its first field. -/
def withFields (b : RequestBuilder) (fields : List Field) : RequestBuilder :=
  { b with fields := uniqueFields fields }

/-- Relations from a spec. -/
def withRelationSpec (b : RequestBuilder) (spec : String) : RequestBuilder :=
  { b with relations := parseRelations spec }

/-- Relations given directly. -/
def withRelations (b : RequestBuilder) (relations : List Relation) : RequestBuilder :=
  { b with relations := relations }

/-- Whether existing files are overwritten. -/
def withForce (b : RequestBuilder) (force : Bool) : RequestBuilder :=
  { b with forceOverwrite := force }

/-- Whether only the API artifacts are made. -/
def withApiOnly (b : RequestBuilder) (apiOnly : Bool) : RequestBuilder :=
  { b with apiOnly := some apiOnly }

/-- Switches one kind on or off. -/
def withSwitch (b : RequestBuilder) (k : ArtifactKind) (on : Bool) : RequestBuilder :=
  { b with switches := b.switches.set k on }

/-- Switches on exactly the given kinds and every other kind off. -/
def only (b : RequestBuilder) (kinds : List ArtifactKind) : RequestBuilder :=
  ArtifactKind.all.foldl (fun b k => b.withSwitch k (kinds.contains k)) b

end RequestBuilder

/-- Splits a model path into the model name and its sub-namespace. -/
def parseModelPath (name : String) : Except ScaffoldError (String × List String) :=
  let segments := ((splitWhere (fun c => c = '/' || c = '\\') name.toList).map
      (fun s => trim (String.ofList s))).filter (fun s => !s.isEmpty) |>.map pascalCase
  match segments.getLast? with
  | some model =>
    match model.toList with
    | c :: _ => if isAlphabetic c then .ok (model, segments.dropLast)
      else .error (.invalidModelName name)
    | [] => .error (.invalidModelName name)
  | none => .error (.invalidModelName name)

/-- Builds the request under a configuration. -/
def RequestBuilder.build (b : RequestBuilder) (c : Config) : Except ScaffoldError Request :=
  match parseModelPath b.name with
  | .error e => .error e
  | .ok (model, sub) =>
    .ok { modelName := model
          modelNamespace := c.rootNamespace ++ "\\Models" ++ String.join (sub.map ("\\" ++ ·))
          subNamespace := sub
          fields := b.fields
          relations := b.relations
          forceOverwrite := b.forceOverwrite
          apiOnly := b.apiOnly.getD c.apiOnly
          switches := b.switches }

end CrudScaffold
