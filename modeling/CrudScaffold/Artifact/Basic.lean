import CrudScaffold.Request
import CrudScaffold.Clock
import CrudScaffold.Stub.Render
import CrudScaffold.Project.Tree

/-! Artifacts: the files a request makes, each with its path, content, a description for the
report and the way it reaches the project. Most are whole files; route registrations are
appended to a shared route file unless a marker shows the model is registered already.

Every kind of artifact is rendered from the same context: the request, the configuration,
the names of the model, the clock and the stubs. Rendering reads nothing else and writes
nothing. -/

namespace CrudScaffold

open Naming

/-- How an artifact reaches the project. -/
inductive WriteMode where
  /-- A whole file, written unless it exists (or when forced). -/
  | create
  /-- Text appended to a shared file unless the file holds `marker`; a missing file starts
  with `preamble`. -/
  | appendUnlessPresent (marker : String) (preamble : Option String)
deriving Repr, DecidableEq

/-- One generated file or file fragment. -/
structure Artifact where
  /-- The path from the project root, as written. -/
  path : String
  content : String
  description : String
  mode : WriteMode := .create
deriving Repr, DecidableEq

/-- Everything rendering may read. -/
structure RenderContext where
  request : Request
  config : Config
  names : NameSet
  now : Moment
  /-- The text of a stub by name. -/
  stub : String → Except ScaffoldError String

namespace RenderContext

/-- A context; the names are those of the request's model. -/
def make (request : Request) (config : Config) (now : Moment)
    (stub : String → Except ScaffoldError String) : RenderContext :=
  ⟨request, config, NameSet.ofModel request.modelName, now, stub⟩

/-- Renders a stub with the given values. -/
def render (ctx : RenderContext) (name : String) (values : List (String × String)) :
    Except ScaffoldError String :=
  match ctx.stub name with
  | .error e => .error e
  | .ok text =>
    match Stub.render text values with
    | .ok out => .ok out
    | .error msg => .error (.render name msg)

/-- The output directory of a kind, followed by the model's sub-namespace. -/
def namespacedDir (ctx : RenderContext) (k : ArtifactKind) : String :=
  ctx.request.subNamespace.foldl joinPath (k.directory ctx.config.paths)

/-- A PHP namespace followed by the model's sub-namespace. -/
def namespaceUnder (ctx : RenderContext) (base : String) : String :=
  base ++ String.join (ctx.request.subNamespace.map ("\\" ++ ·))

/-- A namespace under the application's root namespace. -/
def appNamespace (ctx : RenderContext) (suffix : String) : String :=
  ctx.config.rootNamespace ++ "\\" ++ suffix

/-- The class of a related model, in the root models namespace. -/
def relatedModelClass (ctx : RenderContext) (model : String) : String :=
  ctx.config.rootNamespace ++ "\\Models\\" ++ model

end RenderContext

/-- Entries joined by the separator, each after the first on a new line indented by `indent`
spaces. -/
def joinIndented (items : List String) (indent : Nat) (sep : String) : String :=
  (sep ++ "\n" ++ String.ofList (List.replicate indent ' ')).intercalate items

/-- Text between single quotes. -/
def singleQuoted (s : String) : String := "'" ++ s ++ "'"

end CrudScaffold
