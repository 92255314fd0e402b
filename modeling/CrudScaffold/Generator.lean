import CrudScaffold.Artifact.Kinds
import CrudScaffold.Stub.Bundled

/-! Generation: every enabled kind of artifact for a request is rendered and written into the
project, in the fixed order of kinds. A kind whose rendering fails writes nothing; a kind whose
writing fails keeps the files it wrote before the failure. Either way the failure is recorded
in the report and the later kinds still run.

Whole files are written only where nothing is, unless the request forces overwriting. A
migration counts as existing when a migration for the same table is there under any
timestamp, so running a request again at a later time makes no second migration. Route
registrations are appended to the shared route file unless it registers the model already.

Stubs are read from the project first, as `<stubs path>/<name>.stub`, then from the bundled
set. -/

namespace CrudScaffold

/-- What happened to one file. -/
inductive FileOutcome where
  /-- A new file was made. -/
  | written
  /-- An existing file was replaced, as the request forces it. -/
  | overwritten
  /-- An existing file was left as it was. -/
  | skippedExisting
  /-- The content was appended to a shared file. -/
  | appended
  /-- The shared file holds the content already; nothing was written. -/
  | alreadyPresent
deriving Repr, DecidableEq

namespace FileOutcome

/-- How reports word an outcome. -/
def text : FileOutcome → String
  | .written => "created"
  | .overwritten => "overwritten"
  | .skippedExisting => "exists, skipped"
  | .appended => "appended"
  | .alreadyPresent => "already registered"

/-- Whether anything was written. -/
def isWrite : FileOutcome → Bool
  | .written | .overwritten | .appended => true
  | .skippedExisting | .alreadyPresent => false

end FileOutcome

/-- One file the generator handled. -/
structure GeneratedFile where
  /-- The path from the project root. -/
  path : String
  outcome : FileOutcome
  description : String
deriving Repr, DecidableEq

/-- The result of one kind of artifact. -/
inductive KindOutcome where
  /-- The kind was rendered and every file handled. -/
  | succeeded (files : List GeneratedFile)
  /-- The kind is not made for this request. -/
  | skipped
  /-- Rendering or writing failed; `files` were handled before the failure. -/
  | failed (message : String) (files : List GeneratedFile)
deriving Repr, DecidableEq

/-- The files a kind handled. -/
def KindOutcome.files : KindOutcome → List GeneratedFile
  | .succeeded files | .failed _ files => files
  | .skipped => []

/-- The outcome of every kind for one request, in generation order. -/
structure Report where
  model : String
  outcomes : List (ArtifactKind × KindOutcome)
deriving Repr, DecidableEq

namespace Report

/-- Every file handled, in generation order, those of failed kinds included. -/
def files (r : Report) : List GeneratedFile := r.outcomes.flatMap (·.2.files)

/-- Whether some kind failed. -/
def hasFailures (r : Report) : Bool :=
  r.outcomes.any fun
    | (_, .failed _ _) => true
    | _ => false

/-- The number of files written. -/
def writtenCount (r : Report) : Nat := (r.files.filter (·.outcome.isWrite)).length

end Report

namespace Project

/-- The text of a stub: the project's own under the stubs path when there is one, else the
bundled one. -/
def stub (t : Project) (stubsPath name : String) : Except ScaffoldError String :=
  match t.file? (pathComponents stubsPath ++ pathComponents (name ++ ".stub")) with
  | some text => .ok text
  | none =>
    match Stub.bundled? name with
    | some text => .ok text
    | none => .error (.stubNotFound name)

/-- Writes a whole file unless something is at its path; `force` replaces it. -/
def writeUnlessPresent (t : Project) (path content : String) (force : Bool) :
    Except ScaffoldError (Project × FileOutcome) :=
  let existed := t.present (pathComponents path)
  if existed && !force then .ok (t, .skippedExisting)
  else
    match t.write path content with
    | .error e => .error e
    | .ok t => .ok (t, if existed then .overwritten else .written)

/-- Appends to a file unless it holds the marker; a missing file starts with the preamble. -/
def appendUnlessPresent (t : Project) (path marker content : String) (preamble : Option String) :
    Except ScaffoldError (Project × FileOutcome) :=
  match t.read? path with
  | .error e => .error e
  | .ok current =>
    let current := current.getD (preamble.getD "")
    if Text.contains current marker then .ok (t, .alreadyPresent)
    else
      match t.write path (current ++ content) with
      | .error e => .error e
      | .ok t => .ok (t, .appended)

end Project

/-- The shape of a migration's stamp and the underscore after it, `????_??_??_??????_`:
`none` stands for any one character. -/
def stampShape : List (Option Char) :=
  List.replicate 4 none ++ [some '_'] ++ List.replicate 2 none ++ [some '_'] ++
    List.replicate 2 none ++ [some '_'] ++ List.replicate 6 none ++ [some '_']

/-- Whether a name starts with a given shape. -/
def fitsShape : List (Option Char) → List Char → Bool
  | [], _ => true
  | _ :: _, [] => false
  | none :: ps, _ :: cs => fitsShape ps cs
  | some d :: ps, c :: cs => c == d && fitsShape ps cs

/-- Whether a file name is a stamp followed by the given suffix. -/
def stampedWith (suffix : List Char) (name : String) : Bool :=
  fitsShape stampShape name.toList && name.toList.drop stampShape.length == suffix

/-- The first, in sorted order, of the migrations in the directory of `path` that differ from
it at most in their stamp. The stamp is the first 18 characters of the file name (the stamps
written are plain ASCII); a name shorter than that has no such migration. -/
def Project.existingMigration (t : Project) (path : String) : Option String :=
  let parts := pathComponents path
  match parts.getLast? with
  | none => none
  | some name =>
    if name.length < stampShape.length then none
    else
      let suffix := name.toList.drop stampShape.length
      let dir := parts.dropLast
      let found := ((t.entries dir).filter (stampedWith suffix)).mergeSort fun a b => decide (a ≤ b)
      found.head?.map fun n => "/".intercalate (dir ++ [n])

/-- A generator: the configuration and the clock it generates with. -/
structure Generator where
  config : Config
  now : Moment

namespace Generator

/-- Handles one artifact: whole files by the overwrite policy (a migration under an earlier
stamp standing for the new one), fragments by appending. -/
def writeArtifact (t : Project) (kind : ArtifactKind) (a : Artifact) (force : Bool) :
    Except ScaffoldError (Project × GeneratedFile) :=
  match a.mode with
  | .create =>
    let path := if kind = .migration then (t.existingMigration a.path).getD a.path else a.path
    match t.writeUnlessPresent path a.content force with
    | .error e => .error e
    | .ok (t, outcome) => .ok (t, ⟨path, outcome, a.description⟩)
  | .appendUnlessPresent marker preamble =>
    match t.appendUnlessPresent a.path marker a.content preamble with
    | .error e => .error e
    | .ok (t, outcome) => .ok (t, ⟨a.path, outcome, a.description⟩)

/-- Handles artifacts in order, stopping at the first failure; `done` are those handled
already. -/
def writeArtifacts (kind : ArtifactKind) (force : Bool) :
    Project → List Artifact → List GeneratedFile → Project × KindOutcome
  | t, [], done => (t, .succeeded done)
  | t, a :: rest, done =>
    match writeArtifact t kind a force with
    | .error e => (t, .failed e.message done)
    | .ok (t, file) => writeArtifacts kind force t rest (done ++ [file])

/-- Renders one kind, then writes what it rendered; a failure that stops the run is passed
on. -/
def runKind (g : Generator) (t : Project) (kind : ArtifactKind) (r : Request) :
    Except ScaffoldError (Project × KindOutcome) :=
  let ctx := RenderContext.make r g.config g.now (t.stub g.config.stubsPath)
  match kind.render ctx with
  | .error .clockOverflow => .error .clockOverflow
  | .error e => .ok (t, .failed e.message [])
  | .ok artifacts => .ok (writeArtifacts kind r.forceOverwrite t artifacts [])

/-- Generates every kind the request makes; the others are skipped. -/
def generate (g : Generator) (t : Project) (r : Request) : Except ScaffoldError (Project × Report) :=
  let step (acc : Project × List (ArtifactKind × KindOutcome)) (kind : ArtifactKind) :=
    if r.shouldGenerate g.config kind then
      (g.runKind acc.1 kind r).map fun (t, outcome) => (t, acc.2 ++ [(kind, outcome)])
    else .ok (acc.1, acc.2 ++ [(kind, .skipped)])
  (ArtifactKind.all.foldlM step (t, [])).map fun (t, outcomes) => (t, ⟨r.modelName, outcomes⟩)

/-- Generates the requests in order: the project reached, and the reports, or the failure
that stopped the run (the project is then the one before the request that failed). -/
def generateAll (g : Generator) :
    Project → List Request → Project × Except ScaffoldError (List Report)
  | t, [] => (t, .ok [])
  | t, r :: rs =>
    match g.generate t r with
    | .error e => (t, .error e)
    | .ok (t, report) =>
      let (t, rest) := generateAll g t rs
      (t, rest.map (report :: ·))

/-- Generates one kind whatever the request's switches say; views are still skipped for an
API-only request. -/
def generateSingle (g : Generator) (t : Project) (kind : ArtifactKind) (r : Request) :
    Except ScaffoldError (Project × KindOutcome) :=
  if kind = .views && r.apiOnly then .ok (t, .skipped) else g.runKind t kind r

end Generator

end CrudScaffold
