import CrudScaffold.Generator
import CrudScaffold.Bulk

/-! The command line of the scaffolder and the text it prints, kept apart from the file system
so that both can be read on their own.

`crudwright [--project DIR] make NAME [--fields SPEC] [--relations SPEC] [--api] [--force]
[--only KIND,...]` scaffolds one model; `crudwright [--project DIR] from-yaml FILE [--force]`
scaffolds every model of a bulk document. Options may stand before or after the subcommand,
as `--name value` or `--name=value`; `--only` may be repeated and takes kinds separated by
commas. `-v` and `--json-logs` only concern logging and change nothing here. -/

namespace CrudScaffold

/-- What the command line asks for. -/
inductive Command where
  /-- Scaffold one model. -/
  | make (name fields relations : String) (api force : Bool) (only : List ArtifactKind)
  /-- Scaffold every model of a bulk document. -/
  | fromYaml (file : String) (force : Bool)
  /-- Print the usage. -/
  | help
  /-- Print the version. -/
  | version

/-- A command and the project it works on. -/
structure Invocation where
  project : String
  command : Command

/-- The program's version. -/
def versionText : String := "crudwright 0.3.0"

/-- The usage text. -/
def usageText : String :=
  "Generate complete CRUD layers for Laravel projects\n\n" ++
  "Usage: crudwright [OPTIONS] <COMMAND>\n\n" ++
  "Commands:\n" ++
  "  make       Generate the CRUD layer for one model\n" ++
  "  from-yaml  Generate CRUD layers for every model in a YAML document\n\n" ++
  "Options:\n" ++
  "  -p, --project <PROJECT>  Project root to generate into [default: .]\n" ++
  "  -v, --verbose...         Increase log verbosity (-v, -vv)\n" ++
  "      --json-logs          Emit logs as JSON\n" ++
  "  -h, --help               Print help\n" ++
  "  -V, --version            Print version"

/-- The command line as it is read, argument by argument. -/
structure ArgState where
  project : String := "."
  subcommand : Option String := none
  positionals : List String := []
  fields : String := ""
  relations : String := ""
  api : Bool := false
  force : Bool := false
  only : List ArtifactKind := []
  help : Bool := false
  version : Bool := false

/-- Options that take a value. -/
def valueOptions : List String := ["--project", "-p", "--fields", "--relations", "--only"]

/-- Options that belong to the make subcommand. -/
def makeOptions : List String := ["--fields", "--relations", "--only", "--api"]

/-- Splits `--name=value` into two arguments and `-pDIR` or `-vv` into short options. -/
def spreadArg (arg : String) : List String :=
  let cs := arg.toList
  match cs with
  | '-' :: '-' :: rest =>
    match rest.span (· != '=') with
    | (name, _ :: value) => ["--" ++ String.ofList name, String.ofList value]
    | _ => [arg]
  | '-' :: 'p' :: c :: rest => ["-p", String.ofList (c :: rest)]
  | '-' :: c :: rest@(_ :: _) =>
    if rest.all (· == c) then (c :: rest).map fun d => String.ofList ['-', d] else [arg]
  | _ => [arg]

/-- The message for an argument that does not belong where it stands. -/
def unexpectedArgument (arg : String) : String :=
  "unexpected argument '" ++ arg ++ "' found"

/-- The artifact kinds of one `--only` value. -/
def readKinds (value : String) : Except String (List ArtifactKind) :=
  (Text.split value ',').mapM fun word =>
    match ArtifactKind.parse word with
    | .ok k => .ok k
    | .error _ =>
      .error ("invalid value '" ++ word ++ "' for '--only <ONLY>': unknown artifact kind '" ++
        word ++ "' (expected one of: " ++ ", ".intercalate (ArtifactKind.all.map (·.name)) ++
        ")")

namespace ArgState

/-- Takes the value of an option. -/
def setValue (s : ArgState) (option value : String) : Except String ArgState :=
  if makeOptions.contains option && s.subcommand != some "make" then
    .error (unexpectedArgument option)
  else if option == "--project" || option == "-p" then .ok { s with project := value }
  else if option == "--fields" then .ok { s with fields := value }
  else if option == "--relations" then .ok { s with relations := value }
  else
    match readKinds value with
    | .ok kinds => .ok { s with only := s.only ++ kinds }
    | .error e => .error e

/-- Takes an argument that is not an option's value. -/
def setArg (s : ArgState) (arg : String) : Except String ArgState :=
  if makeOptions.contains arg && s.subcommand != some "make" then
    .error (unexpectedArgument arg)
  else if arg == "--api" then .ok { s with api := true }
  else if arg == "--force" then
    if s.subcommand.isSome then .ok { s with force := true } else .error (unexpectedArgument arg)
  else if arg == "-v" || arg == "--verbose" || arg == "--json-logs" then .ok s
  else if arg == "-h" || arg == "--help" then .ok { s with help := true }
  else if arg == "-V" || arg == "--version" then .ok { s with version := true }
  else if arg.startsWith "-" && arg != "-" then .error (unexpectedArgument arg)
  else
    match s.subcommand with
    | none =>
      if arg == "make" || arg == "from-yaml" then .ok { s with subcommand := some arg }
      else .error ("unrecognized subcommand '" ++ arg ++ "'")
    | some _ => .ok { s with positionals := s.positionals ++ [arg] }

/-- Reads the arguments in order. -/
def takeArgs : ArgState → List String → Except String ArgState
  | s, [] => .ok s
  | s, arg :: rest =>
    if valueOptions.contains arg then
      match rest with
      | value :: rest' =>
        match s.setValue arg value with
        | .ok s => takeArgs s rest'
        | .error e => .error e
      | [] => .error ("a value is required for '" ++ arg ++ "' but none was supplied")
    else
      match s.setArg arg with
      | .ok s => takeArgs s rest
      | .error e => .error e

end ArgState

/-- The one positional argument of a subcommand. -/
def soleArgument (what : String) : List String → Except String String
  | [arg] => .ok arg
  | [] => .error ("the following required arguments were not provided:\n  <" ++ what ++ ">")
  | _ :: extra :: _ => .error (unexpectedArgument extra)

/-- Reads the command line (the program's name left out). -/
def parseArgs (args : List String) : Except String Invocation := do
  let s ← ArgState.takeArgs {} (args.flatMap spreadArg)
  if s.help then return ⟨s.project, .help⟩
  if s.version then return ⟨s.project, .version⟩
  match s.subcommand with
  | some "make" =>
    let name ← soleArgument "NAME" s.positionals
    return ⟨s.project, .make name s.fields s.relations s.api s.force s.only⟩
  | some _ =>
    let file ← soleArgument "FILE" s.positionals
    return ⟨s.project, .fromYaml file s.force⟩
  | none => throw "'crudwright' requires a subcommand but one was not provided"

/-- The request of a make command. -/
def makeRequest (config : Config) (name fields relations : String) (api force : Bool)
    (only : List ArtifactKind) : Except ScaffoldError Request :=
  let b : RequestBuilder := { name }
  let b := b.withFieldSpec fields |>.withRelationSpec relations |>.withForce force
  let b := if api then b.withApiOnly true else b
  let b := if only.isEmpty then b else b.only only
  b.build config

/-- An error followed by the errors it stems from, as the console shows it: a file error and a
configuration error repeat their cause. -/
def ScaffoldError.chainText : ScaffoldError → String
  | .io path failure => (ScaffoldError.io path failure).message ++ ": " ++ failure.message
  | .config detail => (ScaffoldError.config detail).message ++ ": " ++ detail
  | e => e.message

/-- The line of one handled file. -/
def GeneratedFile.line (f : GeneratedFile) : String :=
  "  " ++ (if f.outcome.isWrite then "✓" else "•") ++ " " ++ f.path ++ " (" ++ f.description ++
    ", " ++ f.outcome.text ++ ")"

/-- The lines of a report: the files of each kind, and a line for each kind that failed.
Failure messages name the project root `<root>`; here it is named by `root`, the directory the
command was given. -/
def Report.lines (r : Report) (root : String) : List String :=
  r.outcomes.flatMap fun
    | (_, .succeeded files) => files.map (·.line)
    | (_, .skipped) => []
    | (kind, .failed message files) =>
      files.map (·.line) ++ ["  ✗ " ++ kind.label ++ ": " ++ message.replace "<root>" root]

/-- What to do after scaffolding a model. -/
def nextSteps (r : Request) : List String :=
  let names := NameSet.ofModel r.modelName
  ["", "Next steps:",
    "  1. Review the migration in database/migrations/",
    "  2. Adjust the model in app/Models/" ++ r.modelName ++ ".php",
    "  3. Run: php artisan migrate",
    "  4. Run: php artisan db:seed --class=" ++ r.modelName ++ "Seeder"] ++
  (if r.apiOnly then [] else ["", "  Routes available at: /" ++ names.routePrefix])

/-- The lines printed for a make command, after its report. -/
def makeSummary (r : Request) (report : Report) : List String :=
  if report.hasFailures then
    ["", "! Some artifacts for " ++ r.modelName ++ " failed; fix the cause and re-run with --force"]
  else
    ["", "✨ CRUD for " ++ r.modelName ++ " is ready (" ++ toString report.writtenCount ++
      " files written)"] ++ nextSteps r

/-- The paths that scaffolding a request may read or write: the file of every artifact of the
kinds it makes. -/
def Generator.targets (g : Generator) (t : Project) (r : Request) : List String :=
  let ctx := RenderContext.make r g.config g.now (t.stub g.config.stubsPath)
  ArtifactKind.all.flatMap fun kind =>
    if r.shouldGenerate g.config kind then
      match kind.render ctx with
      | .ok artifacts => artifacts.map (·.path)
      | .error _ => []
    else []

/-- The paths of the stubs a project may hold in place of the bundled ones. -/
def stubPaths (config : Config) : List String :=
  Stub.bundled.map fun (name, _) => joinPath config.stubsPath (name ++ ".stub")

end CrudScaffold
