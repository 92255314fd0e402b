import CrudScaffold.Command
import CrudScaffold.Config.File
import Std.Time.Format

/-! The scaffolder as a program: it reads the command line, the project's configuration and
the project files that scaffolding touches, runs the generator on them as a value, writes back
every file that changed and prints the report.

The files read are the stubs the project may hold and the file of every artifact the requests
make; generation sees nothing else of the project, so a migration counts as existing when its
file is there under the stamp of this run. Migration stamps come from the local clock. -/

namespace CrudScaffold

/-- What reading a path found. -/
inductive Found where
  /-- Nothing is there. -/
  | nothing
  /-- A file with this text. -/
  | file (text : String)
  /-- A directory. -/
  | directory

/-- Looks at a path of the file system. -/
def look (path : String) : IO Found := do
  try
    return .file (← IO.FS.readFile path)
  catch e =>
    match e with
    | .inappropriateType _ 21 _ => return .directory
    | _ => return .nothing

/-- Adds what is at each path below `root` to a project. -/
def loadPaths (root : String) (t : Project) (paths : List String) : IO Project :=
  paths.foldlM (fun t path => do
    let p := pathComponents path
    if t.present p then return t
    match ← look (joinPath root path) with
    | .nothing => return t
    | .file text => return t.put p text
    | .directory => return { t with dirs := t.dirs ++ [p] }) t

/-- Writes below `root` every file of `after` that `before` does not hold with the same text. -/
def saveChanges (root : String) (before after : Project) : IO Unit :=
  after.files.forM fun (p, text) => do
    if before.file? p != some text then
      let path := joinPath root ("/".intercalate p)
      IO.FS.createDirAll (parentPath path)
      IO.FS.writeFile path text

/-- The local time, to the second. -/
def wallClock : IO Moment := do
  let t ← Std.Time.PlainDateTime.now
  return ⟨t.date.year.toInt.toNat, t.date.month.val.toNat, t.date.day.val.toNat,
    t.time.hour.val.toNat, t.time.minute.val.toNat, t.time.second.val.toNat⟩

/-- The configuration of the project below `root`. -/
def loadConfig (root : String) : IO (Except ScaffoldError Config) := do
  match ← look (joinPath root "crudwright.toml") with
  | .file text => return Config.load (some text)
  | _ => return Config.load none

/-- Scaffolds the requests in order into the project below `root`, writes the result and gives
the reports, or the failure that stopped the run. -/
def scaffoldInto (root : String) (g : Generator) (requests : List Request) :
    IO (Except ScaffoldError (List Report)) := do
  let stubs ← loadPaths root {} (stubPaths g.config)
  let before ← loadPaths root stubs (requests.flatMap (g.targets stubs))
  let (after, result) := g.generateAll before requests
  saveChanges root before after
  return result

/-- Reports a failure that stopped a run on standard error. -/
def haltWith (e : ScaffoldError) : IO UInt32 := do
  IO.eprintln e.message
  return 101

/-- Prints lines on standard output. -/
def printLines (lines : List String) : IO Unit := lines.forM IO.println

/-- Reports a failure of the command on standard error. -/
def failWith (message : String) : IO UInt32 := do
  IO.eprintln ("error: " ++ message)
  return 1

/-- Scaffolds one model. -/
def runMake (root name fields relations : String) (api force : Bool) (only : List ArtifactKind) :
    IO UInt32 := do
  match ← loadConfig root with
  | .error e => failWith ("Failed to load configuration for " ++ root ++ ": " ++ e.chainText)
  | .ok config =>
    match makeRequest config name fields relations api force only with
    | .error e => failWith ("Cannot generate CRUD for '" ++ name ++ "': " ++ e.chainText)
    | .ok r =>
      printLines ["", "Generating CRUD for " ++ r.modelName]
      match ← scaffoldInto root ⟨config, ← wallClock⟩ [r] with
      | .error e => haltWith e
      | .ok reports =>
        let report := reports.headD ⟨r.modelName, []⟩
        printLines (report.lines root ++ makeSummary r report)
        return if report.hasFailures then 1 else 0

/-- Scaffolds every model of a bulk document. -/
def runFromYaml (root file : String) (force : Bool) : IO UInt32 := do
  match ← look file with
  | .file text =>
    match BulkDocument.parse text with
    | .error detail =>
      failWith ("Cannot read bulk document: Could not parse bulk document " ++ file ++ ": " ++
        detail ++ ": " ++ detail)
    | .ok doc =>
      match ← loadConfig root with
      | .error e => failWith ("Failed to load configuration for " ++ root ++ ": " ++ e.chainText)
      | .ok config =>
        let g : Generator := ⟨config, ← wallClock⟩
        let outcomes := doc.requests config force
        let result ← scaffoldInto root g (outcomes.filterMap fun | .ok r => some r | .error _ => none)
        let reports ← match result with
          | .ok reports => pure reports
          | .error e => do let _ ← haltWith e; return 101
        printLines ["", "Generating " ++ toString doc.models.length ++ " models from YAML"]
        let (_, succeeded) ← (doc.names.zip outcomes).foldlM (fun (acc : List Report × Bool) entry => do
          let (name, outcome) := entry
          printLines ["", "▸ " ++ name]
          match outcome with
          | .ok _ =>
            match acc.1 with
            | report :: rest =>
              printLines (report.lines root)
              return (rest, acc.2 && !report.hasFailures)
            | [] => return acc
          | .error e =>
            printLines ["  ✗ " ++ e.message]
            return (acc.1, false)) (reports, true)
        if succeeded then printLines ["", "✨ All models generated"]
        return if succeeded then 0 else 1
  | _ => failWith ("Cannot read bulk document: Bulk document not found: " ++ file)

/-- Runs a command. -/
def runInvocation (inv : Invocation) : IO UInt32 :=
  match inv.command with
  | .help => do IO.println usageText; return 0
  | .version => do IO.println versionText; return 0
  | .make name fields relations api force only =>
    runMake inv.project name fields relations api force only
  | .fromYaml file force => runFromYaml inv.project file force

end CrudScaffold

/-- The program: a usage error ends it with status 2, a failed command with status 1. -/
def main (args : List String) : IO UInt32 :=
  match CrudScaffold.parseArgs args with
  | .error e => do
    IO.eprintln ("error: " ++ e ++ "\n\nUsage: crudwright [OPTIONS] <COMMAND>\n\n" ++
      "For more information, try '--help'.")
    return 2
  | .ok inv => CrudScaffold.runInvocation inv
