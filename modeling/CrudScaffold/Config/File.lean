import CrudScaffold.Config.Basic
import CrudScaffold.Toml.Document
import CrudScaffold.Number.Shortest
import CrudScaffold.Text.Quoted
import CrudScaffold.Error

/-! The configuration file `crudwright.toml`. Its settings are laid over the defaults: a table
merges with the table it replaces, key by key, and any other value replaces the default
outright. The merged settings are then taken section by section, keys in sorted order, and
the first setting of the wrong shape stops the reading with a message that names what was
found, what was expected and the key path. Unknown keys are ignored.

A date or time in the file is seen by the settings as a table of one entry, so it can only
stand where a table may. -/

namespace CrudScaffold

open Toml Text

/-- The source named in configuration messages. -/
def configSource : String := "crudwright.toml TOML file"

/-- Why a setting could not be taken. -/
inductive SettingError where
  /-- A value of the wrong type. -/
  | invalidType (found expected : String)
  /-- A value of the right type but out of range. -/
  | invalidValue (found expected : String)
  /-- A name that is none of the choices. -/
  | unknownVariant (found : String) (choices : List String)

/-- Choices as messages list them: one, two joined by "or", or "one of" a list. -/
def choicesText : List String → String
  | [] => "none"
  | [a] => "`" ++ a ++ "`"
  | [a, b] => "`" ++ a ++ "` or `" ++ b ++ "`"
  | cs => "one of " ++ ", ".intercalate (cs.map fun c => "`" ++ c ++ "`")

/-- The wording of a setting error. -/
def SettingError.message : SettingError → String
  | .invalidType found expected => "invalid type: found " ++ found ++ ", expected " ++ expected
  | .invalidValue found expected => "invalid value " ++ found ++ ", expected " ++ expected
  | .unknownVariant found choices =>
    "unknown variant: found `" ++ found ++ "`, expected `" ++ choicesText choices ++ "`"

/-- A setting that could not be taken, with the path of keys (or item indexes) to it. -/
structure SettingFailure where
  error : SettingError
  path : List String

/-- The wording of a setting failure, with its key path when it has one. -/
def SettingFailure.message (f : SettingFailure) : String :=
  f.error.message ++
    (if f.path.isEmpty then "" else " for key " ++ quoted ("default." ++ ".".intercalate f.path))

/-- What a settings value is, as messages call it. -/
def Toml.Value.found : Value → String
  | .string s => "string " ++ quoted s
  | .integer i => "signed int `" ++ toString i ++ "`"
  | .float x => "float `" ++ Number.shortestText x ++ "`"
  | .boolean b => "bool " ++ toString b
  | .datetime _ => "map"
  | .array _ => "sequence"
  | .table _ => "map"

mutual

/-- The value as settings see it: a date or time becomes a table of one entry. -/
def Toml.Value.settingsForm : Value → Value
  | .datetime t => .table [("$__toml_private_datetime", .string t)]
  | .array items => .array (settingsFormItems items)
  | .table entries => .table (settingsFormEntries entries)
  | v => v

/-- Items in settings form. -/
def settingsFormItems : List Value → List Value
  | [] => []
  | v :: rest => v.settingsForm :: settingsFormItems rest

/-- Entries in settings form. -/
def settingsFormEntries : List (String × Value) → List (String × Value)
  | [] => []
  | (k, v) :: rest => (k, v.settingsForm) :: settingsFormEntries rest

end

/-- Sets the value of a key, adding the key at the end when it is new. -/
def setKey (entries : List (String × Value)) (k : String) (v : Value) :
    List (String × Value) :=
  if entries.any (·.1 == k) then entries.map fun e => if e.1 == k then (k, v) else e
  else entries ++ [(k, v)]

mutual

/-- Lays `top` on `base`: two tables merge key by key, anything else is replaced. -/
def Toml.Value.merge : Value → Value → Value
  | .table base, .table top => .table (mergeEntries base top)
  | _, top => top

/-- Lays entries over entries. -/
def mergeEntries (base : List (String × Value)) : List (String × Value) → List (String × Value)
  | [] => base
  | (k, v) :: rest =>
    let merged := match base.find? (·.1 == k) with
      | some (_, b) => b.merge v
      | none => v
    mergeEntries (setKey base k merged) rest

end

/-- Entries sorted by key. -/
def sortedEntries (entries : List (String × Value)) : List (String × Value) :=
  entries.mergeSort fun a b => decide (a.1 ≤ b.1)

/-- The result of taking a setting. -/
abbrev Setting (α : Type) := Except SettingFailure α

/-- A boolean setting. -/
def decodeBool (path : List String) : Value → Setting Bool
  | .boolean b => .ok b
  | v => .error ⟨.invalidType v.found "a boolean", path⟩

/-- A text setting; `expected` names the kind of text. -/
def decodeText (expected : String) (path : List String) : Value → Setting String
  | .string s => .ok s
  | v => .error ⟨.invalidType v.found expected, path⟩

/-- The largest value of a 32-bit count. -/
def countLimit : Int := 4294967295

/-- A count below 2^32. -/
def decodeCount (path : List String) : Value → Setting Nat
  | .integer i =>
    if 0 ≤ i && i ≤ countLimit then .ok i.toNat
    else .error ⟨.invalidValue ("signed int `" ++ toString i ++ "`") "u32", path⟩
  | v => .error ⟨.invalidType v.found "u32", path⟩

/-- A list of texts; an item's path ends in its index. -/
def decodeTexts (path : List String) : Value → Setting (List String)
  | .array items =>
    (items.foldlM (fun (acc : List String × Nat) v => do
      let s ← decodeText "a string" (path ++ [toString acc.2]) v
      pure (acc.1 ++ [s], acc.2 + 1)) ([], 0)).map Prod.fst
  | v => .error ⟨.invalidType v.found "a sequence", path⟩

/-- One of named choices: by name, or as a table whose first key names it (with nothing under
that key, which a file cannot write). A failure inside the table names its key in the path. -/
def decodeChoice {α : Type} (typeName : String) (choices : List (String × α))
    (path : List String) : Value → Setting α
  | .string s =>
    match choices.find? (·.1 == s) with
    | some (_, a) => .ok a
    | none => .error ⟨.unknownVariant s (choices.map (·.1)), path⟩
  | .table entries =>
    match sortedEntries entries with
    | [] => .error ⟨.invalidType "map" "enum", path⟩
    | (k, v) :: _ =>
      match choices.find? (·.1 == k) with
      | none => .error ⟨.unknownVariant k (choices.map (·.1)), path ++ [k]⟩
      | some _ => .error ⟨.invalidType v.found "unit", path ++ [k]⟩
  | v => .error ⟨.invalidType v.found ("enum " ++ typeName), path⟩

/-- A key of a settings section and how a value under it changes the section. -/
structure SettingKey (α : Type) where
  key : String
  apply : List String → Value → α → Setting α

/-- A section of settings: from a table, key by key in sorted order, unknown keys ignored;
from an array, item by item in the order the keys are declared. Keys not given keep their
values in `init`. -/
def decodeSection {α : Type} (typeName : String) (keys : List (SettingKey α)) (init : α)
    (path : List String) : Value → Setting α
  | .table entries =>
    (sortedEntries entries).foldlM (fun (acc : α) (entry : String × Value) =>
      let (k, v) := entry
      match keys.find? (·.key == k) with
      | some sk => sk.apply (path ++ [k]) v acc
      | none => .ok acc) init
  | .array items =>
    ((keys.zip items).foldlM (fun (acc : α × Nat) (item : SettingKey α × Value) => do
      let (sk, v) := item
      let a ← sk.apply (path ++ [toString acc.2]) v acc.1
      pure (a, acc.2 + 1)) (init, 0)).map Prod.fst
  | v => .error ⟨.invalidType v.found ("struct " ++ typeName), path⟩

/-- Output directories. -/
def decodePaths : List String → Value → Setting PathSettings :=
  let key (k : String) (set : PathSettings → String → PathSettings) : SettingKey PathSettings :=
    ⟨k, fun path v p => (decodeText "path string" path v).map (set p)⟩
  decodeSection "PathSettings" [
    key "model" fun p s => { p with model := s },
    key "controller" fun p s => { p with controller := s },
    key "request" fun p s => { p with request := s },
    key "resource" fun p s => { p with resource := s },
    key "migration" fun p s => { p with migration := s },
    key "seeder" fun p s => { p with seeder := s },
    key "factory" fun p s => { p with factory := s },
    key "view" fun p s => { p with view := s },
    key "route" fun p s => { p with route := s }] {}

/-- Default switches per artifact kind. -/
def decodeGenerate : List String → Value → Setting GenerateSettings :=
  let key (k : String) (set : GenerateSettings → Bool → GenerateSettings) :
      SettingKey GenerateSettings :=
    ⟨k, fun path v g => (decodeBool path v).map (set g)⟩
  decodeSection "GenerateSettings" [
    key "migration" fun g b => { g with migration := b },
    key "model" fun g b => { g with model := b },
    key "factory" fun g b => { g with factory := b },
    key "seeder" fun g b => { g with seeder := b },
    key "request" fun g b => { g with request := b },
    key "resource" fun g b => { g with resource := b },
    key "controller" fun g b => { g with controller := b },
    key "views" fun g b => { g with views := b },
    key "routes" fun g b => { g with routes := b }] {}

/-- Route registration. -/
def decodeRoutes : List String → Value → Setting RouteSettings :=
  decodeSection "RouteSettings" [
    ⟨"prefix", fun path v r => (decodeText "a string" path v).map fun s => { r with urlPrefix := s }⟩,
    ⟨"middleware", fun path v r => (decodeTexts path v).map fun m => { r with middleware := m }⟩,
    ⟨"api_middleware", fun path v r =>
      (decodeTexts path v).map fun m => { r with apiMiddleware := m }⟩] {}

/-- Records per page. -/
def decodePerPage (init : Nat) : List String → Value → Setting Nat :=
  decodeSection "PaginationSettings" [⟨"per_page", fun path v _ => decodeCount path v⟩] init

/-- Form widgets by field type name, in key order. -/
def decodeWidgets (path : List String) : Value → Setting (List (String × InputKind))
  | .table entries =>
    (sortedEntries entries).mapM fun (k, v) =>
      (decodeChoice "InputKind" (InputKind.all.map fun i => (i.name, i)) (path ++ [k]) v).map
        fun i => (k, i)
  | v => .error ⟨.invalidType v.found "a map", path⟩

/-- The whole configuration. -/
def decodeConfig : List String → Value → Setting Config :=
  let bool (k : String) (set : Config → Bool → Config) : SettingKey Config :=
    ⟨k, fun path v c => (decodeBool path v).map (set c)⟩
  decodeSection "CrudConfig" [
    ⟨"namespace", fun path v c =>
      (decodeText "a string" path v).map fun s => { c with rootNamespace := s }⟩,
    ⟨"css_framework", fun path v c =>
      (decodeChoice "CssFramework" [("tailwind", .tailwind), ("bootstrap", .bootstrap)] path v).map
        fun f => { c with cssFramework := f }⟩,
    bool "api_only" fun c b => { c with apiOnly := b },
    bool "soft_deletes" fun c b => { c with softDeletes := b },
    bool "timestamps" fun c b => { c with timestamps := b },
    ⟨"stubs_path", fun path v c =>
      (decodeText "path string" path v).map fun s => { c with stubsPath := s }⟩,
    ⟨"paths", fun path v c => (decodePaths path v).map fun p => { c with paths := p }⟩,
    ⟨"generate", fun path v c => (decodeGenerate path v).map fun g => { c with generate := g }⟩,
    ⟨"routes", fun path v c => (decodeRoutes path v).map fun r => { c with routes := r }⟩,
    ⟨"pagination", fun path v c =>
      (decodePerPage 15 path v).map fun n => { c with perPage := n }⟩,
    ⟨"field_types", fun path v c =>
      (decodeWidgets path v).map fun w => { c with fieldTypes := w }⟩] {}

/-- A configuration as a settings table, the form the file is laid over. -/
def Config.settingsTree (c : Config) : Value :=
  .table [
    ("namespace", .string c.rootNamespace),
    ("css_framework", .string c.cssFramework.name),
    ("api_only", .boolean c.apiOnly),
    ("soft_deletes", .boolean c.softDeletes),
    ("timestamps", .boolean c.timestamps),
    ("stubs_path", .string c.stubsPath),
    ("paths", .table [
      ("model", .string c.paths.model), ("controller", .string c.paths.controller),
      ("request", .string c.paths.request), ("resource", .string c.paths.resource),
      ("migration", .string c.paths.migration), ("seeder", .string c.paths.seeder),
      ("factory", .string c.paths.factory), ("view", .string c.paths.view),
      ("route", .string c.paths.route)]),
    ("generate", .table [
      ("migration", .boolean c.generate.migration), ("model", .boolean c.generate.model),
      ("factory", .boolean c.generate.factory), ("seeder", .boolean c.generate.seeder),
      ("request", .boolean c.generate.request), ("resource", .boolean c.generate.resource),
      ("controller", .boolean c.generate.controller), ("views", .boolean c.generate.views),
      ("routes", .boolean c.generate.routes)]),
    ("routes", .table [
      ("prefix", .string c.routes.urlPrefix),
      ("middleware", .array (c.routes.middleware.map .string)),
      ("api_middleware", .array (c.routes.apiMiddleware.map .string))]),
    ("pagination", .table [("per_page", .integer c.perPage)]),
    ("field_types", .table (c.fieldTypes.map fun (k, i) => (k, .string i.name)))]

/-- Reads the configuration file: its settings laid over the defaults. -/
def Config.ofToml (text : String) : Except ScaffoldError Config :=
  match readDocument text with
  | .error e => .error (.config (e.render text ++ " in " ++ configSource))
  | .ok doc =>
    match decodeConfig [] (({} : Config).settingsTree.merge doc.settingsForm) with
    | .ok c => .ok c
    | .error f => .error (.config (f.message ++ " in " ++ configSource))

/-- The configuration of a project: the defaults, under the file when there is one. -/
def Config.load : Option String → Except ScaffoldError Config
  | none => .ok {}
  | some text => Config.ofToml text

end CrudScaffold
