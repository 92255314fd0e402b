import CrudScaffold.Yaml.Read
import CrudScaffold.Request

/-! Bulk documents: several models described in one YAML document.

```yaml
models:
  Post:
    fields:
      title: string:unique
      body:
        type: text
        modifiers: [nullable]
    relations:
      - type: belongsTo
        model: User
  Tag:
    fields: "name:string:unique"
```

The fields of a model are a compact spec or a mapping from names to a compact spec or a
`{type, modifiers}` record; the relations are a compact spec or a list of
`{type, model, foreign_key}` records. A record may also be written as a sequence of its
fields in order. Unknown keys are ignored. Each model gives one request; a model whose name
makes no class gives an error in its place, without affecting the others. -/

namespace CrudScaffold

open Yaml

/-- A modifier written as a YAML scalar. -/
inductive ModifierValue where
  | text (s : String)
  | integer (i : Int)
  | float (x : Float)
  | boolean (b : Bool)
deriving Inhabited

/-- A modifier as the spec grammar reads it. -/
def ModifierValue.render : ModifierValue → String
  | .text s => s
  | .integer i => toString i
  | .float x => Number.shortestText x
  | .boolean b => toString b

/-- One field of a name-keyed field mapping. -/
inductive FieldInput where
  /-- The type and modifiers in compact form, `enum:active:inactive`. -/
  | compact (spec : String)
  /-- A type (`string` when missing) and modifiers. -/
  | record (type : Option String) (modifiers : List ModifierValue)
deriving Inhabited

/-- The fields of a model. -/
inductive FieldsInput where
  | compact (spec : String)
  | named (entries : List (String × FieldInput))
deriving Inhabited

/-- The relations of a model. -/
inductive RelationsInput where
  | compact (spec : String)
  | records (records : List RelationRecord)
deriving Inhabited

/-- One model of a bulk document. -/
structure ModelEntry where
  fields : Option FieldsInput := none
  relations : Option RelationsInput := none
  /-- Whether only the API artifacts are made, overriding the configuration. -/
  api : Option Bool := none
deriving Inhabited

/-- A bulk document: its models in document order, a repeated name keeping its first
place and its last entry. -/
structure BulkDocument where
  models : List (String × Option ModelEntry) := []
deriving Inhabited

/-- The field of a name-keyed entry. -/
def FieldInput.toField (name : String) : FieldInput → Option Field
  | .compact spec => Field.parse (name ++ ":" ++ spec)
  | .record type modifiers =>
    Field.parse (name ++ ":" ++ type.getD "string" ++
      String.join (modifiers.map fun m => ":" ++ m.render))

/-- The fields described, in order; entries that give no field are dropped. -/
def FieldsInput.toFields : FieldsInput → List Field
  | .compact spec => parseFields spec
  | .named entries => entries.filterMap fun (name, input) => input.toField name

/-- The relations described, in order. -/
def RelationsInput.toRelations : RelationsInput → List Relation
  | .compact spec => parseRelations spec
  | .records rs => relationsOfRecords rs

namespace Yaml.Content

/-- Text content. -/
def asString : Content → Option String
  | .string s => some s
  | _ => none

/-- Optional text: null reads as none. -/
def asOptionalString : Content → Option (Option String)
  | .absent | .unit => some none
  | .string s => some (some s)
  | _ => none

/-- The fields of a record with the given field names, each present or not. A mapping names
them by key (or by position with an integer key) and may hold other keys; a sequence gives
them in order. A repeated field or a key of another kind fails. -/
def recordFields (names : List String) : Content → Option (List (Option Content))
  | .map entries =>
    let place (acc : List (Option Content)) (entry : Content × Content) :
        Option (List (Option Content)) := do
      let index : Option Nat ← match entry.1 with
        | .string s => pure (names.idxOf? s)
        | .unsigned n => pure (if n < names.length then some n else none)
        | _ => none
      match index with
      | none => pure acc
      | some i => if (acc.getD i none).isSome then none else pure (acc.set i (some entry.2))
    entries.foldlM place (List.replicate names.length none)
  | .seq items =>
    if items.length > names.length then none
    else some (items.map some ++ List.replicate (names.length - items.length) none)
  | _ => none

/-- A modifier scalar: text, an integer that fits 64 signed bits, a float (which any number
also reads as) or a boolean. -/
def asModifier : Content → Option ModifierValue
  | .string s => some (.text s)
  | .unsigned n => some (if n < Nat.pow 2 63 then .integer n else .float (Number.intToDouble n))
  | .signed i => some (.integer i)
  | .float x => some (.float x)
  | .bool b => some (.boolean b)
  | _ => none

/-- One field of a name-keyed field mapping. -/
def asFieldInput (c : Content) : Option FieldInput :=
  match c with
  | .string s => some (.compact s)
  | _ => do
    let fields ← recordFields ["type", "modifiers"] c
    let type ← match fields.getD 0 none with
      | some t => t.asOptionalString
      | none => pure none
    let modifiers ← match fields.getD 1 none with
      | some (.seq items) => items.mapM asModifier
      | some _ => none
      | none => pure []
    pure (.record type modifiers)

/-- Sets a named entry: a repeated name keeps its place and takes the new value. -/
def setNamed (entries : List (String × α)) (name : String) (v : α) : List (String × α) :=
  setEntry entries name v

/-- The fields of a model. -/
def asFieldsInput : Content → Option FieldsInput
  | .string s => some (.compact s)
  | .map entries => do
    let add (acc : List (String × FieldInput)) (entry : Content × Content) := do
      let name ← entry.1.asString
      let input ← asFieldInput entry.2
      pure (setNamed acc name input)
    let named ← entries.foldlM add []
    pure (.named named)
  | _ => none

/-- A relation record. -/
def asRelationRecord (c : Content) : Option RelationRecord := do
  let fields ← recordFields ["type", "model", "foreign_key"] c
  let kind ← match fields.getD 0 none with
    | some t => t.asOptionalString
    | none => pure none
  let model ← match fields.getD 1 none with
    | some m => m.asString
    | none => pure ""
  let foreignKey ← match fields.getD 2 none with
    | some k => k.asOptionalString
    | none => pure none
  pure ⟨kind, model, foreignKey⟩

/-- The relations of a model. -/
def asRelationsInput : Content → Option RelationsInput
  | .string s => some (.compact s)
  | .seq items => (items.mapM asRelationRecord).map .records
  | _ => none

end Yaml.Content

section

variable (doc : Document)

/-- The budget of nested reads of typeless content. -/
def contentFuel : Nat := 300

/-- Reads a value by trying shapes on its typeless content. -/
def readUntagged (name : String) (shape : Content → Option α) (path : Path) (depth : Nat) :
    Reading α := do
  let c ← readContent doc contentFuel path depth
  match shape c with
  | some v => pure v
  | none => throw (.message ("data did not match any variant of untagged enum " ++ name) none)

/-- The error for a field given twice. -/
def duplicateField (name : String) : ReadError :=
  .message ("duplicate field \x60" ++ name ++ "\x60") none

/-- The fields of a model entry read so far, each once at most. -/
structure ModelEntryFields where
  fields : Option (Option FieldsInput) := none
  relations : Option (Option RelationsInput) := none
  api : Option (Option Bool) := none

/-- Reads one key of a model entry and its value. -/
def readModelEntryField (acc : ModelEntryFields) (mapPath valuePath : Path) (depth : Nat) :
    Reading ModelEntryFields := do
  let key ← readString doc "field identifier" mapPath
  if key == "fields" then
    if acc.fields.isSome then throw (duplicateField "fields")
    let v ← readOption doc valuePath fun p => readUntagged doc "FieldsInput" Content.asFieldsInput p depth
    return { acc with fields := some v }
  else if key == "relations" then
    if acc.relations.isSome then throw (duplicateField "relations")
    let v ← readOption doc valuePath fun p =>
      readUntagged doc "RelationsInput" Content.asRelationsInput p depth
    return { acc with relations := some v }
  else if key == "api" then
    if acc.api.isSome then throw (duplicateField "api")
    let v ← readOption doc valuePath (readBool doc)
    return { acc with api := some v }
  else
    skipValue doc (doc.items.size + 1) 0
    return acc

/-- Reads a model entry. -/
def readModelEntry (path : Path) (depth : Nat) : Reading ModelEntry := do
  let f ← readMapping doc "struct ModelEntry" {} (readModelEntryField doc) path depth
  return { fields := f.fields.getD none, relations := f.relations.getD none, api := f.api.getD none }

/-- Reads the models of a bulk document. -/
def readModels (path : Path) (depth : Nat) : Reading (List (String × Option ModelEntry)) :=
  readMapping doc "a map" [] (fun acc mapPath valuePath depth => do
    let name ← readString doc "a string" mapPath
    let entry ← readOption doc valuePath fun p => readModelEntry doc p depth
    return setEntry acc name entry) path depth

/-- Reads one key of a bulk document and its value. -/
def readBulkField (acc : Option (List (String × Option ModelEntry))) (mapPath valuePath : Path)
    (depth : Nat) : Reading (Option (List (String × Option ModelEntry))) := do
  let key ← readString doc "field identifier" mapPath
  if key == "models" then
    if acc.isSome then throw (duplicateField "models")
    let models ← readOption doc valuePath fun p => readModels doc p depth
    return some (models.getD [])
  else
    skipValue doc (doc.items.size + 1) 0
    return acc

/-- Reads a bulk document; a null document has no models. -/
def readBulkDocument : Reading BulkDocument := do
  let models ← readOption doc .root fun p =>
    readMapping doc "struct BulkDocument" none (readBulkField doc) p 128
  return ⟨(models.getD none).getD []⟩

end

namespace BulkDocument

/-- Reads a bulk document from YAML text; blank text has no models. The error is the
reader's message. -/
def parse (text : String) : Except String BulkDocument :=
  if (Text.trim text).isEmpty then .ok {}
  else
    match readDocument text readBulkDocument with
    | .ok d => .ok d
    | .error e => .error e.render

/-- The model names, in document order. -/
def names (d : BulkDocument) : List String := d.models.map (·.1)

/-- One request per model, in document order. -/
def requests (d : BulkDocument) (config : Config) (force : Bool) :
    List (Except ScaffoldError Request) :=
  d.models.map fun (name, entry) =>
    let entry := entry.getD {}
    let b : RequestBuilder := { name }
    let b := b.withFields ((entry.fields.map FieldsInput.toFields).getD [])
      |>.withRelations ((entry.relations.map RelationsInput.toRelations).getD [])
      |>.withForce force
    let b := match entry.api with
      | some api => b.withApiOnly api
      | none => b
    b.build config

end BulkDocument

end CrudScaffold
