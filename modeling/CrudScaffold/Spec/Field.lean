import CrudScaffold.Text.Basic

/-! The field grammar: `name:type[:modifier...]`, fields separated by commas. An enum field
takes every later segment as one of its values: `status:enum:draft:published`.

A field prints back in the same grammar (`Field.render`), and a list of fields as a spec
(`toSpec`). Type words and modifier words are read without regard to case; an unknown type
word is kept as written, trimmed, and an unknown modifier word likewise. -/

namespace CrudScaffold

open Text

/-- The storage type of a field. -/
inductive FieldType where
  | string
  | text
  | integer
  | bigInteger
  | float
  | decimal
  | boolean
  | date
  | dateTime
  | timestamp
  | time
  | json
  | enum
  | foreignId
  | unsignedBigInteger
  | unknown (name : String)
deriving Repr, DecidableEq, Inhabited

/-- Reads a type word, trimmed and compared without regard to case. -/
def FieldType.parse (input : String) : FieldType :=
  let word := trim input
  match asciiLower word with
  | "string" => .string
  | "text" => .text
  | "integer" | "int" => .integer
  | "biginteger" | "bigint" => .bigInteger
  | "float" | "double" => .float
  | "decimal" => .decimal
  | "boolean" | "bool" => .boolean
  | "date" => .date
  | "datetime" => .dateTime
  | "timestamp" => .timestamp
  | "time" => .time
  | "json" | "jsonb" => .json
  | "enum" => .enum
  | "foreignid" => .foreignId
  | "unsignedbiginteger" => .unsignedBigInteger
  | _ => .unknown word

/-- The canonical name of a type; an unknown type keeps the word it was read from. -/
def FieldType.name : FieldType → String
  | .string => "string"
  | .text => "text"
  | .integer => "integer"
  | .bigInteger => "bigInteger"
  | .float => "float"
  | .decimal => "decimal"
  | .boolean => "boolean"
  | .date => "date"
  | .dateTime => "datetime"
  | .timestamp => "timestamp"
  | .time => "time"
  | .json => "json"
  | .enum => "enum"
  | .foreignId => "foreignId"
  | .unsignedBigInteger => "unsignedBigInteger"
  | .unknown n => n

/-- Text-like fields, which listings search in. -/
def FieldType.isSearchable : FieldType → Bool
  | .string | .text | .enum => true
  | _ => false

/-- A column modifier of a field. -/
inductive Modifier where
  | nullable
  | unique
  | index
  | unsigned
  | default (value : String)
  | other (word : String)
deriving Repr, DecidableEq, Inhabited

/-- Reads a modifier. `default:v` and `default=v` give a default of `v` (the prefix is
compared as written); other words are compared without regard to case. -/
def Modifier.parse (input : String) : Modifier :=
  let word := trim input
  match stripPrefix? word "default:" with
  | some v => .default v
  | none =>
    match stripPrefix? word "default=" with
    | some v => .default v
    | none =>
      match asciiLower word with
      | "nullable" | "optional" => .nullable
      | "unique" => .unique
      | "index" | "indexed" => .index
      | "unsigned" => .unsigned
      | _ => .other word

/-- The modifier as written in a spec. -/
def Modifier.render : Modifier → String
  | .nullable => "nullable"
  | .unique => "unique"
  | .index => "index"
  | .unsigned => "unsigned"
  | .default v => "default:" ++ v
  | .other w => w

/-- Enum values used when an enum field declares none. -/
def fallbackEnumValues : List String := ["pending", "active", "inactive"]

/-- A field of a model. -/
structure Field where
  name : String
  type : FieldType
  modifiers : List Modifier
  enumValues : List String
deriving Repr, DecidableEq, Inhabited

namespace Field

/-- Adds a modifier unless the field has it already. -/
def withModifier (f : Field) (m : Modifier) : Field :=
  if f.modifiers.contains m then f else { f with modifiers := f.modifiers ++ [m] }

/-- Adds one trailing entry: an enum value for an enum field, a modifier otherwise. Blank
entries are skipped. -/
def addEntry (f : Field) (raw : String) : Field :=
  let entry := trim raw
  if entry.isEmpty then f
  else if f.type = .enum then { f with enumValues := f.enumValues ++ [entry] }
  else f.withModifier (Modifier.parse entry)

/-- A field from a name, a type and trailing entries, read as the grammar reads trailing
segments. -/
def ofRecord (name : String) (type : FieldType) (entries : List String) : Field :=
  entries.foldl addEntry ⟨trim name, type, [], []⟩

/-- Joins a `default` segment with the segment after it: `default:0` is one entry. A
trailing `default` with nothing after it is dropped. -/
def joinDefaults : List String → List String
  | [] => []
  | p :: rest =>
    if asciiLower (trim p) = "default" then
      match rest with
      | v :: more => ("default:" ++ trim v) :: joinDefaults more
      | [] => []
    else trim p :: joinDefaults rest

/-- Reads one comma-free segment `name:type[:entry...]`. A segment without a type or with
a blank name is no field. -/
def parse (segment : String) : Option Field :=
  match split (trim segment) ':' with
  | rawName :: rawType :: rest =>
    let name := trim rawName
    if name.isEmpty then none
    else
      let type := FieldType.parse rawType
      if type = .enum then
        some ⟨name, .enum, [], (rest.map trim).filter (fun v => !v.isEmpty)⟩
      else some (ofRecord name type (joinDefaults rest))
  | _ => none

/-- The field as written in a spec. -/
def render (f : Field) : String :=
  let tail := if f.type = .enum then f.enumValues else f.modifiers.map Modifier.render
  f.name ++ ":" ++ f.type.name ++ String.join (tail.map (":" ++ ·))

/-- Whether the field may be null. -/
def isNullable (f : Field) : Bool := f.modifiers.contains .nullable

/-- Whether the field is unique. -/
def isUnique (f : Field) : Bool := f.modifiers.contains .unique

/-- The declared enum values, or the fallback values when none are declared. -/
def effectiveEnumValues (f : Field) : List String :=
  if f.enumValues.isEmpty then fallbackEnumValues else f.enumValues

/-- Whether the field name contains a keyword. -/
def nameContains (f : Field) (keyword : String) : Bool :=
  Text.contains f.name keyword

end Field

/-- Keeps the first field of each name, in order. -/
def uniqueFields (fields : List Field) : List Field :=
  (fields.foldl (fun acc f => if acc.any (·.name == f.name) then acc else f :: acc) []).reverse

/-- Reads a comma-separated field spec; segments that are no field are skipped and a
repeated name keeps its first field. -/
def parseFields (spec : String) : List Field :=
  uniqueFields ((split spec ',').filterMap Field.parse)

/-- Writes fields as a spec. -/
def toSpec (fields : List Field) : String :=
  ",".intercalate (fields.map Field.render)

end CrudScaffold
