import CrudScaffold.Spec.Field

/-! Storage columns: how a field is declared in a schema migration
(`$table->decimal('price', 10, 2)->nullable();`), and how a model casts its attributes. -/

namespace CrudScaffold

/-- A modifier call on a column declaration. -/
inductive ColumnModifier where
  | nullable
  | unique
  | index
  | unsigned
  | default (value : String)
deriving Repr, DecidableEq

/-- The call as written after the column. -/
def ColumnModifier.render : ColumnModifier → String
  | .nullable => "->nullable()"
  | .unique => "->unique()"
  | .index => "->index()"
  | .unsigned => "->unsigned()"
  | .default v => "->default('" ++ v ++ "')"

/-- A column declaration of a migration. -/
structure ColumnSpec where
  /-- The blueprint method, such as `string` or `dateTime`. -/
  kind : String
  name : String
  /-- Total digits and digits after the point, for decimals. -/
  precision : Option (Nat × Nat)
  enumValues : List String
  modifiers : List ColumnModifier
deriving Repr, DecidableEq

/-- Values as single-quoted literals joined by `, `. -/
def quotedList (values : List String) : String :=
  ", ".intercalate (values.map fun v => "'" ++ v ++ "'")

/-- The declaration as a line of a migration. -/
def ColumnSpec.render (c : ColumnSpec) : String :=
  "$table->" ++ c.kind ++ "('" ++ c.name ++ "'" ++
    (match c.precision with
      | some (p, s) => ", " ++ toString p ++ ", " ++ toString s
      | none => "") ++
    (if c.kind = "enum" then ", [" ++ quotedList c.enumValues ++ "]" else "") ++ ")" ++
    String.join (c.modifiers.map ColumnModifier.render) ++ ";"

/-- The blueprint method of a type. -/
def FieldType.columnKind : FieldType → String
  | .text => "text"
  | .integer => "integer"
  | .bigInteger => "bigInteger"
  | .unsignedBigInteger => "unsignedBigInteger"
  | .float => "float"
  | .decimal => "decimal"
  | .boolean => "boolean"
  | .date => "date"
  | .dateTime => "dateTime"
  | .timestamp => "timestamp"
  | .time => "time"
  | .json => "json"
  | .enum => "enum"
  | .foreignId => "foreignId"
  | .string | .unknown _ => "string"

/-- The column call of a field modifier; words the column does not know are dropped. -/
def Modifier.toColumn? : Modifier → Option ColumnModifier
  | .nullable => some .nullable
  | .unique => some .unique
  | .index => some .index
  | .unsigned => some .unsigned
  | .default v => some (.default v)
  | .other _ => none

/-- The column that stores a field. Decimals have ten digits, two after the point; enum
columns list the effective enum values. -/
def storageColumn (f : Field) : ColumnSpec :=
  { kind := f.type.columnKind
    name := f.name
    precision := if f.type = .decimal then some (10, 2) else none
    enumValues := if f.type = .enum then f.effectiveEnumValues else []
    modifiers := f.modifiers.filterMap Modifier.toColumn? }

/-- The attribute cast of a field, for the types a model casts. -/
def modelCast (f : Field) : Option String :=
  match f.type with
  | .boolean => some "boolean"
  | .integer | .bigInteger => some "integer"
  | .float => some "float"
  | .decimal => some "decimal:2"
  | .date => some "date"
  | .dateTime | .timestamp => some "datetime"
  | .json => some "array"
  | .enum => some "string"
  | _ => none

end CrudScaffold
