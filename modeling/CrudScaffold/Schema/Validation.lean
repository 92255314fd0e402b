import CrudScaffold.Spec.Field

/-! Validation rules of a form request. A field is first required (`nullable` if it may be
null, `sometimes` on update), then checked by its type, then for uniqueness in the model's
table, and as an e-mail address or URL when its name says so. -/

namespace CrudScaffold

/-- A validation rule. -/
inductive ValidationRule where
  | nullable
  | sometimes
  | required
  | string
  | max (length : Nat)
  | integer
  | numeric
  | boolean
  | date
  | dateFormat (format : String)
  | json
  | inList (values : List String)
  | unique
  | email
  | url
deriving Repr, DecidableEq

/-- The rule as written, with `unique` checked against `table`. -/
def ValidationRule.render (table : String) : ValidationRule → String
  | .nullable => "nullable"
  | .sometimes => "sometimes"
  | .required => "required"
  | .string => "string"
  | .max n => "max:" ++ toString n
  | .integer => "integer"
  | .numeric => "numeric"
  | .boolean => "boolean"
  | .date => "date"
  | .dateFormat f => "date_format:" ++ f
  | .json => "json"
  | .inList vs => "in:" ++ ",".intercalate vs
  | .unique => "unique:" ++ table
  | .email => "email"
  | .url => "url"

/-- The rules that check a field's type. -/
def typeRules (f : Field) : List ValidationRule :=
  match f.type with
  | .text => [.string]
  | .integer | .bigInteger | .foreignId | .unsignedBigInteger => [.integer]
  | .float | .decimal => [.numeric]
  | .boolean => [.boolean]
  | .date | .dateTime | .timestamp => [.date]
  | .time => [.dateFormat "H:i:s"]
  | .json => [.json]
  | .enum => [.inList f.effectiveEnumValues]
  | .string | .unknown _ => [.string, .max 255]

/-- The rules of a field, for creating or for updating a record. -/
def validationRules (f : Field) (isUpdate : Bool) : List ValidationRule :=
  [if f.isNullable then .nullable else if isUpdate then .sometimes else .required] ++
    typeRules f ++
    (if f.isUnique then [.unique] else []) ++
    (if f.nameContains "email" then [.email] else []) ++
    (if f.nameContains "url" || f.nameContains "website" then [.url] else [])

/-- Rules joined by `|`. -/
def ruleString (rules : List ValidationRule) (table : String) : String :=
  "|".intercalate (rules.map (ValidationRule.render table))

end CrudScaffold
