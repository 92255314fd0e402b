import CrudScaffold.Spec.Field

/-! Form inputs: the HTML input a field is edited with. The field name decides first (an
`email` field gets an e-mail input), then a configured widget for its type, then the type. -/

namespace CrudScaffold

/-- The kinds of form input. -/
inductive InputKind where
  | text
  | email
  | password
  | url
  | tel
  | color
  | textarea
  | checkbox
  | number
  | date
  | datetimeLocal
  | time
  | select
deriving Repr, DecidableEq, Inhabited

/-- Every input kind, in the order configuration messages list them. -/
def InputKind.all : List InputKind :=
  [.text, .email, .password, .url, .tel, .color, .textarea, .checkbox, .number, .date,
   .datetimeLocal, .time, .select]

/-- The kebab-case name of an input kind, as HTML and configuration write it. -/
def InputKind.name : InputKind → String
  | .text => "text"
  | .email => "email"
  | .password => "password"
  | .url => "url"
  | .tel => "tel"
  | .color => "color"
  | .textarea => "textarea"
  | .checkbox => "checkbox"
  | .number => "number"
  | .date => "date"
  | .datetimeLocal => "datetime-local"
  | .time => "time"
  | .select => "select"

/-- The input kind with the given name. -/
def InputKind.ofName? (s : String) : Option InputKind :=
  InputKind.all.find? (·.name == s)

/-- The input kind a field name asks for. -/
def inputKindByName (f : Field) : Option InputKind :=
  if f.nameContains "email" then some .email
  else if f.nameContains "password" then some .password
  else if f.nameContains "url" || f.nameContains "website" then some .url
  else if f.nameContains "phone" then some .tel
  else if f.nameContains "color" then some .color
  else none

/-- The input kind of a type. -/
def inputKindByType : FieldType → InputKind
  | .text => .textarea
  | .boolean => .checkbox
  | .integer | .bigInteger | .float | .decimal => .number
  | .date => .date
  | .dateTime | .timestamp => .datetimeLocal
  | .time => .time
  | .enum => .select
  | _ => .text

/-- The input kind of a field. -/
def inputKind (f : Field) : InputKind :=
  (inputKindByName f).getD (inputKindByType f.type)

/-- The input kind of a field, with widgets configured per type name. -/
def inputKindWith (f : Field) (overrides : List (String × InputKind)) : InputKind :=
  match inputKindByName f with
  | some k => k
  | none => (overrides.lookup f.type.name).getD (inputKindByType f.type)

end CrudScaffold
