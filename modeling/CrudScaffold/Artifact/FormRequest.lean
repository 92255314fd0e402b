import CrudScaffold.Artifact.Basic
import CrudScaffold.Schema.Validation

/-! Form requests: a store request and an update request, each with the validation rules of
every field and a message for each rule that needs one: "is required" for a field that may
not be null, and a message for the type rule of numeric, boolean, date and JSON fields. -/

namespace CrudScaffold

open Naming

/-- The rule entries, `'name' => 'rules'`. -/
def ruleEntries (ctx : RenderContext) (isUpdate : Bool) : List String :=
  ctx.request.fields.map fun f =>
    singleQuoted f.name ++ " => " ++ singleQuoted (ruleString (validationRules f isUpdate) ctx.names.table)

/-- The type rule of a field and the words of its message, if its type has one. -/
def typeRuleMessage : FieldType → Option (String × String)
  | .integer | .bigInteger => some ("integer", "must be an integer")
  | .float | .decimal => some ("numeric", "must be a number")
  | .boolean => some ("boolean", "must be true or false")
  | .date | .dateTime => some ("date", "must be a valid date")
  | .json => some ("json", "must be valid JSON")
  | _ => none

/-- The message entries of the fields. -/
def messageEntries (fields : List Field) : List String :=
  fields.flatMap fun f =>
    let l := label f.name
    (if f.isNullable then [] else
      [singleQuoted (f.name ++ ".required") ++ " => " ++ singleQuoted (l ++ " is required.")]) ++
    (match typeRuleMessage f.type with
      | some (rule, text) =>
        [singleQuoted (f.name ++ "." ++ rule) ++ " => " ++ singleQuoted (l ++ " " ++ text ++ ".")]
      | none => [])

/-- The namespace of the form requests. -/
def requestNamespace (ctx : RenderContext) : String :=
  ctx.namespaceUnder (ctx.appNamespace "Http\\Requests")

/-- One form request: `Store` or `Update`. -/
def formRequest (ctx : RenderContext) (action : String) (isUpdate : Bool) :
    Except ScaffoldError Artifact := do
  let className := action ++ ctx.names.model ++ "Request"
  let content ← ctx.render "request" [
    ("namespace", requestNamespace ctx),
    ("class_name", className),
    ("rules", joinIndented (ruleEntries ctx isUpdate) 12 ","),
    ("messages", joinIndented (messageEntries ctx.request.fields) 12 ",")]
  pure { path := joinPath (ctx.namespacedDir .request) (className ++ ".php")
         content
         description := action ++ " request for " ++ ctx.names.model }

/-- The store and update requests. -/
def renderFormRequests (ctx : RenderContext) : Except ScaffoldError (List Artifact) := do
  let store ← formRequest ctx "Store" false
  let update ← formRequest ctx "Update" true
  pure [store, update]

end CrudScaffold
