import CrudScaffold.Artifact.Basic
import CrudScaffold.Schema.Input

/-! Blade views: the listing, the create, edit and detail pages, and the form partial they
share. The markup is the same for every CSS framework; only the class names differ, and they
come from one table per framework. Views live in one directory per model under the view path,
whatever the model's sub-namespace. -/

namespace CrudScaffold

open Naming

/-- The class names the markup uses. -/
structure CssClasses where
  container : String
  header : String
  title : String
  buttonPrimary : String
  buttonSecondary : String
  alertSuccess : String
  searchForm : String
  input : String
  inputError : String
  textarea : String
  select : String
  checkbox : String
  checkboxGroup : String
  label : String
  error : String
  card : String
  table : String
  th : String
  td : String
  tdActions : String
  tdEmpty : String
  link : String
  linkDanger : String
  inlineForm : String
  badgeSuccess : String
  badgeDanger : String
  badgePrimary : String
  pagination : String
  form : String
  formFields : String
  formActions : String
  detailList : String
  dt : String
  dd : String

/-- Tailwind component classes. -/
def tailwindClasses : CssClasses where
  container := "crud-container"
  header := "crud-header"
  title := "crud-title"
  buttonPrimary := "crud-btn-primary"
  buttonSecondary := "crud-btn-secondary"
  alertSuccess := "crud-alert-success"
  searchForm := "crud-search"
  input := "crud-input"
  inputError := "crud-input-error"
  textarea := "crud-textarea"
  select := "crud-select"
  checkbox := "crud-checkbox"
  checkboxGroup := "crud-checkbox-group"
  label := "crud-label"
  error := "crud-label-error"
  card := "crud-card"
  table := "crud-table"
  th := "crud-table-th"
  td := "crud-table-td"
  tdActions := "crud-table-td crud-table-actions"
  tdEmpty := "crud-table-td crud-table-empty"
  link := "crud-link"
  linkDanger := "crud-link-danger"
  inlineForm := "crud-inline-form"
  badgeSuccess := "crud-badge-success"
  badgeDanger := "crud-badge-danger"
  badgePrimary := "crud-badge-primary"
  pagination := "crud-pagination"
  form := "crud-form"
  formFields := "crud-form-fields"
  formActions := "crud-form-actions"
  detailList := "crud-detail-list"
  dt := "crud-detail-term"
  dd := "crud-detail-value"

/-- Bootstrap 5 classes. -/
def bootstrapClasses : CssClasses where
  container := "container py-4"
  header := "d-flex justify-content-between align-items-center mb-4"
  title := "h3 mb-0"
  buttonPrimary := "btn btn-primary"
  buttonSecondary := "btn btn-outline-secondary"
  alertSuccess := "alert alert-success"
  searchForm := "d-flex gap-2 mb-3"
  input := "form-control"
  inputError := "is-invalid"
  textarea := "form-control"
  select := "form-select"
  checkbox := "form-check-input"
  checkboxGroup := "form-check"
  label := "form-label"
  error := "invalid-feedback d-block"
  card := "card"
  table := "table table-striped mb-0"
  th := ""
  td := ""
  tdActions := "text-end"
  tdEmpty := "text-center text-muted"
  link := "btn btn-link btn-sm"
  linkDanger := "btn btn-link btn-sm text-danger"
  inlineForm := "d-inline"
  badgeSuccess := "badge bg-success"
  badgeDanger := "badge bg-danger"
  badgePrimary := "badge bg-primary"
  pagination := "mt-3"
  form := "card-body"
  formFields := "vstack gap-3"
  formActions := "d-flex justify-content-end gap-2 mt-3"
  detailList := "row card-body mb-0"
  dt := "col-sm-3"
  dd := "col-sm-9"

/-- The classes of a framework. -/
def CssFramework.classes : CssFramework → CssClasses
  | .tailwind => tailwindClasses
  | .bootstrap => bootstrapClasses

/-- The classes the stubs name directly. -/
def CssClasses.values (css : CssClasses) : List (String × String) := [
  ("css_container", css.container), ("css_header", css.header), ("css_title", css.title),
  ("css_button_primary", css.buttonPrimary), ("css_button_secondary", css.buttonSecondary),
  ("css_alert_success", css.alertSuccess), ("css_search_form", css.searchForm),
  ("css_input", css.input), ("css_card", css.card), ("css_table", css.table),
  ("css_td_actions", css.tdActions), ("css_td_empty", css.tdEmpty), ("css_link", css.link),
  ("css_link_danger", css.linkDanger), ("css_inline_form", css.inlineForm),
  ("css_pagination", css.pagination), ("css_form", css.form),
  ("css_form_fields", css.formFields), ("css_form_actions", css.formActions),
  ("css_detail_list", css.detailList)]

/-- A Blade echo: `{{ code }}`. -/
def echo (code : String) : String := "\x7b\x7b " ++ code ++ " \x7d\x7d"

/-- Markup bound to the model variable and a class set. -/
structure Markup where
  variable_ : String
  css : CssClasses

namespace Markup

/-- The model's attribute, as PHP. -/
def attr (m : Markup) (name : String) : String := "$" ++ m.variable_ ++ "->" ++ name

/-- A column header that toggles sorting by the column. -/
def header (m : Markup) (column label : String) : String :=
  "<th class=\"" ++ m.css.th ++ "\"><a href=\"" ++
    echo ("request()->fullUrlWithQuery(['sort' => '" ++ column ++
      "', 'direction' => request('direction') === 'asc' ? 'desc' : 'asc'])") ++
    "\" class=\"" ++ m.css.link ++ "\">" ++ label ++ "</a></th>"

/-- A field's value for reading, in a table cell or (`detailed`) on the detail page. -/
def displayValue (m : Markup) (f : Field) (detailed : Bool) : String :=
  let a := m.attr f.name
  match f.type with
  | .boolean =>
    "@if (" ++ a ++ ")<span class=\"" ++ m.css.badgeSuccess ++ "\">Yes</span>@else<span class=\"" ++
      m.css.badgeDanger ++ "\">No</span>@endif"
  | .date => echo (a ++ "?->format('Y-m-d')")
  | .dateTime | .timestamp => echo (a ++ "?->format('Y-m-d H:i')")
  | .text =>
    if detailed then "\x7b!! nl2br(e(" ++ a ++ ")) !!\x7d"
    else echo ("\\Illuminate\\Support\\Str::limit(" ++ a ++ ", 50)")
  | .json =>
    if detailed then "<pre>" ++ echo ("json_encode(" ++ a ++ ", JSON_PRETTY_PRINT)") ++ "</pre>"
    else "<code>" ++ echo ("\\Illuminate\\Support\\Str::limit(json_encode(" ++ a ++ "), 30)") ++ "</code>"
  | .enum => "<span class=\"" ++ m.css.badgePrimary ++ "\">" ++ echo ("ucfirst(" ++ a ++ ")") ++ "</span>"
  | _ => echo a

/-- A table cell. -/
def cell (m : Markup) (f : Field) : String :=
  "<td class=\"" ++ m.css.td ++ "\">" ++ m.displayValue f false ++ "</td>"

/-- A term and its value on the detail page. -/
def detail (m : Markup) (f : Field) : String :=
  "<dt class=\"" ++ m.css.dt ++ "\">" ++ label f.name ++ "</dt>\n            <dd class=\"" ++
    m.css.dd ++ "\">" ++ m.displayValue f true ++ "</dd>"

/-- The current value that refills an input. -/
def currentValue (m : Markup) (f : Field) : String :=
  let v := "$" ++ m.variable_
  match f.type with
  | .date => v ++ "?->" ++ f.name ++ "?->format('Y-m-d')"
  | .dateTime | .timestamp => v ++ "?->" ++ f.name ++ "?->format('Y-m-d\\TH:i')"
  | .json => v ++ " ? json_encode(" ++ m.attr f.name ++ ") : ''"
  | _ => v ++ "?->" ++ f.name

/-- The validation error of a field. -/
def errorBlock (m : Markup) (name : String) : String :=
  "    @error('" ++ name ++ "')\n        <p class=\"" ++ m.css.error ++ "\">" ++ echo "$message" ++
    "</p>\n    @enderror"

/-- The classes of a control, marked invalid when its field has an error. -/
def controlClass (m : Markup) (base name : String) : String :=
  base ++ " @error('" ++ name ++ "') " ++ m.css.inputError ++ " @enderror"

/-- The labelled input of a field in the form. -/
def input (m : Markup) (f : Field) (kind : InputKind) : String :=
  let name := f.name
  let l := label name
  let required := if f.isNullable then "" else " required"
  let old := "old('" ++ name ++ "', " ++ m.currentValue f ++ ")"
  let wrap (control : String) : String :=
    "<div>\n    <label for=\"" ++ name ++ "\" class=\"" ++ m.css.label ++ "\">" ++ l ++
      "</label>\n    " ++ control ++ "\n" ++ m.errorBlock name ++ "\n</div>"
  match kind with
  | .textarea =>
    wrap ("<textarea name=\"" ++ name ++ "\" id=\"" ++ name ++ "\" rows=\"4\" class=\"" ++
      m.controlClass m.css.textarea name ++ "\"" ++ required ++ ">" ++ echo old ++ "</textarea>")
  | .checkbox =>
    "<div class=\"" ++ m.css.checkboxGroup ++ "\">\n    <input type=\"hidden\" name=\"" ++ name ++
      "\" value=\"0\">\n    <input type=\"checkbox\" name=\"" ++ name ++ "\" id=\"" ++ name ++
      "\" value=\"1\" class=\"" ++ m.css.checkbox ++ "\" " ++ echo (old ++ " ? 'checked' : ''") ++
      ">\n    <label for=\"" ++ name ++ "\" class=\"" ++ m.css.label ++ "\">" ++ l ++
      "</label>\n" ++ m.errorBlock name ++ "\n</div>"
  | .select =>
    let values := if f.type == .enum then f.effectiveEnumValues else []
    let options := ["        <option value=\"\">Select...</option>"] ++ values.map fun v =>
      "        <option value=\"" ++ v ++ "\" " ++ echo (old ++ " === '" ++ v ++ "' ? 'selected' : ''") ++
        ">" ++ label v ++ "</option>"
    wrap ("<select name=\"" ++ name ++ "\" id=\"" ++ name ++ "\" class=\"" ++
      m.controlClass m.css.select name ++ "\"" ++ required ++ ">\n" ++ "\n".intercalate options ++
      "\n    </select>")
  | .password =>
    wrap ("<input type=\"password\" name=\"" ++ name ++ "\" id=\"" ++ name ++ "\" class=\"" ++
      m.controlClass m.css.input name ++ "\"" ++ required ++ ">")
  | other =>
    let step := if other == .number then " step=\"any\"" else ""
    wrap ("<input type=\"" ++ other.name ++ "\" name=\"" ++ name ++ "\" id=\"" ++ name ++
      "\" value=\"" ++ echo old ++ "\" class=\"" ++ m.controlClass m.css.input name ++ "\"" ++
      required ++ step ++ ">")

end Markup

/-- Indents every line of a block after the first. -/
def indentBlock (block indent : String) : String :=
  Text.replaceChar block '\n' ("\n" ++ indent)

/-- The values the view stubs are filled with. -/
def viewValues (ctx : RenderContext) : List (String × String) :=
  let names := ctx.names
  let css := ctx.config.cssFramework.classes
  let m : Markup := ⟨names.variableName, css⟩
  let fields := ctx.request.fields
  let titlePlural := label (pluralize names.snake)
  let headers := [m.header "id" "ID"] ++ fields.map (fun f => m.header f.name (label f.name)) ++
    ["<th class=\"" ++ css.th ++ "\">Actions</th>"]
  let cells := ["<td class=\"" ++ css.td ++ "\">" ++ echo ("$" ++ names.variableName ++ "->id") ++
    "</td>"] ++ fields.map m.cell
  let formFields := fields.map fun f =>
    indentBlock (m.input f (inputKindWith f ctx.config.fieldTypes)) "    "
  [("title", label names.snake),
   ("title_plural_lower", Text.lowercase titlePlural),
   ("title_plural", titlePlural),
   ("route_prefix", names.routePrefix),
   ("view_folder", names.viewFolder),
   ("model_variable", names.variableName),
   ("model_variable_plural", names.pluralVariable)] ++ css.values ++
  [("table_headers", "\n                    ".intercalate headers),
   ("table_body", "\n                    ".intercalate cells),
   ("column_count", toString (fields.length + 2)),
   ("detail_fields", "\n            ".intercalate (fields.map m.detail)),
   ("form_fields", "\n\n    ".intercalate formFields)]

/-- The five views. -/
def renderViews (ctx : RenderContext) : Except ScaffoldError (List Artifact) :=
  let values := viewValues ctx
  let dir := joinPath (ArtifactKind.views.directory ctx.config.paths) ctx.names.viewFolder
  let model := ctx.names.model
  [("views/index", "index", "Index view"),
   ("views/create", "create", "Create view"),
   ("views/edit", "edit", "Edit view"),
   ("views/show", "show", "Show view"),
   ("views/form", "_form", "Form partial")].mapM fun (stub, file, description) => do
    let content ← ctx.render stub values
    pure { path := joinPath dir (file ++ ".blade.php")
           content
           description := description ++ " for " ++ model }

end CrudScaffold
