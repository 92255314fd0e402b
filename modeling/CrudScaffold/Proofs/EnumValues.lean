import CrudScaffold.Proofs.Columns
import Mathlib.Data.List.Forall2

/-! The values of an enum field, as four artifacts list them: the enum column of the migration,
the `in:` rule of the store and of the update request, the factory's states, and the select of
the form partial. Each takes the field's effective values (the values it declares, or
`pending, active, inactive` when it declares none) in order.

The form offers the values only when the field's name asks for no input of its own: a name
holding `email`, `password`, `url`, `website`, `phone` or `color` gets that input before the
type is looked at, so an enum field `favorite_color` is edited with a colour picker and its form
block lists no values.

Main statement: `enum_values_across_artifacts`. -/

namespace CrudScaffold

open Naming

/-! ### Migration, validation and factory -/

theorem storageColumn_enum {f : Field} (he : f.type = .enum) :
    (storageColumn f).kind = "enum" ∧ (storageColumn f).enumValues = f.effectiveEnumValues := by
  simp [storageColumn, he, FieldType.columnKind]

/-- Every field has its column line in the migration's column block. -/
theorem migrationColumns_of_mem (ctx : RenderContext) {f : Field} (hf : f ∈ ctx.request.fields) :
    ∃ pre post, migrationColumns ctx =
      "\n".intercalate (pre ++ ("            " ++ (storageColumn f).render) :: post) := by
  obtain ⟨rest, hsplit, -⟩ := migrationColumns_split ctx
  obtain ⟨pre, post, hfields⟩ := List.append_of_mem
    (List.mem_map_of_mem (f := fun f => "            " ++ (storageColumn f).render) hf)
  refine ⟨pre, post ++ (belongsToForeignKeys ctx.request.fields ctx.request.relations).map
    (fun p => "            " ++ foreignKeyLine p.1 p.2) ++ rest, ?_⟩
  rw [hsplit, hfields]
  simp only [List.append_assoc, List.cons_append]

/-- The values of an `in:` rule. -/
def ValidationRule.listed : ValidationRule → Option (List String)
  | .inList vs => some vs
  | _ => none

/-- An enum field has one `in:` rule, for its effective values, on store and on update. -/
theorem listed_validationRules {f : Field} (he : f.type = .enum) (isUpdate : Bool) :
    (validationRules f isUpdate).filterMap ValidationRule.listed = [f.effectiveEnumValues] := by
  -- the presence rule and the rules after the type rule list no values
  have hnone : ∀ (c : Bool) (r : ValidationRule), r.listed = none →
      (if c = true then [r] else []).filterMap ValidationRule.listed = [] := by
    intro c r hr
    split <;> simp [hr]
  have hpresence : ([if f.isNullable then .nullable else if isUpdate then .sometimes
      else .required] : List ValidationRule).filterMap ValidationRule.listed = [] := by
    cases f.isNullable <;> cases isUpdate <;> rfl
  simp only [validationRules, typeRules, he, List.filterMap_append, hpresence,
    hnone _ .unique rfl, hnone _ .email rfl, hnone _ .url rfl]
  rfl

/-- The states of an enum field, one per effective value, stand together among the factory's
candidate states, each setting the field to its value. -/
theorem enumStates_infix {fields : List Field} {f : Field} (hf : f ∈ fields)
    (he : f.type = .enum) :
    (f.effectiveEnumValues.map fun v => (⟨camelCase v, f.name, singleQuoted v⟩ : FactoryState))
      <:+: candidateStates fields := by
  have hmem : f ∈ fields.filter (·.type == .enum) := List.mem_filter.mpr ⟨hf, by simp [he]⟩
  unfold candidateStates
  refine List.IsInfix.trans ?_ (List.prefix_append _ _).isInfix
  rw [List.flatMap_def]
  exact List.infix_of_mem_flatten (List.mem_map_of_mem hmem)

/-! ### The form -/

/-- The markup of a context's views. -/
def RenderContext.markup (ctx : RenderContext) : Markup :=
  ⟨ctx.names.variableName, ctx.config.cssFramework.classes⟩

/-- The block of a field in the form partial, before it is indented into the partial. -/
def formBlock (ctx : RenderContext) (f : Field) : String :=
  ctx.markup.input f (inputKindWith f ctx.config.fieldTypes)

theorem viewValues_formFields (ctx : RenderContext) :
    ("form_fields", "\n\n    ".intercalate
      (ctx.request.fields.map fun f => indentBlock (formBlock ctx f) "    ")) ∈ viewValues ctx := by
  simp [viewValues, formBlock, RenderContext.markup]

/-- A form block that offers `values`: a select whose options, after the empty one, carry the
values in order. -/
def OffersValues (block : String) (values : List String) : Prop :=
  ∃ pre lines post, block =
      pre ++ "\n".intercalate ("        <option value=\"\">Select...</option>" :: lines) ++ post ∧
    List.Forall₂ (fun v line => ∃ rest, line = "        <option value=\"" ++ v ++ "\" " ++ rest)
      values lines

/-- A block that offers values holds the empty option. -/
theorem OffersValues.emptyOption_infix {block : String} {values : List String}
    (h : OffersValues block values) :
    "        <option value=\"\">Select...</option>".toList <:+: block.toList := by
  obtain ⟨pre, lines, post, rfl, -⟩ := h
  -- the joined options start with the empty one
  obtain ⟨rest, hrest⟩ : ∃ rest, "\n".intercalate
      ("        <option value=\"\">Select...</option>" :: lines) =
      "        <option value=\"\">Select...</option>" ++ rest := by
    cases lines with
    | nil => exact ⟨"", by simp⟩
    | cons u l => exact ⟨_, by rw [String.intercalate_cons_cons, String.append_assoc]⟩
  rw [hrest]
  exact ⟨pre.toList, rest.toList ++ post.toList, by simp⟩

theorem offersValues_select (m : Markup) {f : Field} (he : f.type = .enum) :
    OffersValues (m.input f .select) f.effectiveEnumValues := by
  -- the labelled select up to its options, the options of the values, and the select's end
  -- with the error block
  refine ⟨"<div>\n    <label for=\"" ++ f.name ++ "\" class=\"" ++ m.css.label ++ "\">" ++
      label f.name ++ "</label>\n    " ++ "<select name=\"" ++ f.name ++ "\" id=\"" ++ f.name ++
      "\" class=\"" ++ m.controlClass m.css.select f.name ++ "\"" ++
      (if f.isNullable then "" else " required") ++ ">\n",
    f.effectiveEnumValues.map fun v => "        <option value=\"" ++ v ++ "\" " ++
      echo ("old('" ++ f.name ++ "', " ++ m.currentValue f ++ ")" ++ " === '" ++ v ++
        "' ? 'selected' : ''") ++ ">" ++ label v ++ "</option>",
    "\n    </select>" ++ "\n" ++ m.errorBlock f.name ++ "\n</div>", ?_, ?_⟩
  · unfold Markup.input
    simp only [he, beq_self_eq_true, if_true, List.singleton_append, String.append_assoc]
  · rw [List.forall₂_map_right_iff]
    exact List.forall₂_same.mpr fun v _ =>
      ⟨echo ("old('" ++ f.name ++ "', " ++ m.currentValue f ++ ")" ++ " === '" ++ v ++
        "' ? 'selected' : ''") ++ ">" ++ label v ++ "</option>", by simp only [String.append_assoc]⟩

theorem lookup_eq_none_of_not_mem {α β : Type} [BEq α] [LawfulBEq α] {a : α} :
    ∀ {l : List (α × β)}, a ∉ l.map Prod.fst → l.lookup a = none
  | [], _ => rfl
  | (k, b) :: l, h => by
    have hne : a ≠ k := fun he => h (by simp [he])
    rw [List.lookup_cons, beq_false_of_ne hne]
    exact lookup_eq_none_of_not_mem fun hm => h (List.mem_cons_of_mem _ hm)

/-- An enum field is edited with the input its name asks for, or else with a select: no widget
configured for enum fields comes between. -/
theorem inputKindWith_enum {f : Field} (he : f.type = .enum) {overrides : List (String × InputKind)}
    (ho : "enum" ∉ overrides.map Prod.fst) :
    inputKindWith f overrides = (inputKindByName f).getD .select := by
  have hlookup : overrides.lookup FieldType.enum.name = none := lookup_eq_none_of_not_mem ho
  unfold inputKindWith
  cases inputKindByName f with
  | some k => rfl
  | none => rw [he, hlookup]; rfl

/-- A name asks for an e-mail, password, URL, telephone or colour input, never a select. -/
theorem inputKindByName_ne_select (f : Field) : inputKindByName f ≠ some .select := by
  unfold inputKindByName
  repeat' split
  all_goals decide

/-! ### The four artifacts -/

/-- The artifacts of a request agree on the values of an enum field `f`: the migration's enum
column, the `in:` rule of the store and of the update request, and the factory's states all
carry its effective values in order. The form partial holds the field's block, which offers the
values in a select when the field's name asks for no input of its own, and is otherwise an input
of the kind the name asks for. -/
structure EnumValuesAgree (ctx : RenderContext) (f : Field) : Prop where
  migration : (∃ pre post, migrationColumns ctx =
      "\n".intercalate (pre ++ ("            " ++ (storageColumn f).render) :: post)) ∧
    (storageColumn f).kind = "enum" ∧ (storageColumn f).enumValues = f.effectiveEnumValues
  store : (validationRules f false).filterMap ValidationRule.listed = [f.effectiveEnumValues]
  update : (validationRules f true).filterMap ValidationRule.listed = [f.effectiveEnumValues]
  factory : (f.effectiveEnumValues.map fun v => (⟨camelCase v, f.name, singleQuoted v⟩ : FactoryState))
    <:+: candidateStates ctx.request.fields
  formPartial : ("form_fields", "\n\n    ".intercalate
    (ctx.request.fields.map fun g => indentBlock (formBlock ctx g) "    ")) ∈ viewValues ctx
  formSelect : inputKindByName f = none → OffersValues (formBlock ctx f) f.effectiveEnumValues
  formByName : ∀ k, inputKindByName f = some k → formBlock ctx f = ctx.markup.input f k ∧ k ≠ .select

/-- Under a configuration with no widget for enum fields, every enum field of a request has its
effective values in the migration, both form requests and the factory, and in the form partial
unless its name asks for another input. -/
theorem enum_values_across_artifacts (ctx : RenderContext)
    (hcfg : "enum" ∉ ctx.config.fieldTypes.map Prod.fst) {f : Field}
    (hf : f ∈ ctx.request.fields) (he : f.type = .enum) : EnumValuesAgree ctx f where
  migration := ⟨migrationColumns_of_mem ctx hf, storageColumn_enum he⟩
  store := listed_validationRules he false
  update := listed_validationRules he true
  factory := enumStates_infix hf he
  formPartial := viewValues_formFields ctx
  formSelect hname := by
    rw [formBlock, inputKindWith_enum he hcfg, hname]
    exact offersValues_select _ he
  formByName k hname := by
    refine ⟨by rw [formBlock, inputKindWith_enum he hcfg, hname]; rfl, fun hk => ?_⟩
    exact inputKindByName_ne_select f (hk ▸ hname)

/-- An order whose status is one of three values. -/
theorem order_status_values_agree :
    EnumValuesAgree (RenderContext.make
      { modelName := "Order", modelNamespace := "App\\Models", subNamespace := [],
        fields := [⟨"status", .enum, [], ["pending", "processing", "completed"]⟩,
          ⟨"favorite_color", .enum, [], ["red", "green"]⟩],
        relations := [], forceOverwrite := false, apiOnly := false, switches := default }
      {} ⟨2024, 1, 15, 10, 30, 0⟩ (({} : Project).stub "resources/stubs/vendor/crudwright"))
      ⟨"status", .enum, [], ["pending", "processing", "completed"]⟩ :=
  enum_values_across_artifacts _ (by decide) List.mem_cons_self rfl

/-- An enum field named `favorite_color` is edited with a colour picker: its form block offers
none of its values. -/
theorem favorite_color_form_offers_no_values :
    ¬ OffersValues (formBlock (RenderContext.make
      { modelName := "Order", modelNamespace := "App\\Models", subNamespace := [],
        fields := [⟨"favorite_color", .enum, [], ["red", "green"]⟩],
        relations := [], forceOverwrite := false, apiOnly := false, switches := default }
      {} ⟨2024, 1, 15, 10, 30, 0⟩ (({} : Project).stub "resources/stubs/vendor/crudwright"))
      ⟨"favorite_color", .enum, [], ["red", "green"]⟩) ["red", "green"] :=
  fun h => absurd h.emptyOption_infix (by decide +kernel)

end CrudScaffold
