import CrudScaffold.Generator
import CrudScaffold.Proofs.FieldGrammar

/-! The columns of a request's table, as three artifacts list them. The columns are the
fields, then the foreign keys of `belongsTo` relations that no field declares, each key once.
The migration declares them in that order, the model lists them as mass assignable and the
factory fills them: a column that a `belongsTo` relation goes through with the related model's
factory, taken from the first such relation, and any other column with a synthetic value.

The columns are distinct because a builder keeps the first field of each name, whichever way
the fields reach it, and because the added keys skip every name taken before them.

Main statement: `columns_agree_across_artifacts`. -/

namespace CrudScaffold

open Naming

/-! ### Builders -/

/-- The builders a program can make: a builder for a model name, then any of the builder's
steps. Fields reach a builder only through a spec or the field setter. -/
inductive RequestBuilder.Built : RequestBuilder → Prop
  | new (name : String) : RequestBuilder.Built { name }
  | withFieldSpec {b : RequestBuilder} (spec : String) :
      RequestBuilder.Built b → RequestBuilder.Built (b.withFieldSpec spec)
  | withFields {b : RequestBuilder} (fields : List Field) :
      RequestBuilder.Built b → RequestBuilder.Built (b.withFields fields)
  | withRelationSpec {b : RequestBuilder} (spec : String) :
      RequestBuilder.Built b → RequestBuilder.Built (b.withRelationSpec spec)
  | withRelations {b : RequestBuilder} (relations : List Relation) :
      RequestBuilder.Built b → RequestBuilder.Built (b.withRelations relations)
  | withForce {b : RequestBuilder} (force : Bool) :
      RequestBuilder.Built b → RequestBuilder.Built (b.withForce force)
  | withApiOnly {b : RequestBuilder} (apiOnly : Bool) :
      RequestBuilder.Built b → RequestBuilder.Built (b.withApiOnly apiOnly)
  | withSwitch {b : RequestBuilder} (k : ArtifactKind) (on : Bool) :
      RequestBuilder.Built b → RequestBuilder.Built (b.withSwitch k on)
  | only {b : RequestBuilder} (kinds : List ArtifactKind) :
      RequestBuilder.Built b → RequestBuilder.Built (b.only kinds)

theorem RequestBuilder.fields_foldl_withSwitch (on : ArtifactKind → Bool) :
    ∀ (ks : List ArtifactKind) (b : RequestBuilder),
      (ks.foldl (fun b k => b.withSwitch k (on k)) b).fields = b.fields
  | [], _ => rfl
  | k :: ks, b => fields_foldl_withSwitch on ks (b.withSwitch k (on k))

/-- A built builder holds at most one field of each name. -/
theorem RequestBuilder.Built.nodup_names {b : RequestBuilder} (h : b.Built) :
    (b.fields.map (·.name)).Nodup := by
  induction h with
  | new => exact List.nodup_nil
  | withFieldSpec spec _ _ => exact nodup_names_uniqueFields _
  | withFields fields _ _ => exact nodup_names_uniqueFields fields
  | withRelationSpec _ _ ih | withRelations _ _ ih | withForce _ _ ih | withApiOnly _ _ ih
  | withSwitch _ _ _ ih => exact ih
  | only kinds _ ih =>
    rw [RequestBuilder.only, RequestBuilder.fields_foldl_withSwitch]
    exact ih

theorem RequestBuilder.build_eq_ok {b : RequestBuilder} {c : Config} {r : Request}
    (h : b.build c = .ok r) : r.fields = b.fields ∧ r.relations = b.relations := by
  unfold RequestBuilder.build at h
  split at h
  · cases h
  · cases h
    exact ⟨rfl, rfl⟩

/-! ### Foreign keys that no field declares -/

/-- Whether a relation is a `belongsTo` relation through the column `key`. -/
def Relation.ownsKey (key : String) (rel : Relation) : Bool :=
  rel.kind == .belongsTo && rel.effectiveForeignKey == key

/-- The first `belongsTo` relation through a column. -/
def Request.keyOwner (r : Request) (key : String) : Option Relation :=
  r.relations.find? (Relation.ownsKey key)

theorem mem_freshForeignKeys {taken : List String} {p : Relation × String} :
    ∀ {rs : List Relation}, p ∈ freshForeignKeys taken rs →
      p.1 ∈ rs ∧ p.1.ownsKey p.2 = true ∧ p.2 ∉ taken
  | [], h => by simp [freshForeignKeys] at h
  | r :: rs, h => by
    unfold freshForeignKeys at h
    dsimp only at h
    split at h
    · rename_i hk
      split at h
      · obtain ⟨hp, ho, ht⟩ := mem_freshForeignKeys h
        exact ⟨List.mem_cons_of_mem r hp, ho, ht⟩
      · rename_i htaken
        rcases List.mem_cons.mp h with rfl | h
        · simp_all [Relation.ownsKey]
        · obtain ⟨hp, ho, ht⟩ := mem_freshForeignKeys h
          exact ⟨List.mem_cons_of_mem r hp, ho, fun hm => ht (List.mem_cons_of_mem _ hm)⟩
    · obtain ⟨hp, ho, ht⟩ := mem_freshForeignKeys h
      exact ⟨List.mem_cons_of_mem r hp, ho, ht⟩

/-- The names taken, followed by the keys added, are distinct when the names taken are. -/
theorem nodup_append_freshForeignKeys :
    ∀ {taken : List String} (rs : List Relation), taken.Nodup →
      (taken ++ (freshForeignKeys taken rs).map (·.2)).Nodup
  | _, [], h => by simpa [freshForeignKeys] using h
  | taken, r :: rs, h => by
    unfold freshForeignKeys
    dsimp only
    split
    · split
      · exact nodup_append_freshForeignKeys rs h
      · rename_i htaken
        -- the key added goes to the front of the names taken for the rest
        have hnew : (r.effectiveForeignKey :: taken).Nodup :=
          List.nodup_cons.mpr ⟨by simpa using htaken, h⟩
        have hrest := nodup_append_freshForeignKeys rs hnew
        rw [List.map_cons]
        exact List.perm_middle.nodup_iff.mpr hrest
    · exact nodup_append_freshForeignKeys rs h

/-- A key is added with the first `belongsTo` relation through it: an earlier relation through
the same key would have taken it. -/
theorem find?_of_mem_freshForeignKeys {taken : List String} {p : Relation × String} :
    ∀ {rs : List Relation}, p ∈ freshForeignKeys taken rs → rs.find? (Relation.ownsKey p.2) = some p.1
  | [], h => by simp [freshForeignKeys] at h
  | r :: rs, h => by
    -- a relation skipped before `p` does not own `p`'s key
    have hskip : ∀ {taken'}, p ∈ freshForeignKeys taken' rs → r.ownsKey p.2 = false →
        (r :: rs).find? (Relation.ownsKey p.2) = some p.1 := fun hp hr => by
      rw [List.find?_cons, hr]
      exact find?_of_mem_freshForeignKeys hp
    unfold freshForeignKeys at h
    dsimp only at h
    split at h
    · split at h
      · rename_i hk htaken
        apply hskip h
        have hfresh := (mem_freshForeignKeys h).2.2
        simp only [Relation.ownsKey, Bool.and_eq_false_iff, beq_eq_false_iff_ne]
        exact .inr fun he => hfresh (he ▸ by simpa using htaken)
      · rcases List.mem_cons.mp h with rfl | h
        · simp [Relation.ownsKey, *]
        · apply hskip h
          have hfresh := (mem_freshForeignKeys h).2.2
          simp only [Relation.ownsKey, Bool.and_eq_false_iff, beq_eq_false_iff_ne]
          exact .inr fun he => hfresh (he ▸ List.mem_cons_self)
    · rename_i hk
      apply hskip h
      simp [Relation.ownsKey, hk]

/-! ### The columns -/

/-- The columns of a request's table besides its id and timestamps: the fields, then the
foreign keys of `belongsTo` relations that no field declares. -/
def Request.columnNames (r : Request) : List String :=
  r.fields.map (·.name) ++ (belongsToForeignKeys r.fields r.relations).map (·.2)

theorem Request.nodup_columnNames {r : Request} (h : (r.fields.map (·.name)).Nodup) :
    r.columnNames.Nodup :=
  nodup_append_freshForeignKeys r.relations h

/-- The field of a name, in a list holding one field of each name. -/
theorem find?_name_of_mem {fs : List Field} (h : (fs.map (·.name)).Nodup) {f : Field}
    (hf : f ∈ fs) : fs.find? (·.name == f.name) = some f := by
  induction fs with
  | nil => simp at hf
  | cons g gs ih =>
    rw [List.map_cons, List.nodup_cons] at h
    rcases List.mem_cons.mp hf with rfl | hf
    · simp
    · have hne : g.name ≠ f.name := fun he => h.1 (he ▸ List.mem_map_of_mem hf)
      simp [hne, ih h.2 hf]

theorem find?_name_eq_none {fs : List Field} {key : String} (h : key ∉ fs.map (·.name)) :
    fs.find? (·.name == key) = none :=
  List.find?_eq_none.mpr fun _ hf he => h (beq_iff_eq.mp he ▸ List.mem_map_of_mem hf)

/-! ### The migration -/

/-- The migration line of a foreign key, constrained to the table of its relation's model. -/
def foreignKeyLine (rel : Relation) (key : String) : String :=
  "$table->foreignId('" ++ key ++ "')->constrained('" ++ tableName rel.target ++
    "')->cascadeOnDelete();"

/-- The migration line of a column: the field's column, or for a key no field declares the
foreign key line of the first `belongsTo` relation through it. -/
def Request.columnLine (r : Request) (key : String) : String :=
  match r.fields.find? (·.name == key) with
  | some f => (storageColumn f).render
  | none =>
    match r.keyOwner key with
    | some rel => foreignKeyLine rel key
    | none => ""

/-- A migration line that declares the column `name`: `$table-><method>('<name>'...`, where the
blueprint method holds no parenthesis. -/
def DeclaresColumn (name line : String) : Prop :=
  ∃ method rest, '(' ∉ method.toList ∧ line = "$table->" ++ method ++ "('" ++ name ++ "'" ++ rest

theorem paren_not_mem_columnKind (t : FieldType) : '(' ∉ t.columnKind.toList := by
  cases t <;> simp [FieldType.columnKind]

/-- Every column declaration whose method holds no parenthesis declares its own name. -/
theorem ColumnSpec.declaresColumn (c : ColumnSpec) (hk : '(' ∉ c.kind.toList) :
    DeclaresColumn c.name c.render :=
  -- `unfold` takes the body whole: the equation lemma `simp` would build for this chain of
  -- appends costs seconds
  ⟨c.kind, _, hk, by unfold ColumnSpec.render; simp only [String.append_assoc]; rfl⟩

theorem declaresColumn_storageColumn (f : Field) :
    DeclaresColumn f.name (storageColumn f).render :=
  (storageColumn f).declaresColumn (paren_not_mem_columnKind f.type)

theorem declaresColumn_foreignKeyLine (rel : Relation) (key : String) :
    DeclaresColumn key (foreignKeyLine rel key) := by
  unfold foreignKeyLine
  generalize tableName rel.target = table
  refine ⟨"foreignId", ")->constrained('" ++ table ++ "')->cascadeOnDelete();", by decide, ?_⟩
  -- the fixed texts of the line, cut where the method and the name end
  rw [show "$table->foreignId('" = "$table->" ++ "foreignId" ++ "('" by decide,
    show "')->constrained('" = "'" ++ ")->constrained('" by decide]
  simp only [String.append_assoc]

/-- A line that declares a column is indented in the column block. -/
theorem DeclaresColumn.indent {name line : String} (h : DeclaresColumn name line) :
    (if line.isEmpty then "" else "            " ++ line) = "            " ++ line := by
  obtain ⟨method, rest, -, rfl⟩ := h
  simp [String.append_assoc]

theorem Request.columnLine_of_mem {r : Request} (h : (r.fields.map (·.name)).Nodup) {f : Field}
    (hf : f ∈ r.fields) : r.columnLine f.name = (storageColumn f).render := by
  rw [Request.columnLine, find?_name_of_mem h hf]

theorem Request.columnLine_of_key {r : Request} {p : Relation × String}
    (hp : p ∈ belongsToForeignKeys r.fields r.relations) :
    r.keyOwner p.2 = some p.1 ∧ r.columnLine p.2 = foreignKeyLine p.1 p.2 := by
  have howner : r.keyOwner p.2 = some p.1 := find?_of_mem_freshForeignKeys hp
  refine ⟨howner, ?_⟩
  rw [Request.columnLine, find?_name_eq_none (mem_freshForeignKeys hp).2.2, howner]

theorem Request.declaresColumn_columnLine {r : Request} (h : (r.fields.map (·.name)).Nodup)
    {key : String} (hk : key ∈ r.columnNames) : DeclaresColumn key (r.columnLine key) := by
  rcases List.mem_append.mp hk with hk | hk
  · obtain ⟨f, hf, rfl⟩ := List.mem_map.mp hk
    rw [Request.columnLine_of_mem h hf]
    exact declaresColumn_storageColumn f
  · obtain ⟨p, hp, rfl⟩ := List.mem_map.mp hk
    rw [(Request.columnLine_of_key hp).2]
    exact declaresColumn_foreignKeyLine p.1 p.2

/-- The lines that close a migration's column block: a blank line, and the timestamp and
soft-delete columns. -/
def migrationMarkerLines : List String :=
  ["", "            $table->timestamps();", "            $table->softDeletes();"]

/-- The column block of a migration: one indented line per field and per added key, in order,
followed by marker lines only. -/
theorem migrationColumns_split (ctx : RenderContext) :
    ∃ rest, migrationColumns ctx = "\n".intercalate
        ((ctx.request.fields.map fun f => "            " ++ (storageColumn f).render) ++
          ((belongsToForeignKeys ctx.request.fields ctx.request.relations).map fun p =>
            "            " ++ foreignKeyLine p.1 p.2) ++ rest) ∧
      ∀ l ∈ rest, l ∈ migrationMarkerLines := by
  let r := ctx.request
  let indent : String → String := fun l => if l.isEmpty then "" else "            " ++ l
  let keyLines := (belongsToForeignKeys r.fields r.relations).map fun p => foreignKeyLine p.1 p.2
  let lines := r.fields.map (fun f => (storageColumn f).render) ++ keyLines
  let markers : List String := (if ctx.config.timestamps then ["$table->timestamps();"] else []) ++
    (if ctx.config.softDeletes then ["$table->softDeletes();"] else [])
  -- every column line declares a column, so it is indented
  have hlines : lines.map indent = (r.fields.map fun f => "            " ++ (storageColumn f).render) ++
      (belongsToForeignKeys r.fields r.relations).map fun p => "            " ++ foreignKeyLine p.1 p.2 := by
    simp only [lines, keyLines, List.map_append, List.map_map]
    exact congr (congrArg HAppend.hAppend
      (List.map_congr_left fun f _ => (declaresColumn_storageColumn f).indent))
      (List.map_congr_left fun p _ => (declaresColumn_foreignKeyLine p.1 p.2).indent)
  refine ⟨((if !markers.isEmpty && !lines.isEmpty then [""] else []) ++ markers).map indent, ?_, ?_⟩
  · show "\n".intercalate ((lines ++ (if !markers.isEmpty && !lines.isEmpty then [""] else []) ++
      markers).map indent) = _
    rw [List.append_assoc, List.map_append, hlines]
  · intro l hl
    obtain ⟨m, hm, rfl⟩ := List.mem_map.mp hl
    -- the blank separator and the two markers, each indented unless blank
    simp only [markers, List.mem_append, List.mem_ite_nil_right, List.mem_singleton] at hm
    rcases hm with ⟨-, rfl⟩ | ⟨-, rfl⟩ | ⟨-, rfl⟩ <;> simp [indent, migrationMarkerLines]

/-- The column block of a migration is one indented line per column, in order, followed by
marker lines only. -/
theorem migrationColumns_eq (ctx : RenderContext)
    (h : (ctx.request.fields.map (·.name)).Nodup) :
    ∃ rest, migrationColumns ctx = "\n".intercalate
        (ctx.request.columnNames.map (fun key => "            " ++ ctx.request.columnLine key) ++
          rest) ∧
      ∀ l ∈ rest, l ∈ migrationMarkerLines := by
  obtain ⟨rest, hsplit, hrest⟩ := migrationColumns_split ctx
  refine ⟨rest, ?_, hrest⟩
  rw [hsplit, Request.columnNames, List.map_append, List.map_map, List.map_map]
  congr 3
  · refine List.map_congr_left fun f hf => ?_
    simp only [Function.comp_apply, Request.columnLine_of_mem h hf]
  · refine List.map_congr_left fun p hp => ?_
    simp only [Function.comp_apply, (Request.columnLine_of_key hp).2]

/-! ### The factory -/

/-- What the factory fills a column with: the related model's factory, taken from the first
`belongsTo` relation through the column, or else the synthetic value of the field of that
name. -/
def factoryValue (ctx : RenderContext) (key : String) : String :=
  match ctx.request.keyOwner key with
  | some rel => relatedFactory ctx rel
  | none =>
    match ctx.request.fields.find? (·.name == key) with
    | some f => (syntheticStrategy f).expression
    | none => ""

/-- The factory defines one entry per column, in order. -/
theorem factoryDefinitions_eq (ctx : RenderContext) (h : (ctx.request.fields.map (·.name)).Nodup) :
    factoryDefinitions ctx =
      ctx.request.columnNames.map fun key => singleQuoted key ++ " => " ++ factoryValue ctx key := by
  simp only [factoryDefinitions, Request.columnNames, List.map_append, List.map_map]
  congr 1
  · refine List.map_congr_left fun f hf => ?_
    simp only [Function.comp, factoryValue, Request.keyOwner, find?_name_of_mem h hf]
    rfl
  · refine List.map_congr_left fun p hp => ?_
    rcases p with ⟨rel, key⟩
    simp only [Function.comp, factoryValue, (Request.columnLine_of_key hp).1]

theorem head?_toList_append {a : String} {c : Char} (h : a.toList.head? = some c) (b : String) :
    (a ++ b).toList.head? = some c := by
  simp [String.toList_append, List.head?_append, h]

/-- No synthetic value starts with a backslash: each is a call of `fake()` or `json_encode`. -/
theorem SyntheticStrategy.head_expression (s : SyntheticStrategy) :
    s.expression.toList.head? ≠ some '\\' := by
  -- the values with parameters start with a fixed call; the others are fixed texts
  have hfake : ∀ call rest : String, call.toList.head? = some 'f' →
      (call ++ rest).toList.head? ≠ some '\\' := fun call rest h => by
    rw [head?_toList_append h]
    simp
  cases s with
  | sentence n =>
    show ("fake()->sentence(" ++ toString n ++ ")").toList.head? ≠ _
    rw [String.append_assoc]
    exact hfake _ _ (by simp)
  | paragraphs n =>
    show ("fake()->paragraphs(" ++ toString n ++ ", true)").toList.head? ≠ _
    rw [String.append_assoc]
    exact hfake _ _ (by simp)
  | integerBetween lo hi =>
    show ("fake()->numberBetween(" ++ toString lo ++ ", " ++ toString hi ++ ")").toList.head? ≠ _
    simp only [String.append_assoc]
    exact hfake _ _ (by simp)
  | decimalBetween p lo hi =>
    show ("fake()->randomFloat(" ++ toString p ++ ", " ++ toString lo ++ ", " ++ toString hi ++
      ")").toList.head? ≠ _
    simp only [String.append_assoc]
    exact hfake _ _ (by simp)
  | choice vs =>
    show ("fake()->randomElement([" ++ quotedList vs ++ "])").toList.head? ≠ _
    rw [String.append_assoc]
    exact hfake _ _ (by simp)
  | _ => unfold SyntheticStrategy.expression; simp

theorem factoryValue_related_iff (ctx : RenderContext) (key : String) :
    (∃ cls, factoryValue ctx key =
        "\\" ++ ctx.config.rootNamespace ++ "\\Models\\" ++ cls ++ "::factory()") ↔
      ∃ rel ∈ ctx.request.relations, rel.kind = .belongsTo ∧ rel.effectiveForeignKey = key := by
  cases hown : ctx.request.keyOwner key with
  | some rel =>
    have hmem := List.mem_of_find?_eq_some hown
    have hkey := List.find?_some hown
    simp only [Relation.ownsKey, Bool.and_eq_true, beq_iff_eq] at hkey
    refine iff_of_true ⟨rel.modelClass, ?_⟩ ⟨rel, hmem, hkey⟩
    simp [factoryValue, hown, relatedFactory, RenderContext.relatedModelClass, String.append_assoc]
  | none =>
    have hnone := List.find?_eq_none.mp hown
    refine iff_of_false ?_ fun ⟨rel, hmem, hk, he⟩ => ?_
    · rintro ⟨cls, hcls⟩
      -- what is left is a synthetic value or nothing, neither of which starts with a backslash
      have hhead : (factoryValue ctx key).toList.head? ≠ some '\\' := by
        simp only [factoryValue, hown]
        split
        · exact SyntheticStrategy.head_expression _
        · simp
      simp [hcls] at hhead
    · simpa [Relation.ownsKey, hk, he] using hnone rel hmem

/-! ### The three artifacts -/

/-- The migration, the model and the factory of a request agree on its columns. Each lists
every column once and in the same order; the migration declares each, and constrains an added
key to the table of the first `belongsTo` relation through it; the factory fills a column with
a related model's factory exactly when a `belongsTo` relation goes through it, and then with
the factory of the first such relation. -/
structure ColumnsAgree (ctx : RenderContext) : Prop where
  nodup : ctx.request.columnNames.Nodup
  migration : ∃ rest, migrationColumns ctx = "\n".intercalate
      (ctx.request.columnNames.map (fun key => "            " ++ ctx.request.columnLine key) ++
        rest) ∧ ∀ l ∈ rest, l ∈ migrationMarkerLines
  declares : ∀ key ∈ ctx.request.columnNames, DeclaresColumn key (ctx.request.columnLine key)
  addedKey : ∀ p ∈ belongsToForeignKeys ctx.request.fields ctx.request.relations,
    ctx.request.keyOwner p.2 = some p.1 ∧ ctx.request.columnLine p.2 = foreignKeyLine p.1 p.2
  fillable : fillableColumns ctx.request = ctx.request.columnNames
  factory : factoryDefinitions ctx =
    ctx.request.columnNames.map fun key => singleQuoted key ++ " => " ++ factoryValue ctx key
  related : ∀ key, (∃ cls, factoryValue ctx key =
      "\\" ++ ctx.config.rootNamespace ++ "\\Models\\" ++ cls ++ "::factory()") ↔
    ∃ rel ∈ ctx.request.relations, rel.kind = .belongsTo ∧ rel.effectiveForeignKey = key
  firstOwner : ∀ key rel, ctx.request.keyOwner key = some rel →
    factoryValue ctx key = relatedFactory ctx rel

theorem ColumnsAgree.of_nodup {ctx : RenderContext} (h : (ctx.request.fields.map (·.name)).Nodup) :
    ColumnsAgree ctx where
  nodup := Request.nodup_columnNames h
  migration := migrationColumns_eq ctx h
  declares _ hk := ctx.request.declaresColumn_columnLine h hk
  addedKey _ hp := Request.columnLine_of_key hp
  fillable := rfl
  factory := factoryDefinitions_eq ctx h
  related := factoryValue_related_iff ctx
  firstOwner _ _ hown := by simp [factoryValue, hown]

/-- Whatever way a request gets its fields and relations from a builder, and under any
configuration, its migration, model and factory agree on its columns. -/
theorem columns_agree_across_artifacts {b : RequestBuilder} (hb : b.Built) {c : Config}
    {r : Request} (hr : b.build c = .ok r) (now : Moment)
    (stub : String → Except ScaffoldError String) :
    ColumnsAgree (RenderContext.make r c now stub) :=
  .of_nodup ((RequestBuilder.build_eq_ok hr).1 ▸ hb.nodup_names)

/-- A post with a repeated title and a declared author key, belonging to a user through that
key and to a category. -/
theorem post_columns_agree :
    ColumnsAgree (RenderContext.make
      { modelName := "Post", modelNamespace := "App\\Models", subNamespace := [],
        fields := parseFields "title:string,author_id:foreignId,title:text",
        relations := parseRelations "belongsTo:User:author_id,belongsTo:Category",
        forceOverwrite := false, apiOnly := false, switches := default }
      {} ⟨2024, 1, 15, 10, 30, 0⟩ (({} : Project).stub "resources/stubs/vendor/crudwright")) := by
  have hpath : parseModelPath "Post" = .ok ("Post", []) := by
    have h : (parseModelPath "Post").toOption = some ("Post", []) := by decide +kernel
    revert h
    cases parseModelPath "Post" <;> simp [Except.toOption]
  exact columns_agree_across_artifacts
    (((RequestBuilder.Built.new "Post").withFieldSpec
      "title:string,author_id:foreignId,title:text").withRelationSpec
      "belongsTo:User:author_id,belongsTo:Category")
    (by
      simp only [RequestBuilder.build, RequestBuilder.withFieldSpec, RequestBuilder.withRelationSpec,
        hpath]
      rfl) _ _

end CrudScaffold
