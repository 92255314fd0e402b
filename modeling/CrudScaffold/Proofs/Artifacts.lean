import CrudScaffold.Generator
import CrudScaffold.Proofs.NameChars
import CrudScaffold.Proofs.MigrationLookup
import Mathlib.Data.List.Forall2

/-! Where each kind of artifact goes. A kind other than migrations puts its files below its
configured directory, through directories named by the model's sub-namespace or view folder,
into a file whose name ends in `.php` and is no migration stamp; only route files are
appended to. None of this depends on the clock. -/

namespace CrudScaffold

open Naming Text

/-! ### Except -/

theorem bind_eq_ok {ε α β : Type} {x : Except ε α} {f : α → Except ε β} {b : β} :
    x >>= f = .ok b ↔ ∃ a, x = .ok a ∧ f a = .ok b := by
  cases x <;> simp [bind, Except.bind]

/-- Each result of a successful `mapM` is the result for some element. -/
theorem mapM_eq_ok {ε α β : Type} {f : α → Except ε β} :
    ∀ {l : List α} {bs : List β}, l.mapM f = .ok bs → ∀ b ∈ bs, ∃ a ∈ l, f a = .ok b
  | [], bs, h => by
    cases h
    simp
  | a :: rest, bs, h => by
    simp only [List.mapM_cons] at h
    obtain ⟨b, hb, htail⟩ := bind_eq_ok.mp h
    obtain ⟨bs', hbs, heq⟩ := bind_eq_ok.mp htail
    cases heq
    intro b' hb'
    rcases List.mem_cons.mp hb' with rfl | hb'
    · exact ⟨a, List.mem_cons_self, hb⟩
    · obtain ⟨a', ha', hf⟩ := mapM_eq_ok hbs b' hb'
      exact ⟨a', List.mem_cons_of_mem _ ha', hf⟩

/-! ### File names -/

/-- A name the migration lookup never takes: no stamp followed by anything. -/
def Unstamped (n : String) : Prop := ∀ suffix, stampedWith suffix n = false

theorem unstamped_of_not_mem {n : String} (h : '_' ∉ n.toList) : Unstamped n := by
  intro suffix
  cases hs : stampedWith suffix n
  · rfl
  · exact absurd (List.mem_of_getElem? (underscore_of_fitsShape (stampedWith_iff.mp hs).1)) h

theorem length_le_of_fitsShape :
    ∀ {ps : List (Option Char)} {cs : List Char}, fitsShape ps cs = true → ps.length ≤ cs.length
  | [], _, _ => Nat.zero_le _
  | _ :: _, [], h => by simp [fitsShape] at h
  | none :: ps, _ :: cs, h => by
    simp only [fitsShape] at h
    simpa using length_le_of_fitsShape h
  | some d :: ps, c :: cs, h => by
    simp only [fitsShape, Bool.and_eq_true] at h
    simpa using length_le_of_fitsShape h.2

theorem unstamped_of_length_lt {n : String} (h : n.toList.length < stampShape.length) :
    Unstamped n := by
  intro suffix
  cases hs : stampedWith suffix n
  · rfl
  · exact absurd (length_le_of_fitsShape (stampedWith_iff.mp hs).1) (Nat.not_le.mpr h)

/-- The name of a file a kind other than migrations writes: one component, ending in `.php`,
and no stamp. -/
structure PlainFileName (n : String) : Prop where
  plain : PlainName n
  unstamped : Unstamped n
  php : ∃ x, n = x ++ ".php"

theorem PlainFileName.of_isWord {x : String} (h : IsWord x) : PlainFileName (x ++ ".php") where
  plain := by
    refine ⟨fun he => ?_, fun he => ?_, ?_⟩
    · have := congrArg (·.toList.length) he
      simp at this
    · have := congrArg (·.toList.length) he
      simp at this
    · simp [(h.not_mem (by decide) : '/' ∉ x.toList)]
  unstamped := unstamped_of_not_mem (by simp [(h.not_mem (by decide) : '_' ∉ x.toList)])
  php := ⟨x, rfl⟩

/-- The components of a directory followed by the model's sub-namespace. -/
theorem pathComponents_namespacedDir (ctx : RenderContext) (k : ArtifactKind) :
    pathComponents (ctx.namespacedDir k) =
      pathComponents (k.directory ctx.config.paths) ++
        ctx.request.subNamespace.flatMap pathComponents :=
  pathComponents_foldl_joinPath _ _

section Kinds

variable {ctx : RenderContext} {as : List Artifact}

theorem renderModel_eq_ok (h : renderModel ctx = .ok as) :
    ∃ content, as = [{ path := joinPath (ctx.namespacedDir .model) (ctx.names.model ++ ".php")
                       content
                       description := "Model " ++ ctx.names.model }] := by
  obtain ⟨content, -, h⟩ := bind_eq_ok.mp h
  exact ⟨content, (Except.ok.inj h).symm⟩

theorem renderFactory_eq_ok (h : renderFactory ctx = .ok as) :
    ∃ content, as = [{ path := joinPath (ctx.namespacedDir .factory)
                         (ctx.names.model ++ "Factory" ++ ".php")
                       content
                       description := "Factory for " ++ ctx.names.model }] := by
  obtain ⟨content, -, h⟩ := bind_eq_ok.mp h
  exact ⟨content, (Except.ok.inj h).symm⟩

theorem renderSeeder_eq_ok (h : renderSeeder ctx = .ok as) :
    ∃ content, as = [{ path := joinPath (ArtifactKind.seeder.directory ctx.config.paths)
                         (ctx.names.model ++ "Seeder" ++ ".php")
                       content
                       description := "Seeder for " ++ ctx.names.model }] := by
  obtain ⟨content, -, h⟩ := bind_eq_ok.mp h
  exact ⟨content, (Except.ok.inj h).symm⟩

theorem formRequest_eq_ok {action : String} {isUpdate : Bool} {a : Artifact}
    (h : formRequest ctx action isUpdate = .ok a) :
    ∃ content, a = { path := joinPath (ctx.namespacedDir .request)
                       (action ++ ctx.names.model ++ "Request" ++ ".php")
                     content
                     description := action ++ " request for " ++ ctx.names.model } := by
  obtain ⟨content, -, h⟩ := bind_eq_ok.mp h
  exact ⟨content, (Except.ok.inj h).symm⟩

theorem renderFormRequests_eq_ok (h : renderFormRequests ctx = .ok as) :
    ∃ store update, formRequest ctx "Store" false = .ok store ∧
      formRequest ctx "Update" true = .ok update ∧ as = [store, update] := by
  obtain ⟨store, hs, h⟩ := bind_eq_ok.mp h
  obtain ⟨update, hu, h⟩ := bind_eq_ok.mp h
  exact ⟨store, update, hs, hu, (Except.ok.inj h).symm⟩

theorem renderResource_eq_ok (h : renderResource ctx = .ok as) :
    ∃ content, as = [{ path := joinPath (ctx.namespacedDir .resource)
                         (ctx.names.model ++ "Resource" ++ ".php")
                       content
                       description := "API resource for " ++ ctx.names.model }] := by
  obtain ⟨content, -, h⟩ := bind_eq_ok.mp h
  exact ⟨content, (Except.ok.inj h).symm⟩

theorem renderController_eq_ok (h : renderController ctx = .ok as) :
    ∃ content, as = [{ path := joinPath (ctx.namespacedDir .controller)
                         (ctx.names.controller ++ ".php")
                       content
                       description := (if ctx.request.apiOnly then "API controller"
                         else "Controller") ++ " for " ++ ctx.names.model }] := by
  unfold renderController at h
  obtain ⟨content, -, h⟩ := bind_eq_ok.mp h
  exact ⟨content, (Except.ok.inj h).symm⟩

/-- The five views, each in the view folder under the views directory. -/
theorem renderViews_eq_ok (h : renderViews ctx = .ok as) :
    ∀ a ∈ as, a.mode = .create ∧ ∃ file ∈ ["index", "create", "edit", "show", "_form"],
      a.path = joinPath (joinPath (ArtifactKind.views.directory ctx.config.paths)
        ctx.names.viewFolder) (file ++ ".blade.php") := by
  intro a ha
  obtain ⟨⟨stub, file, description⟩, hmem, hf⟩ := mapM_eq_ok h a ha
  obtain ⟨content, -, hf⟩ := bind_eq_ok.mp hf
  cases Except.ok.inj hf
  refine ⟨rfl, file, ?_, rfl⟩
  simp only [List.mem_cons, Prod.mk.injEq, List.not_mem_nil, or_false] at hmem
  rcases hmem with ⟨-, rfl, -⟩ | ⟨-, rfl, -⟩ | ⟨-, rfl, -⟩ | ⟨-, rfl, -⟩ | ⟨-, rfl, -⟩ <;> simp

/-- The route file of a request and what shows that the model is registered in it. -/
theorem renderRoutes_eq_ok (h : renderRoutes ctx = .ok as) :
    ∃ content, as = [{ path := joinPath (ArtifactKind.routes.directory ctx.config.paths)
                         (if ctx.request.apiOnly then "api.php" else "web.php")
                       content
                       description := (if ctx.request.apiOnly then "API" else "Web") ++
                         " routes for " ++ ctx.names.model
                       mode := .appendUnlessPresent
                         (routeMarker ctx.request.apiOnly ctx.names.routePrefix)
                         (some routeFilePreamble) }] := by
  unfold renderRoutes at h
  obtain ⟨content, -, h⟩ := bind_eq_ok.mp h
  refine ⟨content, (Except.ok.inj h).symm.trans ?_⟩
  cases ctx.request.apiOnly <;> rfl

end Kinds

/-! ### Migrations -/

/-- The clock's stamp and the stamps of the `n` seconds after it are plain: a migration render
with `n` pivot migrations stamps its files with them. -/
def Moment.StampsFit (t : Moment) : Nat → Prop
  | 0 => t.PlainStamp
  | n + 1 => t.PlainStamp ∧ ∃ m, t.next? = some m ∧ m.StampsFit n

theorem Moment.StampsFit.plainStamp {t : Moment} : ∀ {n : Nat}, t.StampsFit n → t.PlainStamp
  | 0, h => h
  | _ + 1, h => h.1

/-- A stamp is written with digits, underscores and a sign. -/
theorem slash_not_mem_stamp (m : Moment) : '/' ∉ m.stamp.toList := by
  have digits : ∀ n, '/' ∉ (toString n).toList := fun n h => by
    rw [Nat.toString_eq_repr, Nat.toList_repr] at h
    have := Nat.isDigit_of_mem_toDigits (by decide) (by decide) h
    exact absurd this (by decide)
  have padded : ∀ w n, '/' ∉ (Moment.padded w n).toList := fun w n h => by
    simp only [Moment.padded, String.toList_append, String.toList_ofList, List.mem_append,
      List.mem_replicate] at h
    rcases h with ⟨-, h⟩ | h
    · exact absurd h (by decide)
    · exact digits n h
  have sign : '/' ∉ (if m.year < 0 then "-" else "+").toList := by
    split <;> decide
  simp only [Moment.stamp, Moment.yearText, String.toList_append, List.mem_append]
  split <;> simp [padded, sign]

/-- A migration's file name, for a table without a slash, is one path component. -/
theorem plainName_migrationFileName (m : Moment) {table : String} (ht : '/' ∉ table.toList) :
    PlainName (migrationFileName m table) := by
  refine ⟨fun he => ?_, fun he => ?_, ?_⟩
  · have := congrArg (·.toList.length) he
    simp [migrationFileName] at this
  · have := congrArg (·.toList.length) he
    simp [migrationFileName] at this
    omega
  · simp [migrationFileName, ht, slash_not_mem_stamp]

/-- The file of a migration of a table with a plain stamp: one component, a stamp followed by
the table's part of the name. -/
theorem migrationFile_components (dir : String) {table : String} {m : Moment}
    (hm : m.PlainStamp) (ht : '/' ∉ table.toList) :
    pathComponents (joinPath dir (migrationFileName m table)) =
        pathComponents dir ++ [migrationFileName m table] ∧
      stampedWith ("create_" ++ table ++ "_table.php").toList (migrationFileName m table) = true := by
  have hname : migrationFileName m table = m.stamp ++ "_" ++ ("create_" ++ table ++ "_table.php") := by
    have : ("_create_" : String) = "_" ++ "create_" := by decide
    simp only [migrationFileName, this, String.append_assoc]
  refine ⟨pathComponents_joinPath_plain dir (plainName_migrationFileName m ht), ?_⟩
  rw [hname]
  exact Moment.stampedWith_stamp hm _

section Stamps

variable {ctx : RenderContext}

/-- A pivot migration is a whole file named by its stamp and its pivot table; only the name
depends on the stamp. -/
theorem pivotMigration_eq_ok {r : Relation} {m : Moment} {a : Artifact}
    (h : pivotMigration ctx r m = .ok a) :
    a.mode = .create ∧ a.path = joinPath (ArtifactKind.migration.directory ctx.config.paths)
        (migrationFileName m (pivotTableName ctx.names.model r.target)) ∧
      ∀ m', pivotMigration ctx r m' =
        .ok { a with
          path := joinPath (ArtifactKind.migration.directory ctx.config.paths)
            (migrationFileName m' (pivotTableName ctx.names.model r.target)) } := by
  unfold pivotMigration at h ⊢
  unfold pivotTableName
  rcases hp : pivotPair ctx.names.model r.target with ⟨first, second⟩
  rw [hp] at h
  obtain ⟨content, hc, h⟩ := bind_eq_ok.mp h
  cases Except.ok.inj h
  refine ⟨rfl, rfl, fun m' => ?_⟩
  simp only [hc]
  rfl

theorem slash_not_mem_pivotTableName (a b : String) : '/' ∉ (pivotTableName a b).toList := by
  obtain ⟨h1, h2⟩ := isWordsWith_pivotPair a b
  simp [pivotTableName, h1.not_mem (x := '/') (by decide) (by decide),
    h2.not_mem (x := '/') (by decide) (by decide)]

/-- Pivot migrations are whole files, each a migration of a pivot table under a stamp. -/
theorem pivotMigrations_files : ∀ {last : Moment} {rels : List Relation} {as : List Artifact},
    pivotMigrations ctx last rels = .ok as → ∀ a ∈ as, a.mode = .create ∧
      ∃ m table, '/' ∉ table.toList ∧
        a.path = joinPath (ArtifactKind.migration.directory ctx.config.paths) (migrationFileName m table)
  | _, [], as, h => by
    cases h
    simp
  | last, r :: rs, as, h => by
    unfold pivotMigrations at h
    cases hm : last.next? with
    | none => simp [hm] at h; cases h
    | some m =>
      simp only [hm, pure_bind] at h
      obtain ⟨a, ha, h⟩ := bind_eq_ok.mp h
      obtain ⟨rest, hrest, h⟩ := bind_eq_ok.mp h
      cases h
      intro b hb
      rcases List.mem_cons.mp hb with rfl | hb
      · obtain ⟨hmode, hpath, -⟩ := pivotMigration_eq_ok ha
        exact ⟨hmode, m, _, slash_not_mem_pivotTableName _ _, hpath⟩
      · exact pivotMigrations_files hrest b hb

/-- The migrations of a request are whole files, each a migration of a table under a stamp. -/
theorem renderMigrations_files {as : List Artifact} (h : renderMigrations ctx = .ok as)
    (ht : '/' ∉ ctx.names.table.toList) : ∀ a ∈ as, a.mode = .create ∧
      ∃ m table, '/' ∉ table.toList ∧
        a.path = joinPath (ArtifactKind.migration.directory ctx.config.paths) (migrationFileName m table) := by
  unfold renderMigrations at h
  obtain ⟨content, -, h⟩ := bind_eq_ok.mp h
  obtain ⟨rest, hrest, h⟩ := bind_eq_ok.mp h
  cases h
  intro a ha
  rcases List.mem_cons.mp ha with rfl | ha
  · exact ⟨rfl, ctx.now, ctx.names.table, ht, rfl⟩
  · exact pivotMigrations_files hrest a ha

end Stamps

/-! ### Where the other kinds put their files -/

/-- The file names of views: one component each, ending in `.php`, too short for a stamp. -/
theorem plainFileName_view {file : String} (h : file ∈ ["index", "create", "edit", "show", "_form"]) :
    PlainFileName (file ++ ".blade.php") := by
  have hphp : file ++ ".blade.php" = (file ++ ".blade") ++ ".php" := by
    rw [String.append_assoc]
    rfl
  simp only [List.mem_cons, List.not_mem_nil, or_false] at h
  refine ⟨?_, unstamped_of_length_lt ?_, _, hphp⟩ <;>
    rcases h with rfl | rfl | rfl | rfl | rfl <;> decide +kernel

end CrudScaffold
