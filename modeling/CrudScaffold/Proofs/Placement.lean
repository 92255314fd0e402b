import Mathlib
import CrudScaffold.Proofs.SingleMigration
import CrudScaffold.Proofs.WriteOrder

/-! Where the files of two models go. Class files (model, factory, form requests, API
resource, controller) lie below their kind's directory through the model's sub-namespace, so
models in different namespaces keep them apart. The seeder, the views and the table migration
are named from the model's own name only: the seeder by its class name, the views by the view
folder, and the table migration, through the lookup of an earlier migration of its table, by
the table. `Post` and `Blog/Post` share all three.

`ArtifactKind.placedBy` names what each kind reads its place from. Two requests rendered under
one configuration share a file of a kind exactly when these names agree, and a run changes no
file outside the paths it reports.

Main statement: `files_shared_exactly_when_placed_alike`. -/

namespace CrudScaffold

open Naming

/-! ### A run changes only the files it reports -/

namespace Generator

theorem writeArtifact_file_eq {t t' : Project} {kind : ArtifactKind} {a : Artifact}
    {force : Bool} {f : GeneratedFile} (h : writeArtifact t kind a force = .ok (t', f))
    {q : List String} (hq : q ≠ pathComponents f.path) : t'.file? q = t.file? q := by
  obtain ⟨hpath, rfl | ⟨c, hw⟩⟩ := writeArtifact_eq_ok h
  · rfl
  · rw [(Project.write_eq_ok hw).2.file q, if_neg (hpath ▸ hq)]

end Generator

/-- A chain of writes changes no file but those it reports. -/
theorem HandledInOrder.file_eq {force : Bool} {t t' : Project}
    {ws : List (ArtifactKind × Artifact)} {fs : List GeneratedFile}
    (h : HandledInOrder force t ws fs t') {q : List String}
    (hq : q ∉ fs.map fun f => pathComponents f.path) : t'.file? q = t.file? q := by
  induction h with
  | nil => rfl
  | cons hw _ ih =>
    simp only [List.map_cons, List.mem_cons, not_or] at hq
    rw [ih hq.2, Generator.writeArtifact_file_eq hw hq.1]

namespace Generator

/-- The files a run reports are the writes it made, from the project it starts from to the
one it leaves. -/
theorem generate_handled {g : Generator} {t t' : Project} {r : Request} {rep : Report}
    (h : g.generate t r = .ok (t', rep)) :
    ∃ ws, HandledInOrder r.forceOverwrite t ws rep.files t' := by
  rw [generate_eq] at h
  obtain ⟨⟨s, outcomes⟩, hfold, hs⟩ := Except.map_eq_ok h
  obtain ⟨rfl, rfl⟩ := Prod.mk.inj hs
  obtain ⟨added, hres, -, -, hh⟩ := kindSteps_handled g r _ hfold
  simp only [List.nil_append] at hres
  subst hres
  exact hh

/-- A run changes no file outside the paths its report lists. -/
theorem generate_file_eq {g : Generator} {t t' : Project} {r : Request} {rep : Report}
    (h : g.generate t r = .ok (t', rep)) {q : List String}
    (hq : q ∉ rep.files.map fun f => pathComponents f.path) : t'.file? q = t.file? q := by
  obtain ⟨ws, hh⟩ := generate_handled h
  exact hh.file_eq hq

end Generator

/-! ### What each kind places its files by -/

/-- The names a kind places a request's files by, below the kind's configured directory: the
directories of the sub-namespace and the class name for class files (the controller by its
own class), the model's class name alone for the seeder, the view folder for the views, the
table for the table migration and the route file for routes. -/
def ArtifactKind.placedBy (r : Request) : ArtifactKind → List String
  | .model | .factory | .request | .resource =>
    r.subNamespace.flatMap pathComponents ++ [(NameSet.ofModel r.modelName).model]
  | .controller =>
    r.subNamespace.flatMap pathComponents ++ [(NameSet.ofModel r.modelName).controller]
  | .seeder => [(NameSet.ofModel r.modelName).model]
  | .views => pathComponents (NameSet.ofModel r.modelName).viewFolder
  | .migration => [(NameSet.ofModel r.modelName).table]
  | .routes => [if r.apiOnly then "api.php" else "web.php"]

/-- Two class files under one configuration share a path exactly when their sub-namespaces
and names do. -/
theorem namespacedFile_eq_iff {ctx₁ ctx₂ : RenderContext} (hc : ctx₁.config = ctx₂.config)
    (k : ArtifactKind) {x₁ x₂ : String} (hx₁ : IsWord x₁) (hx₂ : IsWord x₂) :
    pathComponents (joinPath (ctx₁.namespacedDir k) (x₁ ++ ".php")) =
        pathComponents (joinPath (ctx₂.namespacedDir k) (x₂ ++ ".php")) ↔
      ctx₁.request.subNamespace.flatMap pathComponents ++ [x₁] =
        ctx₂.request.subNamespace.flatMap pathComponents ++ [x₂] := by
  rw [pathComponents_joinPath_plain _ (PlainFileName.of_isWord hx₁).plain,
    pathComponents_joinPath_plain _ (PlainFileName.of_isWord hx₂).plain,
    pathComponents_namespacedDir, pathComponents_namespacedDir, hc]
  simp

theorem index_mem_renderViews {ctx : RenderContext} {as : List Artifact}
    (h : renderViews ctx = .ok as) :
    ∃ a ∈ as, a.path = joinPath (joinPath (ArtifactKind.views.directory ctx.config.paths)
      ctx.names.viewFolder) ("index" ++ ".blade.php") := by
  unfold renderViews at h
  simp only [List.mapM_cons] at h
  obtain ⟨index, hindex, h⟩ := bind_eq_ok.mp h
  obtain ⟨rest, -, h⟩ := bind_eq_ok.mp h
  cases h
  obtain ⟨content, -, hindex⟩ := bind_eq_ok.mp hindex
  cases hindex
  exact ⟨_, List.mem_cons_self, rfl⟩

theorem view_components {dir folder file : String}
    (h : file ∈ ["index", "create", "edit", "show", "_form"]) :
    pathComponents (joinPath (joinPath dir folder) (file ++ ".blade.php")) =
      pathComponents dir ++ pathComponents folder ++ [file ++ ".blade.php"] := by
  rw [pathComponents_joinPath_plain _ (plainFileName_view h).plain, pathComponents_joinPath]

theorem store_ne_update (x y : String) : "Store" ++ x ≠ "Update" ++ y := by
  intro h
  have := congrArg (·.toList.head?) h
  simp at this

section Shared

variable {ctx₁ ctx₂ : RenderContext} {as₁ as₂ : List Artifact}

theorem views_shared_iff (hc : ctx₁.config = ctx₂.config)
    (h₁ : renderViews ctx₁ = .ok as₁) (h₂ : renderViews ctx₂ = .ok as₂) :
    (∃ a₁ ∈ as₁, ∃ a₂ ∈ as₂, pathComponents a₁.path = pathComponents a₂.path) ↔
      pathComponents ctx₁.names.viewFolder = pathComponents ctx₂.names.viewFolder := by
  constructor
  · rintro ⟨a₁, ha₁, a₂, ha₂, heq⟩
    obtain ⟨-, file₁, hf₁, hp₁⟩ := renderViews_eq_ok h₁ a₁ ha₁
    obtain ⟨-, file₂, hf₂, hp₂⟩ := renderViews_eq_ok h₂ a₂ ha₂
    rw [hp₁, hp₂, view_components hf₁, view_components hf₂, hc] at heq
    simp only [List.append_assoc, List.append_cancel_left_eq] at heq
    exact (List.append_inj' heq rfl).1
  · intro hfolder
    obtain ⟨a₁, ha₁, hp₁⟩ := index_mem_renderViews h₁
    obtain ⟨a₂, ha₂, hp₂⟩ := index_mem_renderViews h₂
    refine ⟨a₁, ha₁, a₂, ha₂, ?_⟩
    rw [hp₁, hp₂, view_components (by simp), view_components (by simp), hc, hfolder]

theorem formRequests_shared_iff (hc : ctx₁.config = ctx₂.config)
    (hw₁ : IsWord ctx₁.names.model) (hw₂ : IsWord ctx₂.names.model)
    (h₁ : renderFormRequests ctx₁ = .ok as₁) (h₂ : renderFormRequests ctx₂ = .ok as₂) :
    (∃ a₁ ∈ as₁, ∃ a₂ ∈ as₂, pathComponents a₁.path = pathComponents a₂.path) ↔
      ctx₁.request.subNamespace.flatMap pathComponents ++ [ctx₁.names.model] =
        ctx₂.request.subNamespace.flatMap pathComponents ++ [ctx₂.names.model] := by
  obtain ⟨s₁, u₁, hs₁, hu₁, rfl⟩ := renderFormRequests_eq_ok h₁
  obtain ⟨s₂, u₂, hs₂, hu₂, rfl⟩ := renderFormRequests_eq_ok h₂
  obtain ⟨-, rfl⟩ := formRequest_eq_ok hs₁
  obtain ⟨-, rfl⟩ := formRequest_eq_ok hu₁
  obtain ⟨-, rfl⟩ := formRequest_eq_ok hs₂
  obtain ⟨-, rfl⟩ := formRequest_eq_ok hu₂
  -- the file names are the action, the class and `Request`, each a word
  have word : ∀ {w m : String}, IsWord w → IsWord m → IsWord (w ++ m ++ "Request") :=
    fun hw hm => (hw.append hm).append (by decide +kernel)
  have store : IsWord "Store" := by decide +kernel
  have update : IsWord "Update" := by decide +kernel
  simp only [List.mem_cons, List.not_mem_nil, or_false, exists_eq_or_imp, exists_eq_left,
    namespacedFile_eq_iff hc .request (word store hw₁) (word store hw₂),
    namespacedFile_eq_iff hc .request (word store hw₁) (word update hw₂),
    namespacedFile_eq_iff hc .request (word update hw₁) (word store hw₂),
    namespacedFile_eq_iff hc .request (word update hw₁) (word update hw₂)]
  simp [store_ne_update, (store_ne_update _ _).symm]

/-- Two requests rendered under one configuration share a file of a kind other than
migrations exactly when the kind places their files by the same names. -/
theorem ArtifactKind.shared_iff_placedBy {k : ArtifactKind} (hk : k ≠ .migration)
    (hc : ctx₁.config = ctx₂.config) (hn₁ : ctx₁.names = NameSet.ofModel ctx₁.request.modelName)
    (hn₂ : ctx₂.names = NameSet.ofModel ctx₂.request.modelName)
    (h₁ : k.render ctx₁ = .ok as₁) (h₂ : k.render ctx₂ = .ok as₂) :
    (∃ a₁ ∈ as₁, ∃ a₂ ∈ as₂, pathComponents a₁.path = pathComponents a₂.path) ↔
      k.placedBy ctx₁.request = k.placedBy ctx₂.request := by
  have hw₁ : ctx₁.names.WellWritten := hn₁ ▸ NameSet.wellWritten_ofModel _
  have hw₂ : ctx₂.names.WellWritten := hn₂ ▸ NameSet.wellWritten_ofModel _
  cases k with
  | migration => exact absurd rfl hk
  | model =>
    obtain ⟨_, rfl⟩ := renderModel_eq_ok h₁
    obtain ⟨_, rfl⟩ := renderModel_eq_ok h₂
    simp only [List.mem_singleton, exists_eq_left, ArtifactKind.placedBy, ← hn₁, ← hn₂]
    exact namespacedFile_eq_iff hc .model hw₁.model hw₂.model
  | factory =>
    obtain ⟨_, rfl⟩ := renderFactory_eq_ok h₁
    obtain ⟨_, rfl⟩ := renderFactory_eq_ok h₂
    have word : IsWord "Factory" := by decide +kernel
    simp only [List.mem_singleton, exists_eq_left, ArtifactKind.placedBy, ← hn₁, ← hn₂]
    rw [namespacedFile_eq_iff hc .factory (hw₁.model.append word) (hw₂.model.append word)]
    simp
  | seeder =>
    obtain ⟨_, rfl⟩ := renderSeeder_eq_ok h₁
    obtain ⟨_, rfl⟩ := renderSeeder_eq_ok h₂
    have word : IsWord "Seeder" := by decide +kernel
    simp only [List.mem_singleton, exists_eq_left, ArtifactKind.placedBy, ← hn₁, ← hn₂]
    rw [pathComponents_joinPath_plain _ (PlainFileName.of_isWord (hw₁.model.append word)).plain,
      pathComponents_joinPath_plain _ (PlainFileName.of_isWord (hw₂.model.append word)).plain, hc]
    simp
  | request =>
    simp only [ArtifactKind.placedBy, ← hn₁, ← hn₂]
    exact formRequests_shared_iff hc hw₁.model hw₂.model h₁ h₂
  | resource =>
    obtain ⟨_, rfl⟩ := renderResource_eq_ok h₁
    obtain ⟨_, rfl⟩ := renderResource_eq_ok h₂
    have word : IsWord "Resource" := by decide +kernel
    simp only [List.mem_singleton, exists_eq_left, ArtifactKind.placedBy, ← hn₁, ← hn₂]
    rw [namespacedFile_eq_iff hc .resource (hw₁.model.append word) (hw₂.model.append word)]
    simp
  | controller =>
    obtain ⟨_, rfl⟩ := renderController_eq_ok h₁
    obtain ⟨_, rfl⟩ := renderController_eq_ok h₂
    simp only [List.mem_singleton, exists_eq_left, ArtifactKind.placedBy, ← hn₁, ← hn₂]
    exact namespacedFile_eq_iff hc .controller hw₁.controller hw₂.controller
  | views =>
    simp only [ArtifactKind.placedBy, ← hn₁, ← hn₂]
    exact views_shared_iff hc h₁ h₂
  | routes =>
    obtain ⟨_, rfl⟩ := renderRoutes_eq_ok h₁
    obtain ⟨_, rfl⟩ := renderRoutes_eq_ok h₂
    have plain : ∀ b : Bool, PlainName (if b then "api.php" else "web.php") := by
      intro b
      cases b
      · exact (PlainFileName.of_isWord (x := "web") (by decide +kernel)).plain
      · exact (PlainFileName.of_isWord (x := "api") (by decide +kernel)).plain
    simp only [List.mem_singleton, exists_eq_left, ArtifactKind.placedBy]
    rw [pathComponents_joinPath_plain _ (plain _), pathComponents_joinPath_plain _ (plain _), hc]
    simp

end Shared

/-! ### The table migration -/

/-- The table migration, the first migration a request renders, is found by the lookup of
earlier migrations under its directory and the suffix naming its table. -/
theorem migrationKey_tableMigration {ctx : RenderContext} {a : Artifact} {rest : List Artifact}
    (h : renderMigrations ctx = .ok (a :: rest)) (hnow : ctx.now.PlainStamp)
    (ht : '/' ∉ ctx.names.table.toList) :
    migrationKey a.path = some (pathComponents (ArtifactKind.migration.directory ctx.config.paths),
      ("create_" ++ ctx.names.table ++ "_table.php").toList) := by
  unfold renderMigrations at h
  obtain ⟨content, -, h⟩ := bind_eq_ok.mp h
  obtain ⟨rest', -, h⟩ := bind_eq_ok.mp h
  cases h
  obtain ⟨hc, hs⟩ := migrationFile_components _ hnow ht
  exact migrationKey_of_stamped hc hs

/-- Under one configuration, at clocks whose stamps have four-digit years, two table
migrations are taken for one exactly when their tables agree. -/
theorem tableMigrations_key_eq_iff {r₁ r₂ : Request} {c : Config} {now₁ now₂ : Moment}
    {stub₁ stub₂ : String → Except ScaffoldError String} {a₁ a₂ : Artifact}
    {rest₁ rest₂ : List Artifact} (hnow₁ : now₁.PlainStamp) (hnow₂ : now₂.PlainStamp)
    (h₁ : renderMigrations (.make r₁ c now₁ stub₁) = .ok (a₁ :: rest₁))
    (h₂ : renderMigrations (.make r₂ c now₂ stub₂) = .ok (a₂ :: rest₂)) :
    migrationKey a₁.path = migrationKey a₂.path ↔
      ArtifactKind.migration.placedBy r₁ = ArtifactKind.migration.placedBy r₂ := by
  have table : ∀ r : Request, '/' ∉ (NameSet.ofModel r.modelName).table.toList := fun r =>
    (NameSet.wellWritten_ofModel r.modelName).table.not_mem (by decide) (by decide)
  rw [migrationKey_tableMigration h₁ hnow₁ (table r₁), migrationKey_tableMigration h₂ hnow₂ (table r₂)]
  simp only [Option.some.injEq, Prod.mk.injEq, String.toList_inj, ArtifactKind.placedBy,
    RenderContext.make, List.cons.injEq, and_true, true_and]
  simp

/-! ### Two models -/

/-- Under one configuration, two requests share a file of a kind other than migrations exactly
when the kind places their files by the same names, and at clocks whose stamps have four-digit
years their table migrations are taken for one exactly when their tables agree. Class files are
placed by the sub-namespace and the class, but the seeder only by the class, the views by the
view folder and the table migration by the table, all read from the last segment of the
model's path. A run changes no file outside the paths it reports, so the files another model's
run left are kept unless some kind places the two models alike. -/
theorem files_shared_exactly_when_placed_alike (r₁ r₂ : Request) (c : Config) :
    (∀ k : ArtifactKind, k ≠ .migration → ∀ now₁ now₂ stub₁ stub₂ (as₁ as₂ : List Artifact),
        k.render (.make r₁ c now₁ stub₁) = .ok as₁ → k.render (.make r₂ c now₂ stub₂) = .ok as₂ →
        ((∃ a₁ ∈ as₁, ∃ a₂ ∈ as₂, pathComponents a₁.path = pathComponents a₂.path) ↔
          k.placedBy r₁ = k.placedBy r₂)) ∧
      (∀ now₁ now₂ : Moment, now₁.PlainStamp → now₂.PlainStamp →
        ∀ stub₁ stub₂ (a₁ a₂ : Artifact) rest₁ rest₂,
        ArtifactKind.migration.render (.make r₁ c now₁ stub₁) = .ok (a₁ :: rest₁) →
        ArtifactKind.migration.render (.make r₂ c now₂ stub₂) = .ok (a₂ :: rest₂) →
        (migrationKey a₁.path = migrationKey a₂.path ↔
          ArtifactKind.migration.placedBy r₁ = ArtifactKind.migration.placedBy r₂)) ∧
      ∀ (now : Moment) (t t' : Project) (rep : Report),
        Generator.generate ⟨c, now⟩ t r₂ = .ok (t', rep) →
        ∀ q, q ∉ rep.files.map (fun f => pathComponents f.path) → t'.file? q = t.file? q :=
  ⟨fun _ hk _ _ _ _ _ _ h₁ h₂ => ArtifactKind.shared_iff_placedBy hk (by rfl) (by rfl) (by rfl)
    h₁ h₂,
    fun _ _ hnow₁ hnow₂ _ _ _ _ _ _ h₁ h₂ => tableMigrations_key_eq_iff hnow₁ hnow₂ h₁ h₂,
    fun _ _ _ _ h _ hq => Generator.generate_file_eq h hq⟩

/-- `Post` and `Blog/Post` are different classes, but a run for `Blog/Post` after one for
`Post` takes the migration of `posts` for its own and writes no migration. -/
theorem namespaced_post_skips_post_migration :
    ∃ r₁ r₂, (({ name := "Post" } : RequestBuilder).only [.migration]).build {} = .ok r₁ ∧
      (({ name := "Blog/Post" } : RequestBuilder).only [.migration]).build {} = .ok r₂ ∧
      r₁.modelClass ≠ r₂.modelClass ∧
      ∃ S₁ rep₁ S₂ rep₂, Generator.generate ⟨{}, ⟨2024, 1, 15, 10, 30, 0⟩⟩ {} r₁ = .ok (S₁, rep₁) ∧
        Generator.generate ⟨{}, ⟨2024, 1, 15, 10, 30, 0⟩⟩ S₁ r₂ = .ok (S₂, rep₂) ∧
        rep₁.files.map (·.path) = ["database/migrations/2024_01_15_103000_create_posts_table.php"] ∧
        rep₂.files.map (·.path) = rep₁.files.map (·.path) ∧
        rep₂.files.map (·.outcome) = [.skippedExisting] := by
  have hsum : ((({ name := "Post" } : RequestBuilder).only [.migration]).build {}).toOption.bind
      (fun r₁ => ((({ name := "Blog/Post" } : RequestBuilder).only [.migration]).build {}).toOption.bind
        fun r₂ => (Generator.generate ⟨{}, ⟨2024, 1, 15, 10, 30, 0⟩⟩ {} r₁).toOption.bind
          fun res₁ => (Generator.generate ⟨{}, ⟨2024, 1, 15, 10, 30, 0⟩⟩ res₁.1 r₂).toOption.map
            fun res₂ => (r₁.modelClass != r₂.modelClass, res₁.2.files.map (·.path),
              res₂.2.files.map (·.path), res₂.2.files.map (·.outcome))) =
      some (true, ["database/migrations/2024_01_15_103000_create_posts_table.php"],
        ["database/migrations/2024_01_15_103000_create_posts_table.php"], [.skippedExisting]) := by
    decide +kernel
  cases hb₁ : (({ name := "Post" } : RequestBuilder).only [.migration]).build {} with
  | error e => simp [hb₁, Except.toOption] at hsum
  | ok r₁ =>
  cases hb₂ : (({ name := "Blog/Post" } : RequestBuilder).only [.migration]).build {} with
  | error e => simp [hb₁, hb₂, Except.toOption] at hsum
  | ok r₂ =>
  cases hg₁ : Generator.generate ⟨{}, ⟨2024, 1, 15, 10, 30, 0⟩⟩ {} r₁ with
  | error e => simp [hb₁, hb₂, hg₁, Except.toOption] at hsum
  | ok res₁ =>
  cases hg₂ : Generator.generate ⟨{}, ⟨2024, 1, 15, 10, 30, 0⟩⟩ res₁.1 r₂ with
  | error e => simp [hb₁, hb₂, hg₁, hg₂, Except.toOption] at hsum
  | ok res₂ =>
  simp only [hb₁, hb₂, hg₁, hg₂, Except.toOption, Option.bind_some, Option.map_some,
    Option.some.injEq, Prod.mk.injEq, bne_iff_ne, ne_eq] at hsum
  obtain ⟨hclass, hp₁, hp₂, ho₂⟩ := hsum
  exact ⟨r₁, r₂, rfl, rfl, hclass, res₁.1, res₁.2, res₂.1, res₂.2, hg₁, hg₂, hp₁, hp₂.trans hp₁.symm,
    ho₂⟩

end CrudScaffold
