import Mathlib
import CrudScaffold.Proofs.Rerun
import CrudScaffold.Proofs.RouteMarker

/-! The route files over any sequence of runs. A route file is written only by appending the
block of a request whose marker it lacks, so it holds the preamble and then one block per
route prefix, in the order the prefixes were first registered. No file of another kind, and
not the other route file, is ever written at its path: every other file the generator writes
is named `x.php` for an `x` other than `web` and `api`, and so is no stub either.

When the configuration and the requests' sub-namespaces hold no quote, the marker of a route
prefix stands only in the block of that prefix, once, and no marker reaches from one block
into the next: each marker occurs at most once in its file. -/

namespace CrudScaffold

open Naming Text

/-! ### The names of the files other kinds write -/

/-- A file name other kinds may write: `x.php` for an `x` that names no route file. -/
def OtherFileName (n : String) : Prop := ∃ x, n = x ++ ".php" ∧ x ≠ "web" ∧ x ≠ "api"

theorem otherFileName_of_length {x : String} (h : 4 ≤ x.length) : OtherFileName (x ++ ".php") :=
  ⟨x, rfl, fun he => by subst he; exact absurd h (by decide),
    fun he => by subst he; exact absurd h (by decide)⟩

theorem isLower_of_isNumeric {c : Char} (h : isNumeric c = true) : c.isLower = false := by
  by_cases hc : c.toNat < 128
  · exact ascii_of_forall_lt (p := fun c => isNumeric c = true → c.isLower = false) (by decide) hc h
  · exact isLower_of_not_ascii hc

/-- A name in Pascal case starts with a number or an uppercased letter, never with a lowercase
ASCII letter. -/
theorem isLower_head_joinedFrom {first seen : Bool} {last : Char} :
    ∀ {l : List Char}, ∀ c ∈ (joinedFrom ⟨true, false, false, false⟩ true first seen last l).head?,
      c.isLower = false
  | [] => by simp [joinedFrom]
  | c :: rest => by
    unfold joinedFrom
    split
    · -- a character between words leaves the next letter at the start of a word
      split <;> exact isLower_head_joinedFrom
    · split
      · rename_i hnum
        simp [isLower_of_isNumeric hnum]
      · simp [isLower_toUpper c]

theorem isLower_head_pascalCase (s : String) :
    ∀ c ∈ (pascalCase s).toList.head?, c.isLower = false := by
  simpa [pascalCase, joined] using
    @isLower_head_joinedFrom false false ' ' (trimTail s.toList)

/-- The model file of a request is never named like a route file. -/
theorem otherFileName_model (s : String) : OtherFileName (pascalCase s ++ ".php") := by
  have h := isLower_head_pascalCase s
  refine ⟨pascalCase s, rfl, fun he => ?_, fun he => ?_⟩
  · exact absurd (h 'w' (by simp [he])) (by decide)
  · exact absurd (h 'a' (by simp [he])) (by decide)

/-- A stamp writes at least two digits for each part after the year, with underscores. -/
theorem Moment.length_stamp (m : Moment) : 13 ≤ m.stamp.length := by
  have padded : ∀ n, 2 ≤ (Moment.padded 2 n).toList.length := fun n => by
    simp only [Moment.padded, String.toList_append, String.toList_ofList, List.length_append,
      List.length_replicate, String.length_toList]
    omega
  rw [← String.length_toList]
  simp only [Moment.stamp, String.toList_append, List.length_append]
  have := padded m.month
  have := padded m.day
  have := padded m.hour
  have := padded m.minute
  have := padded m.second
  simp
  omega

/-- A migration's name, its stamp followed by the table's part, and the part after the first
characters of it that the lookup compares. -/
theorem migrationFileName_split (m : Moment) (table : String) :
    ∃ y, migrationFileName m table = y ++ ".php" ∧ 14 ≤ y.length ∧
      (migrationFileName m table).toList.drop stampShape.length =
        ((m.stamp ++ "_create_").toList.drop stampShape.length ++ table.toList ++
          "_table".toList) ++ ".php".toList := by
  have hlen := Moment.length_stamp m
  rw [← String.length_toList] at hlen
  refine ⟨m.stamp ++ "_create_" ++ table ++ "_table", ?_, ?_, ?_⟩
  · simp only [migrationFileName, String.append_assoc]
    rfl
  · rw [← String.length_toList]
    simp
    omega
  · have hdrop : stampShape.length ≤ (m.stamp ++ "_create_").toList.length := by
      simp [stampShape]
      omega
    rw [show (migrationFileName m table).toList = (m.stamp ++ "_create_").toList ++
        (table.toList ++ "_table".toList ++ ".php".toList) by simp [migrationFileName],
      List.drop_append_of_le_length hdrop]
    simp

/-- Where a migration is written, under a new name or the name of the migration found in its
stead: a name that is no route file's. -/
theorem target_migration_name {t : Project} (hw : t.WellFormed) {a : Artifact}
    (hm : a.mode = .create) {dir table : String} {m : Moment} (ht : '/' ∉ table.toList)
    (hpath : a.path = joinPath dir (migrationFileName m table)) :
    ∃ d n, pathComponents (Generator.target t .migration a) = d ++ [n] ∧ OtherFileName n := by
  obtain ⟨y, hy, hylen, hdrop⟩ := migrationFileName_split m table
  rw [← String.length_toList] at hylen
  have hp : pathComponents a.path = pathComponents dir ++ [migrationFileName m table] := by
    rw [hpath, pathComponents_joinPath_plain _ (plainName_migrationFileName m ht)]
  rw [Generator.target_migration hm]
  cases hl : t.existingMigration a.path with
  | none =>
    refine ⟨_, _, by rw [Option.getD_none, hp], ?_⟩
    rw [hy]
    exact otherFileName_of_length (by rw [← String.length_toList]; omega)
  | some r =>
    -- the migration found is a stamp followed by the same part
    obtain ⟨dir', suffix, n, hkey, rfl, hn, -⟩ := existingMigration_eq_some hl
    have hlen : stampShape.length ≤ (migrationFileName m table).length := by
      rw [hy, ← String.length_toList]
      simp [stampShape]
      omega
    rw [migrationKey_of_length hp hlen, Option.some.injEq, Prod.mk.injEq] at hkey
    obtain ⟨rfl, rfl⟩ := hkey
    obtain ⟨x, rfl⟩ := php_of_stampedWith hn.2 (y := String.ofList
      ((m.stamp ++ "_create_").toList.drop stampShape.length) ++ table ++ "_table")
      (by rw [hdrop]; simp)
    refine ⟨_, _, by rw [Option.getD_some, pathComponents_intercalate (hw.plain _ hn.1)], ?_⟩
    have hshape := length_le_of_fitsShape (stampedWith_iff.mp hn.2).1
    simp [stampShape] at hshape
    exact otherFileName_of_length (by rw [← String.length_toList]; omega)

/-- Every kind but migrations and routes names its files after the model, by a word of its
own, or by a view. -/
theorem ArtifactKind.otherFileName {k : ArtifactKind} (hk : k ≠ .routes) (hm : k ≠ .migration)
    {ctx : RenderContext} (hnames : ctx.names = NameSet.ofModel ctx.request.modelName)
    {as : List Artifact} (h : k.render ctx = .ok as) :
    ∀ a ∈ as, ∃ d n, pathComponents a.path = d ++ [n] ∧ OtherFileName n := by
  have hw : ctx.names.WellWritten := hnames ▸ NameSet.wellWritten_ofModel _
  -- a word of at least four letters after the model's name
  have suffixed : ∀ (dir x y : String), IsWord x → IsWord y → 4 ≤ y.length →
      ∃ d n, pathComponents (joinPath dir (x ++ y ++ ".php")) = d ++ [n] ∧ OtherFileName n :=
    fun dir x y hx hy hlen => ⟨_, _,
      pathComponents_joinPath_plain _ (PlainFileName.of_isWord (hx.append hy)).plain,
      otherFileName_of_length (by rw [String.length_append]; omega)⟩
  intro a ha
  cases k with
  | migration => exact absurd rfl hm
  | routes => exact absurd rfl hk
  | model =>
    obtain ⟨content, rfl⟩ := renderModel_eq_ok h
    rw [List.mem_singleton.mp ha]
    refine ⟨_, _, pathComponents_joinPath_plain _ (PlainFileName.of_isWord hw.model).plain, ?_⟩
    rw [hnames]
    exact otherFileName_model _
  | factory =>
    obtain ⟨content, rfl⟩ := renderFactory_eq_ok h
    rw [List.mem_singleton.mp ha]
    exact suffixed _ _ _ hw.model (by decide) (by decide)
  | seeder =>
    obtain ⟨content, rfl⟩ := renderSeeder_eq_ok h
    rw [List.mem_singleton.mp ha]
    exact suffixed _ _ _ hw.model (by decide) (by decide)
  | request =>
    obtain ⟨store, update, hs, hu, rfl⟩ := renderFormRequests_eq_ok h
    simp only [List.mem_cons, List.not_mem_nil, or_false] at ha
    rcases ha with rfl | rfl
    · obtain ⟨content, rfl⟩ := formRequest_eq_ok hs
      exact suffixed _ _ _ ((by decide : IsWord "Store").append hw.model) (by decide) (by decide)
    · obtain ⟨content, rfl⟩ := formRequest_eq_ok hu
      exact suffixed _ _ _ ((by decide : IsWord "Update").append hw.model) (by decide) (by decide)
  | resource =>
    obtain ⟨content, rfl⟩ := renderResource_eq_ok h
    rw [List.mem_singleton.mp ha]
    exact suffixed _ _ _ hw.model (by decide) (by decide)
  | controller =>
    obtain ⟨content, rfl⟩ := renderController_eq_ok h
    rw [List.mem_singleton.mp ha, hnames]
    exact suffixed _ _ _ (isWord_pascalCase _) (by decide) (by decide)
  | views =>
    obtain ⟨-, file, hfile, hpath⟩ := renderViews_eq_ok h a ha
    have hname := plainFileName_view hfile
    refine ⟨_, _, by rw [hpath, pathComponents_joinPath_plain _ hname.plain], ?_⟩
    rw [show file ++ ".blade.php" = file ++ ".blade" ++ ".php" by rw [String.append_assoc]; rfl]
    have hblade : 6 ≤ ".blade".length := by decide
    exact otherFileName_of_length (by rw [String.length_append]; omega)

/-- Every file a kind other than routes makes the generator write, the migration found in a
new one's stead included, has a name that is no route file's. -/
theorem target_otherFileName {ctx : RenderContext}
    (hnames : ctx.names = NameSet.ofModel ctx.request.modelName) {kind : ArtifactKind}
    (hk : kind ≠ .routes) {as : List Artifact} (hr : kind.render ctx = .ok as) {a : Artifact}
    (ha : a ∈ as) {t : Project} (hw : t.WellFormed) :
    ∃ d n, pathComponents (Generator.target t kind a) = d ++ [n] ∧ OtherFileName n := by
  by_cases hm : kind = .migration
  · subst hm
    have ht : '/' ∉ ctx.names.table.toList :=
      (hnames ▸ NameSet.wellWritten_ofModel _ : ctx.names.WellWritten).table.not_mem
        (by decide) (by decide)
    obtain ⟨hmode, m, table, htable, hpath⟩ := renderMigrations_files hr ht a ha
    exact target_migration_name hw hmode htable hpath
  · rw [Generator.target_of_ne hm]
    exact ArtifactKind.otherFileName hk hm hnames hr a ha

/-! ### The route files, and what writes do to them -/

/-- The name of the route file of web, or of API, requests. -/
def routeFileName (api : Bool) : String := if api then "api.php" else "web.php"

/-- The path of the route file of web, or of API, requests. -/
def routeFilePath (c : Config) (api : Bool) : List String :=
  pathComponents (ArtifactKind.routes.directory c.paths) ++ [routeFileName api]

theorem pathComponents_routeFile (c : Config) (api : Bool) :
    pathComponents (joinPath (ArtifactKind.routes.directory c.paths)
      (if api then "api.php" else "web.php")) = routeFilePath c api :=
  pathComponents_joinPath_plain _ (by cases api <;> decide)

theorem routeFileName_eq_php (api : Bool) :
    routeFileName api = (if api then "api" else "web") ++ ".php" := by
  cases api <;> decide

theorem routeFileName_injective {api api' : Bool} (h : routeFileName api = routeFileName api') :
    api = api' := by
  cases api <;> cases api' <;> first | rfl | exact absurd h (by decide)

theorem OtherFileName.ne_routeFileName {n : String} (h : OtherFileName n) (api : Bool) :
    n ≠ routeFileName api := by
  obtain ⟨x, rfl, hweb, hapi⟩ := h
  intro he
  rw [routeFileName_eq_php] at he
  have hx := String.toList_injective
    (List.append_cancel_right (by simpa only [String.toList_append] using congrArg String.toList he))
  cases api
  · exact hweb hx
  · exact hapi hx

/-- A write at a path of another last component leaves the file at `q ++ [z]` as it was. -/
theorem Project.file?_of_write_last {t t' : Project} {path content : String}
    (h : t.write path content = .ok t') {d : List String} {y : String}
    (hp : pathComponents path = d ++ [y]) (q : List String) {z : String} (hyz : y ≠ z) :
    t'.file? (q ++ [z]) = t.file? (q ++ [z]) := by
  rw [(Project.write_eq_ok h).2.file, hp, if_neg]
  intro he
  exact hyz (List.singleton_inj.mp (List.append_inj' he rfl).2).symm

/-- The route stubs a project renders with are the bundled ones. -/
def Project.BundledRouteStubs (t : Project) (stubs : String) : Prop :=
  ∀ api, t.stub stubs (routeStubName api) =
    .ok (if api then Stub.apiRoutesStub else Stub.webRoutesStub)

/-- The route artifact of a request rendered with the bundled stub, once written: the file held
the marker and nothing changed, or the block was appended to what the file held (the preamble,
for a missing file). -/
theorem writeArtifact_routes {ctx : RenderContext}
    (hstub : ctx.stub (routeStubName ctx.request.apiOnly) =
      .ok (if ctx.request.apiOnly then Stub.apiRoutesStub else Stub.webRoutesStub))
    {as : List Artifact} (hr : ArtifactKind.routes.render ctx = .ok as) {a : Artifact}
    (ha : a ∈ as) {t t' : Project} {force : Bool} {f : GeneratedFile}
    (h : Generator.writeArtifact t .routes a force = .ok (t', f)) :
    (Text.contains (t.appendBase (joinPath (ArtifactKind.routes.directory ctx.config.paths)
        (if ctx.request.apiOnly then "api.php" else "web.php")) (some routeFilePreamble))
        (routeMarker ctx.request.apiOnly ctx.names.routePrefix) = true ∧ t' = t) ∨
      (Text.contains (t.appendBase (joinPath (ArtifactKind.routes.directory ctx.config.paths)
        (if ctx.request.apiOnly then "api.php" else "web.php")) (some routeFilePreamble))
        (routeMarker ctx.request.apiOnly ctx.names.routePrefix) = false ∧
        t.write (joinPath (ArtifactKind.routes.directory ctx.config.paths)
          (if ctx.request.apiOnly then "api.php" else "web.php"))
          (t.appendBase (joinPath (ArtifactKind.routes.directory ctx.config.paths)
            (if ctx.request.apiOnly then "api.php" else "web.php")) (some routeFilePreamble) ++
            ctx.routeBlock) = .ok t') := by
  change renderRoutes ctx = _ at hr
  rw [renderRoutes_bundled hstub] at hr
  cases Except.ok.inj hr
  rw [List.mem_singleton.mp ha] at h
  unfold Generator.writeArtifact at h
  dsimp only at h
  split at h
  · cases h
  · rename_i s o happ
    obtain ⟨rfl, -⟩ := Prod.mk.inj (Except.ok.inj h)
    rcases (Project.appendUnlessPresent_eq_ok happ).2 with ⟨hc, rfl, -⟩ | ⟨hc, hw, -⟩
    · exact .inl ⟨hc, rfl⟩
    · exact .inr ⟨hc, hw⟩

/-! ### The blocks of a route file -/

/-- The blocks a route file may hold: rendered under `c` for a request of the file's kind,
with the names of the request's model and a sub-namespace that holds no quote. -/
structure RenderContext.Registers (c : Config) (api : Bool) (ctx : RenderContext) : Prop where
  config : ctx.config = c
  apiOnly : ctx.request.apiOnly = api
  names : ctx.names = NameSet.ofModel ctx.request.modelName
  subNamespace : ∀ s ∈ ctx.request.subNamespace, '\'' ∉ s.toList

/-- The route file of web, or of API, requests holds the blocks of `regs`: it is absent while
there are none, else it is the preamble followed by the blocks in order, and no route prefix
has two blocks. -/
structure RouteFileOf (c : Config) (api : Bool) (t : Project) (regs : List RenderContext) :
    Prop where
  file : t.file? (routeFilePath c api) =
    if regs = [] then none else some (routeFilePreamble ++ String.join (regs.map (·.routeBlock)))
  nodup : (regs.map (·.names.routePrefix)).Nodup
  registers : ∀ ctx ∈ regs, ctx.Registers c api

section RouteFile

variable {c : Config} {api : Bool} {t t' : Project} {regs : List RenderContext}

theorem RouteFileOf.nil (h : t.file? (routeFilePath c api) = none) : RouteFileOf c api t [] :=
  ⟨by simpa using h, List.nodup_nil, fun _ h => absurd h List.not_mem_nil⟩

theorem RouteFileOf.of_file_eq (h : RouteFileOf c api t regs)
    (he : t'.file? (routeFilePath c api) = t.file? (routeFilePath c api)) :
    RouteFileOf c api t' regs :=
  { h with file := he.trans h.file }

/-- What an append to the route file reads: the preamble and the blocks. -/
theorem RouteFileOf.appendBase (h : RouteFileOf c api t regs) {path : String}
    (hp : pathComponents path = routeFilePath c api) :
    t.appendBase path (some routeFilePreamble) =
      routeFilePreamble ++ String.join (regs.map (·.routeBlock)) := by
  rw [Project.appendBase, hp, h.file]
  split
  · subst regs
    simp
  · rfl

/-- The route file holds the marker of every prefix it registers. -/
theorem RouteFileOf.contains_of_mem (h : RouteFileOf c api t regs) {path : String}
    (hp : pathComponents path = routeFilePath c api) {ctx : RenderContext} (hctx : ctx ∈ regs) :
    Text.contains (t.appendBase path (some routeFilePreamble))
      (routeMarker api ctx.names.routePrefix) = true := by
  rw [h.appendBase hp, Text.contains_iff, ← (h.registers ctx hctx).apiOnly]
  have hin := RenderContext.routeMarker_infix ctx
  refine hin.trans ?_
  obtain ⟨l₁, l₂, rfl⟩ := List.append_of_mem hctx
  exact ⟨(routeFilePreamble ++ String.join (l₁.map (·.routeBlock))).toList,
    (String.join (l₂.map (·.routeBlock))).toList, by simp [String.join_append]⟩

/-- Appending the block of a prefix whose marker the file lacks registers it after the
others. -/
theorem RouteFileOf.append (h : RouteFileOf c api t regs) {ctx : RenderContext}
    (hreg : ctx.Registers c api) {path : String} (hp : pathComponents path = routeFilePath c api)
    (hc : Text.contains (t.appendBase path (some routeFilePreamble))
      (routeMarker api ctx.names.routePrefix) = false)
    (hw : t.write path (t.appendBase path (some routeFilePreamble) ++ ctx.routeBlock) = .ok t') :
    RouteFileOf c api t' (regs ++ [ctx]) where
  file := by
    rw [(Project.write_eq_ok hw).2.file, hp, if_pos rfl, h.appendBase hp,
      if_neg (List.append_ne_nil_of_right_ne_nil regs (List.cons_ne_nil ctx []))]
    simp [String.join_append, String.append_assoc]
  nodup := by
    rw [List.map_append, List.map_singleton, List.nodup_append]
    refine ⟨h.nodup, List.nodup_singleton _, ?_⟩
    -- a registered prefix would have put its marker in the file
    intro x hx y hy he
    obtain ⟨reg, hmem, rfl⟩ := List.mem_map.mp hx
    rw [List.mem_singleton.mp hy] at he
    rw [← he, h.contains_of_mem hp hmem] at hc
    cases hc
  registers := List.forall_mem_append.mpr ⟨h.registers, by simpa using hreg⟩

/-- The block of a route file opens with a blank line. -/
theorem RenderContext.head_routeBlock (ctx : RenderContext) :
    ctx.routeBlock.toList.head? = some '\n' := by
  unfold RenderContext.routeBlock CrudScaffold.routeBlock
  dsimp only
  split <;> simp

/-- Each marker of a route prefix occurs at most once in a route file: it stands in the block
of its prefix only, at one place. -/
theorem RouteFileOf.markedAt_unique (hc : c.QuoteFree) (h : RouteFileOf c api t regs)
    {text : String} (htext : t.file? (routeFilePath c api) = some text) {p : List Char}
    (hp : PrefixChars p) {pre pre' : List Char}
    (h₁ : MarkedAt (resourceCall api) p text.toList pre)
    (h₂ : MarkedAt (resourceCall api) p text.toList pre') : pre = pre' := by
  have hlist : text.toList = routeFilePreamble.toList ++
      (regs.map fun ctx => ctx.routeBlock.toList).flatten := by
    rw [h.file] at htext
    split at htext
    · cases htext
    · rw [← Option.some.inj htext]
      simp [String.toList_join, List.flatMap]
      rfl
  have hcall : '\n' ∉ resourceCall api := by cases api <;> decide
  have hpn : '\n' ∉ p := fun hn => by rcases hp _ hn with h | h <;> revert h <;> decide
  -- every marker stands in one block, as the preamble holds no quote
  have locate : ∀ {q}, MarkedAt (resourceCall api) p text.toList q →
      ∃ before ctx after q', regs = before ++ ctx :: after ∧
        q = routeFilePreamble.toList ++ (before.map fun ctx => ctx.routeBlock.toList).flatten ++ q' ∧
        MarkedAt (resourceCall api) p ctx.routeBlock.toList q' := by
    intro q hq
    rw [hlist] at hq
    rcases markedAt_flatten hcall hpn (fun ctx _ => ctx.head_routeBlock) hq with
      ⟨u, hu⟩ | hq
    · have : '\'' ∈ routeFilePreamble.toList := hu ▸ by simp
      exact absurd this (by decide)
    · exact hq
  obtain ⟨before, ctx, after, q, hregs, rfl, hq⟩ := locate h₁
  obtain ⟨before', ctx', after', q', hregs', rfl, hq'⟩ := locate h₂
  have hreg := h.registers ctx (by simp [hregs])
  have hreg' := h.registers ctx' (by simp [hregs'])
  -- in the block of `ctx`, the marker is that of its prefix, at one place
  have hblock : ∀ {ctx : RenderContext}, ctx.Registers c api → ∃ front,
      ∀ {q}, MarkedAt (resourceCall api) p ctx.routeBlock.toList q →
        p = ctx.names.routePrefix.toList ∧ q ++ resourceCall api = front := by
    intro ctx hreg
    obtain ⟨front, hfront⟩ := ctx.markedAt_routeBlock (hreg.config ▸ hc)
      (hreg.names ▸ NameSet.wellWritten_ofModel _) hreg.subNamespace
    rw [hreg.apiOnly] at hfront
    exact ⟨front, fun hq => hfront hp hq⟩
  obtain ⟨front, hfront⟩ := hblock hreg
  obtain ⟨front', hfront'⟩ := hblock hreg'
  have hsame : ctx.names.routePrefix = ctx'.names.routePrefix :=
    String.toList_injective ((hfront hq).1.symm.trans (hfront' hq').1)
  -- both blocks carry the same prefix, so they are the same block
  have hbefore : before = before' := by
    have hn := h.nodup
    rw [hregs] at hn
    exact eq_of_nodup_map hn (hregs.symm.trans hregs') hsame
  subst hbefore
  obtain ⟨rfl, -⟩ := List.cons.inj (List.append_cancel_left (hregs.symm.trans hregs'))
  rw [List.append_cancel_right ((hfront hq).2.trans (hfront hq').2.symm)]

end RouteFile

/-! ### Runs and the route files -/

/-- The contexts a run renders in under `c`, for a request `Q` allows whose sub-namespace holds
no quote, on a project with the bundled route stubs. -/
structure RendersRoutes (c : Config) (Q : Request → Prop) (ctx : RenderContext) : Prop where
  config : ctx.config = c
  names : ctx.names = NameSet.ofModel ctx.request.modelName
  stubs : ∀ api, ctx.stub (routeStubName api) =
    .ok (if api then Stub.apiRoutesStub else Stub.webRoutesStub)
  request : Q ctx.request
  subNamespace : ∀ s ∈ ctx.request.subNamespace, '\'' ∉ s.toList

/-- What runs of requests `Q` allows keep of a project: it is well formed, renders routes with
the bundled stubs, and its route file holds the blocks of `regs` followed by blocks of such
requests. -/
def RoutesFrom (c : Config) (api : Bool) (Q : Request → Prop) (regs : List RenderContext)
    (t : Project) : Prop :=
  t.WellFormed ∧ t.BundledRouteStubs c.stubsPath ∧
    ∃ more, RouteFileOf c api t (regs ++ more) ∧ ∀ ctx ∈ more, Q ctx.request

/-- Every write keeps the route file to blocks appended after those it holds: the route
artifact appends its block or leaves the file, any other artifact is written elsewhere. -/
theorem keptByWrites_routesFrom (c : Config) (api : Bool) (Q : Request → Prop)
    (regs : List RenderContext) : KeptByWrites (RendersRoutes c Q) (RoutesFrom c api Q regs) := by
  intro ctx kind as a t t' f force hg hr ha ⟨hw, hs, more, hfile, hmore⟩ hwrite
  by_cases hk : kind = .routes
  · subst hk
    rcases writeArtifact_routes (hg.stubs _) hr ha hwrite with ⟨-, rfl⟩ | ⟨hc, hwr⟩
    · exact ⟨hw, hs, more, hfile, hmore⟩
    have hpath := pathComponents_routeFile c ctx.request.apiOnly
    rw [← hg.config] at hpath
    have hstub : t'.stub c.stubsPath = t.stub c.stubsPath :=
      Project.stub_of_write_php hwr (hpath.trans (by rw [routeFilePath, routeFileName_eq_php])) _
    refine ⟨hw.write hwr, fun api' => hstub ▸ hs api', ?_⟩
    by_cases hapi : ctx.request.apiOnly = api
    · -- the block is appended to this route file
      subst hapi
      refine ⟨more ++ [ctx], ?_, ?_⟩
      · rw [← List.append_assoc]
        exact hfile.append ⟨hg.config, rfl, hg.names, hg.subNamespace⟩
          (hpath.trans (by rw [hg.config])) hc hwr
      · exact List.forall_mem_append.mpr ⟨hmore, by simpa using hg.request⟩
    · -- the other route file is written
      refine ⟨more, hfile.of_file_eq ?_, hmore⟩
      exact Project.file?_of_write_last hwr (hpath.trans (by rw [hg.config]; rfl)) _
        (fun he => hapi (routeFileName_injective he))
  · obtain ⟨-, rfl | ⟨content, hc⟩⟩ := Generator.writeArtifact_eq_ok hwrite
    · exact ⟨hw, hs, more, hfile, hmore⟩
    obtain ⟨d, n, hp, hn⟩ := target_otherFileName hg.names hk hr ha hw
    obtain ⟨x, rfl, -⟩ := id hn
    have hstub := Project.stub_of_write_php hc hp c.stubsPath
    exact ⟨hw.write hc, fun api' => hstub ▸ hs api', more,
      hfile.of_file_eq (Project.file?_of_write_last hc hp _ (hn.ne_routeFileName api)), hmore⟩

/-- Runs of requests `Q` allows, whose sub-namespaces hold no quote, only append blocks of such
requests to a route file. -/
theorem RoutesFrom.runAll {c : Config} {api : Bool} {Q : Request → Prop}
    {regs : List RenderContext} (runs : List GenerationRun)
    (hruns : ∀ run ∈ runs, Q run.request ∧ ∀ s ∈ run.request.subNamespace, '\'' ∉ s.toList)
    {t : Project} (h : RoutesFrom c api Q regs t) :
    RoutesFrom c api Q regs (GenerationRun.runAll c t runs) :=
  (keptByWrites_routesFrom c api Q regs).runAll_of
    (Q := fun r => Q r ∧ ∀ s ∈ r.subNamespace, '\'' ∉ s.toList)
    (fun _ _ _ hr hs => ⟨rfl, rfl, hs.2.1, hr.1, hr.2⟩) runs hruns h

/-! ### A prefix registered already -/

/-- Runs of one request whose prefix a route file registers add no block to it. -/
theorem RoutesFrom.registered {c : Config} {api : Bool} {r : Request} {regs : List RenderContext}
    {t : Project} (h : RoutesFrom c api (· = r) regs t)
    (hreg : (NameSet.ofModel r.modelName).routePrefix ∈ regs.map (·.names.routePrefix)) :
    RouteFileOf c api t regs := by
  obtain ⟨-, -, more, hfile, hmore⟩ := h
  cases more with
  | nil => simpa using hfile
  | cons m more =>
    -- a further block of the request would repeat the registered prefix
    have hm : m.names.routePrefix = (NameSet.ofModel r.modelName).routePrefix := by
      rw [(hfile.registers m (by simp)).names, hmore m List.mem_cons_self]
    have hn := hfile.nodup
    rw [List.map_append, List.nodup_append] at hn
    exact absurd hm.symm (hn.2.2 _ hreg _ (List.mem_map_of_mem List.mem_cons_self))

/-- A fragment whose file reads and holds its marker is found already present, and nothing is
written. -/
theorem writeArtifact_of_present {t : Project} {kind : ArtifactKind} {a : Artifact}
    {marker : String} {preamble : Option String} (hm : a.mode = .appendUnlessPresent marker preamble)
    {current : Option String} (hread : t.read? a.path = .ok current)
    (hc : Text.contains (t.appendBase a.path preamble) marker = true) (force : Bool) :
    Generator.writeArtifact t kind a force = .ok (t, ⟨a.path, .alreadyPresent, a.description⟩) := by
  have hbase : current.getD (preamble.getD "") = t.appendBase a.path preamble := by
    rw [Project.read?_eq_ok hread, Project.appendBase]
  simp only [Generator.writeArtifact, hm, Project.appendUnlessPresent, hread, hbase, hc, if_true]

/-- The route kind of a request whose prefix the route file of its kind registers finds it
there: nothing is written and the file is reported already registered. -/
theorem runKind_routes_registered {c : Config} {now : Moment} {T : Project} {r : Request}
    {regs : List RenderContext} (hs : T.BundledRouteStubs c.stubsPath)
    (hfile : RouteFileOf c r.apiOnly T regs)
    (hreg : (NameSet.ofModel r.modelName).routePrefix ∈ regs.map (·.names.routePrefix)) :
    ∃ f, Generator.runKind ⟨c, now⟩ T .routes r = .ok (T, .succeeded [f]) ∧
      f.outcome = .alreadyPresent := by
  obtain ⟨reg, hmem, hpfx⟩ := List.mem_map.mp hreg
  let ra : Artifact :=
    { path := joinPath (ArtifactKind.routes.directory c.paths)
        (if r.apiOnly then "api.php" else "web.php")
      content := (Generator.context ⟨c, now⟩ T r).routeBlock
      description := (if r.apiOnly then "API" else "Web") ++ " routes for " ++
        (NameSet.ofModel r.modelName).model
      mode := .appendUnlessPresent (routeMarker r.apiOnly (NameSet.ofModel r.modelName).routePrefix)
        (some routeFilePreamble) }
  have hrender : ArtifactKind.routes.render (Generator.context ⟨c, now⟩ T r) = .ok [ra] :=
    renderRoutes_bundled (hs _)
  have hpath := pathComponents_routeFile c r.apiOnly
  -- the file is there, as it registers a prefix
  have hread : ∃ text, T.file? (routeFilePath c r.apiOnly) = some text := by
    rw [hfile.file, if_neg (List.ne_nil_of_mem hmem)]
    exact ⟨_, rfl⟩
  obtain ⟨text, htext⟩ := hread
  have hc := hfile.contains_of_mem hpath hmem
  rw [hpfx] at hc
  have hread' : T.read? ra.path = .ok (some text) := by
    simp only [ra, Project.read?, hpath, htext]
  have hwrite := @writeArtifact_of_present T .routes ra _ _ rfl _ hread' hc r.forceOverwrite
  refine ⟨⟨ra.path, .alreadyPresent, ra.description⟩, ?_, rfl⟩
  rw [Generator.runKind_of_render hrender]
  unfold Generator.writeArtifacts
  rw [hwrite]
  rfl

/-- Generating a request whose prefix the route file of its kind registers leaves the file as
it is, and the route kind reports the file already registered. -/
theorem generate_registered {c : Config} {now : Moment} {T T' : Project} {r : Request}
    {rep : Report} {regs : List RenderContext} (hw : T.WellFormed)
    (hs : T.BundledRouteStubs c.stubsPath) (hfile : RouteFileOf c r.apiOnly T regs)
    (hsub : ∀ s ∈ r.subNamespace, '\'' ∉ s.toList)
    (hreg : (NameSet.ofModel r.modelName).routePrefix ∈ regs.map (·.names.routePrefix))
    (h : Generator.generate ⟨c, now⟩ T r = .ok (T', rep)) :
    T'.file? (routeFilePath c r.apiOnly) = T.file? (routeFilePath c r.apiOnly) ∧
      (r.shouldGenerate c .routes = true →
        ∃ f, (ArtifactKind.routes, KindOutcome.succeeded [f]) ∈ rep.outcomes ∧
          f.outcome = .alreadyPresent) := by
  have hk := keptByWrites_routesFrom c r.apiOnly (· = r) regs
  have hP : RoutesFrom c r.apiOnly (· = r) regs T := ⟨hw, hs, [], by simpa using hfile, by simp⟩
  have hg : ∀ s, RoutesFrom c r.apiOnly (· = r) regs s →
      RendersRoutes c (· = r) (Generator.context ⟨c, now⟩ s r) :=
    fun s hs => ⟨rfl, rfl, hs.2.1, rfl, hsub⟩
  refine ⟨by rw [((hk.generate hg hP h).registered hreg).file, hfile.file], fun hgen => ?_⟩
  -- routes come last: the kinds before them keep the file, then the route kind finds the prefix
  rw [Generator.generate_eq] at h
  obtain ⟨⟨S, outs⟩, hfold, hres⟩ := Except.map_eq_ok h
  obtain ⟨rfl, rfl⟩ := Prod.mk.inj hres
  have hall : ArtifactKind.all = [.migration, .model, .factory, .seeder, .request, .resource,
      .controller, .views] ++ [.routes] := rfl
  rw [hall, List.foldlM_append] at hfold
  obtain ⟨mid, hmid, hlast⟩ := bind_eq_ok.mp hfold
  simp only [List.foldlM_cons, List.foldlM_nil, bind_pure] at hlast
  have hPmid := hk.kindSteps hg _ hmid hP
  obtain ⟨f, hrun, hf⟩ :=
    @runKind_routes_registered c now mid.1 r regs hPmid.2.1 (hPmid.registered hreg) hreg
  unfold Generator.kindStep at hlast
  rw [if_pos hgen, hrun] at hlast
  simp only [Except.map, Except.ok.injEq, Prod.mk.injEq] at hlast
  refine ⟨f, ?_, hf⟩
  rw [← hlast.2]
  simp

/-! ### The route files over any runs -/

/-- Over any runs, of any requests whose sub-namespaces hold no quote, at any clocks, forced or
not, under a configuration whose spliced texts hold no quote and with the bundled route stubs,
a route file that was absent holds the preamble and then one block per registered route prefix:
the blocks the first runs registered, then those of the later runs, each block that of one of
the runs' requests. Each marker of a route prefix occurs at most once in it, and a further run
whose prefix it registers leaves it as it is and reports it already registered. -/
theorem routeFile_blocks_in_registration_order {c : Config} (hc : c.QuoteFree) {t : Project}
    (hw : t.WellFormed) (hs : t.BundledRouteStubs c.stubsPath) (api : Bool)
    (habsent : t.file? (routeFilePath c api) = none) (runs₁ runs₂ : List GenerationRun)
    (hsub : ∀ run ∈ runs₁ ++ runs₂, ∀ s ∈ run.request.subNamespace, '\'' ∉ s.toList) :
    ∃ regs₁ regs₂,
      RouteFileOf c api (GenerationRun.runAll c t runs₁) regs₁ ∧
      RouteFileOf c api (GenerationRun.runAll c t (runs₁ ++ runs₂)) (regs₁ ++ regs₂) ∧
      (∀ ctx ∈ regs₁, ctx.request ∈ runs₁.map GenerationRun.request) ∧
      (∀ ctx ∈ regs₂, ctx.request ∈ runs₂.map GenerationRun.request) ∧
      (∀ text, (GenerationRun.runAll c t (runs₁ ++ runs₂)).file? (routeFilePath c api) = some text →
        ∀ p : String, IsWordsWith '-' p → ∀ x y u v : List Char,
          text.toList = x ++ (routeMarker api p).toList ++ u →
          text.toList = y ++ (routeMarker api p).toList ++ v → x = y) ∧
      ∀ (now : Moment) (r : Request) (T' : Project) (rep : Report),
        (∀ s ∈ r.subNamespace, '\'' ∉ s.toList) → r.apiOnly = api →
        (NameSet.ofModel r.modelName).routePrefix ∈ (regs₁ ++ regs₂).map (·.names.routePrefix) →
        Generator.generate ⟨c, now⟩ (GenerationRun.runAll c t (runs₁ ++ runs₂)) r = .ok (T', rep) →
        T'.file? (routeFilePath c api) =
            (GenerationRun.runAll c t (runs₁ ++ runs₂)).file? (routeFilePath c api) ∧
          (r.shouldGenerate c .routes = true →
            ∃ f, (ArtifactKind.routes, KindOutcome.succeeded [f]) ∈ rep.outcomes ∧
              f.outcome = .alreadyPresent) := by
  -- the first runs register `regs₁` on the absent file
  have h₁ : RoutesFrom c api (· ∈ runs₁.map GenerationRun.request) [] (GenerationRun.runAll c t runs₁) :=
    RoutesFrom.runAll runs₁
      (fun run hrun => ⟨List.mem_map_of_mem hrun, hsub run (List.mem_append_left _ hrun)⟩)
      ⟨hw, hs, [], RouteFileOf.nil habsent, by simp⟩
  obtain ⟨hw₁, hs₁, regs₁, hfile₁, hq₁⟩ := h₁
  rw [List.nil_append] at hfile₁
  -- the later runs append `regs₂` after them
  have h₂ : RoutesFrom c api (· ∈ runs₂.map GenerationRun.request) regs₁
      (GenerationRun.runAll c t (runs₁ ++ runs₂)) := by
    rw [GenerationRun.runAll_append]
    exact RoutesFrom.runAll runs₂
      (fun run hrun => ⟨List.mem_map_of_mem hrun, hsub run (List.mem_append_right _ hrun)⟩)
      ⟨hw₁, hs₁, [], by simpa using hfile₁, by simp⟩
  obtain ⟨hw₂, hs₂, regs₂, hfile₂, hq₂⟩ := h₂
  refine ⟨regs₁, regs₂, hfile₁, hfile₂, hq₁, hq₂, ?_, ?_⟩
  · intro text htext p hp x y u v hx hy
    rw [routeMarker_toList] at hx hy
    exact hfile₂.markedAt_unique hc htext hp ⟨u, by simpa using hx⟩ ⟨v, by simpa using hy⟩
  · intro now r T' rep hsubr hapi hreg hgen
    subst hapi
    exact generate_registered hw₂ hs₂ hfile₂ hsubr hreg hgen

theorem post_registered_once_in_web_routes :
    ∃ regs₁ regs₂,
      RouteFileOf {} false (GenerationRun.runAll {} {}
        [.generate ⟨2024, 1, 15, 10, 30, 0⟩
          { modelName := "Post", modelNamespace := "App\\Models", subNamespace := [],
            fields := [], relations := [], forceOverwrite := false, apiOnly := false,
            switches := fun _ => none }]) regs₁ ∧
      RouteFileOf {} false (GenerationRun.runAll {} {}
        ([.generate ⟨2024, 1, 15, 10, 30, 0⟩
          { modelName := "Post", modelNamespace := "App\\Models", subNamespace := [],
            fields := [], relations := [], forceOverwrite := false, apiOnly := false,
            switches := fun _ => none }] ++
        [.generate ⟨2024, 1, 16, 9, 0, 0⟩
          { modelName := "Post", modelNamespace := "App\\Models", subNamespace := [],
            fields := [], relations := [], forceOverwrite := true, apiOnly := false,
            switches := fun _ => none }])) (regs₁ ++ regs₂) ∧
      (∀ ctx ∈ regs₁, ctx.request ∈ [GenerationRun.generate ⟨2024, 1, 15, 10, 30, 0⟩
          { modelName := "Post", modelNamespace := "App\\Models", subNamespace := [],
            fields := [], relations := [], forceOverwrite := false, apiOnly := false,
            switches := fun _ => none }].map GenerationRun.request) ∧
      (∀ ctx ∈ regs₂, ctx.request ∈ [GenerationRun.generate ⟨2024, 1, 16, 9, 0, 0⟩
          { modelName := "Post", modelNamespace := "App\\Models", subNamespace := [],
            fields := [], relations := [], forceOverwrite := true, apiOnly := false,
            switches := fun _ => none }].map GenerationRun.request) ∧
      (∀ text, (GenerationRun.runAll {} {}
        ([.generate ⟨2024, 1, 15, 10, 30, 0⟩
          { modelName := "Post", modelNamespace := "App\\Models", subNamespace := [],
            fields := [], relations := [], forceOverwrite := false, apiOnly := false,
            switches := fun _ => none }] ++
        [.generate ⟨2024, 1, 16, 9, 0, 0⟩
          { modelName := "Post", modelNamespace := "App\\Models", subNamespace := [],
            fields := [], relations := [], forceOverwrite := true, apiOnly := false,
            switches := fun _ => none }])).file? (routeFilePath {} false) = some text →
        ∀ p : String, IsWordsWith '-' p → ∀ x y u v : List Char,
          text.toList = x ++ (routeMarker false p).toList ++ u →
          text.toList = y ++ (routeMarker false p).toList ++ v → x = y) ∧
      ∀ (now : Moment) (r : Request) (T' : Project) (rep : Report),
        (∀ s ∈ r.subNamespace, '\'' ∉ s.toList) → r.apiOnly = false →
        (NameSet.ofModel r.modelName).routePrefix ∈ (regs₁ ++ regs₂).map (·.names.routePrefix) →
        Generator.generate ⟨{}, now⟩ (GenerationRun.runAll {} {}
          ([.generate ⟨2024, 1, 15, 10, 30, 0⟩
            { modelName := "Post", modelNamespace := "App\\Models", subNamespace := [],
              fields := [], relations := [], forceOverwrite := false, apiOnly := false,
              switches := fun _ => none }] ++
          [.generate ⟨2024, 1, 16, 9, 0, 0⟩
            { modelName := "Post", modelNamespace := "App\\Models", subNamespace := [],
              fields := [], relations := [], forceOverwrite := true, apiOnly := false,
              switches := fun _ => none }])) r = .ok (T', rep) →
        T'.file? (routeFilePath {} false) = (GenerationRun.runAll {} {}
          ([.generate ⟨2024, 1, 15, 10, 30, 0⟩
            { modelName := "Post", modelNamespace := "App\\Models", subNamespace := [],
              fields := [], relations := [], forceOverwrite := false, apiOnly := false,
              switches := fun _ => none }] ++
          [.generate ⟨2024, 1, 16, 9, 0, 0⟩
            { modelName := "Post", modelNamespace := "App\\Models", subNamespace := [],
              fields := [], relations := [], forceOverwrite := true, apiOnly := false,
              switches := fun _ => none }])).file? (routeFilePath {} false) ∧
          (r.shouldGenerate {} .routes = true →
            ∃ f, (ArtifactKind.routes, KindOutcome.succeeded [f]) ∈ rep.outcomes ∧
              f.outcome = .alreadyPresent) :=
  routeFile_blocks_in_registration_order ⟨by decide, by decide, by decide, by decide⟩
    Project.WellFormed.empty (fun api => by cases api <;> decide +kernel) false rfl _ _
    (by simp [GenerationRun.request])

end CrudScaffold
