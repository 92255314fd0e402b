import CrudScaffold.Proofs.Rerun

/-! The order migration files sort in. A migration's file name starts with its stamp: year,
month and day apart, then the time of day, each part with its own width while the year has
four digits. Such stamps sort as their moments do, and each pivot migration is stamped one
second after the migration before it, so the table's migration sorts before every pivot that
refers to it. A year past 9999 is written with a sign and five digits, which sorts before the
digits of every year before it, and a pivot stamped past the last second of the calendar stops
the render.

Main statement: `migrations_sorted_in_run_order`. -/

namespace CrudScaffold

open Naming

/-- The last `w` decimal digits of `n`, zeros in front. -/
def paddedDigits : Nat → Nat → List Char
  | 0, _ => []
  | w + 1, n => paddedDigits w (n / 10) ++ [Nat.digitChar (n % 10)]

@[simp] theorem length_paddedDigits (w n : Nat) : (paddedDigits w n).length = w := by
  induction w generalizing n with
  | zero => rfl
  | succ w ih => simp [paddedDigits, ih]

theorem paddedDigits_zero (w : Nat) : paddedDigits w 0 = List.replicate w '0' := by
  induction w with
  | zero => rfl
  | succ w ih => rw [paddedDigits, Nat.zero_div, ih, Nat.zero_mod, List.replicate_succ']; rfl

theorem replicate_append_toDigits {w n : Nat} (hn : n < 10 ^ (w + 1)) :
    List.replicate (w + 1 - (Nat.toDigits 10 n).length) '0' ++ Nat.toDigits 10 n =
      paddedDigits (w + 1) n := by
  induction w generalizing n with
  | zero =>
    have h10 : n < 10 := by simpa using hn
    simp [paddedDigits, Nat.toDigits_of_lt_base h10, Nat.mod_eq_of_lt h10]
  | succ w ih =>
    by_cases h10 : n < 10
    · rw [Nat.toDigits_of_lt_base h10, paddedDigits, Nat.div_eq_of_lt h10, paddedDigits_zero,
        Nat.mod_eq_of_lt h10]
      rfl
    · have hq : n / 10 < 10 ^ (w + 1) := by
        rw [Nat.pow_succ] at hn
        omega
      rw [Nat.toDigits_eq_if (by decide), if_neg h10, paddedDigits, ← ih hq,
        List.length_append, List.length_singleton, ← List.append_assoc, Nat.add_sub_add_right]

theorem Moment.padded_toList {w n : Nat} (hn : n < 10 ^ (w + 1)) :
    (Moment.padded (w + 1) n).toList = paddedDigits (w + 1) n := by
  simp only [Moment.padded, String.toList_append, String.toList_ofList, ← String.length_toList,
    Nat.toString_eq_repr, Nat.toList_repr]
  exact replicate_append_toDigits hn

theorem digitChar_lt {x y : Nat} (hxy : x < y) (hy : y < 10) :
    Nat.digitChar x < Nat.digitChar y := by
  have hall : ∀ y < 10, ∀ x < y, Nat.digitChar x < Nat.digitChar y := by decide
  exact hall y hy x hxy

/-- Lists of one length compared, anything appended after them keeps their order. -/
theorem append_lt_append_of_lt {α : Type} [LT α] {a b : List α} (c d : List α)
    (hlen : a.length = b.length) (h : a < b) : a ++ c < b ++ d := by
  induction a generalizing b with
  | nil =>
    cases b with
    | nil => exact absurd h (List.not_lt_nil _)
    | cons => simp at hlen
  | cons x a ih =>
    cases b with
    | nil => simp at hlen
    | cons y b =>
      rcases List.cons_lt_cons_iff.mp h with hxy | ⟨rfl, hab⟩
      · exact List.cons_lt_cons_iff.mpr (.inl hxy)
      · exact List.cons_lt_cons_iff.mpr (.inr ⟨rfl, ih (by simpa using hlen) hab⟩)

/-- Numbers written with a fixed number of digits sort as the numbers do. -/
theorem paddedDigits_lt {w a b : Nat} (hab : a < b) (hb : b < 10 ^ w) :
    paddedDigits w a < paddedDigits w b := by
  induction w generalizing a b with
  | zero =>
    simp at hb
    omega
  | succ w ih =>
    rw [Nat.pow_succ] at hb
    simp only [paddedDigits]
    by_cases hq : a / 10 < b / 10
    · exact append_lt_append_of_lt _ _ (by simp) (ih hq (by omega))
    · have hq' : a / 10 = b / 10 := by omega
      rw [hq']
      exact List.append_left_lt (List.cons_lt_cons_iff.mpr
        (.inl (digitChar_lt (by omega) (Nat.mod_lt _ (by decide)))))

/-- A part written with a fixed number of digits and what follows it: the part decides, and on
a tie what follows. -/
theorem paddedDigits_append_lt {w a b : Nat} {c d : List Char} (hb : b < 10 ^ w)
    (h : a < b ∨ a = b ∧ c < d) : paddedDigits w a ++ c < paddedDigits w b ++ d := by
  rcases h with hab | ⟨rfl, hcd⟩
  · exact append_lt_append_of_lt _ _ (by simp) (paddedDigits_lt hab hb)
  · exact List.append_left_lt hcd

/-! ### Stamps -/

/-- A plain stamp is its parts, each written with its own width: the year, month and day
apart, then hour, minute and second together. -/
theorem Moment.stamp_toList {m : Moment} (h : m.PlainStamp) :
    m.stamp.toList = paddedDigits 4 m.year.toNat ++ '_' :: (paddedDigits 2 m.month ++ '_' ::
      (paddedDigits 2 m.day ++ '_' :: (paddedDigits 2 m.hour ++ (paddedDigits 2 m.minute ++
        paddedDigits 2 m.second)))) := by
  obtain ⟨hy0, hy, hmo, hd, hh, hmi, hs⟩ := h
  have two : ∀ {n}, n < 100 → (Moment.padded 2 n).toList = paddedDigits 2 n :=
    fun hn => Moment.padded_toList (by simpa using hn)
  have hyear : (Moment.yearText m.year).toList = paddedDigits 4 m.year.toNat := by
    simp only [Moment.yearText, hy0, hy, decide_true, Bool.and_self, if_true]
    exact Moment.padded_toList (by simp; omega)
  simp [Moment.stamp, hyear, two hmo, two hd, two hh, two hmi, two hs]

theorem Moment.length_plainStamp {m : Moment} (h : m.PlainStamp) : m.stamp.toList.length = 17 := by
  simp [Moment.stamp_toList h]

/-- `m` comes before `m'` on the calendar: an earlier year, or the same year and an earlier
month, and so on down to the second. -/
def Moment.Before (m m' : Moment) : Prop :=
  m.year < m'.year ∨ m.year = m'.year ∧ (m.month < m'.month ∨ m.month = m'.month ∧
    (m.day < m'.day ∨ m.day = m'.day ∧ (m.hour < m'.hour ∨ m.hour = m'.hour ∧
      (m.minute < m'.minute ∨ m.minute = m'.minute ∧ m.second < m'.second))))

/-- One second later is later: each case of the carry raises one part and clears those
below it. -/
theorem Moment.before_tick (m : Moment) : m.Before m.tick := by
  unfold Moment.tick Moment.Before
  split_ifs <;> dsimp only <;> omega

/-- Plain stamps sort as their moments do. -/
theorem Moment.stamp_lt_of_before {m m' : Moment} (hm : m.PlainStamp) (hm' : m'.PlainStamp)
    (h : m.Before m') : m.stamp < m'.stamp := by
  rw [String.lt_iff, Moment.stamp_toList hm, Moment.stamp_toList hm']
  obtain ⟨hy0, -, -, -, -, -, -⟩ := hm
  obtain ⟨hy0', hy', hmo', hd', hh', hmi', hs'⟩ := hm'
  have sep : ∀ {c d : List Char}, c < d → '_' :: c < '_' :: d :=
    fun h => List.cons_lt_cons_iff.mpr (.inr ⟨rfl, h⟩)
  -- the parts are compared from the year down, as `Before` compares them
  refine paddedDigits_append_lt (by simp; omega) ?_
  rcases h with h | ⟨he, h⟩
  · exact .inl (by omega)
  refine .inr ⟨by omega, sep (paddedDigits_append_lt (by simpa using hmo') ?_)⟩
  rcases h with h | ⟨he, h⟩
  · exact .inl h
  refine .inr ⟨he, sep (paddedDigits_append_lt (by simpa using hd') ?_)⟩
  rcases h with h | ⟨he, h⟩
  · exact .inl h
  refine .inr ⟨he, sep (paddedDigits_append_lt (by simpa using hh') ?_)⟩
  rcases h with h | ⟨he, h⟩
  · exact .inl h
  refine .inr ⟨he, paddedDigits_append_lt (by simpa using hmi') ?_⟩
  rcases h with h | ⟨he, h⟩
  · exact .inl h
  exact .inr ⟨he, paddedDigits_lt h (by simpa using hs')⟩

/-! ### File names -/

/-- Migration files named by plain stamps sort by their stamps, whatever their tables. -/
theorem migrationFileName_lt {m m' : Moment} (hm : m.PlainStamp) (hm' : m'.PlainStamp)
    (h : m.stamp < m'.stamp) (table table' : String) :
    migrationFileName m table < migrationFileName m' table' := by
  rw [String.lt_iff] at h ⊢
  simp only [migrationFileName, String.toList_append, List.append_assoc]
  exact append_lt_append_of_lt _ _
    (by rw [Moment.length_plainStamp hm, Moment.length_plainStamp hm']) h

theorem joinPath_lt (dir : String) {a b : String} (h : a < b) : joinPath dir a < joinPath dir b := by
  have hpre : ∀ {x y : String} (p : String), x < y → p ++ x < p ++ y := fun p h => by
    rw [String.lt_iff] at h ⊢
    simpa using List.append_left_lt h
  unfold joinPath
  split_ifs
  · exact h
  · exact hpre dir h
  · rw [String.append_assoc, String.append_assoc]
    exact hpre dir (hpre "/" h)

/-! ### The clock -/

theorem Moment.eq_tick_of_next? {t m : Moment} (h : t.next? = some m) : m = t.tick := by
  unfold Moment.next? at h
  dsimp only at h
  split at h
  · exact (Option.some.inj h).symm
  · cases h

/-- Seconds counted from a moment: one to the moment after it, the rest from there. -/
theorem Moment.addSeconds?_succ_eq_bind (t : Moment) :
    ∀ n, t.addSeconds? (n + 1) = t.next?.bind (·.addSeconds? n)
  | 0 => by simp [Moment.addSeconds?]
  | n + 1 => by
    show (t.addSeconds? (n + 1)).bind Moment.next? = _
    rw [Moment.addSeconds?_succ_eq_bind t n, Option.bind_assoc]
    rfl

theorem Moment.addSeconds?_succ {t m : Moment} (h : t.next? = some m) (n : Nat) :
    t.addSeconds? (n + 1) = m.addSeconds? n := by
  rw [Moment.addSeconds?_succ_eq_bind, h, Option.bind_some]

/-- A clock whose next `n` stamps are plain can be moved on `n` seconds. -/
theorem Moment.StampsFit.addSeconds? {t : Moment} :
    ∀ {n : Nat}, t.StampsFit n → ∃ m, t.addSeconds? n = some m
  | 0, _ => ⟨t, rfl⟩
  | _ + 1, ⟨_, _, hm, hfit⟩ => by
    rw [Moment.addSeconds?_succ hm]
    exact hfit.addSeconds?

/-! ### The migration stubs that ship -/

namespace Stub

/-- A placeholder renders to the last value its key is given. -/
theorem rendersTo_placeholder {values : List (String × String)} (k v : String)
    (hv : values.reverse.find? (·.1 == k) = some (k, v)) (hk : k ∉ helperNames) :
    RendersTo (mapOf values) (.value (placeholder k)) v :=
  .inr ⟨k, rfl, by rw [field?_mapOf, hv, Option.map_some], hk⟩

theorem render_migrationStub (table columns : String) :
    ∃ out, Stub.render migrationStub [("table_name", table), ("columns", columns)] = .ok out := by
  have hprec : precompiled? migrationStub = some migrationTemplate := by
    unfold precompiled?
    rw [if_neg (by decide), if_neg (by decide), if_pos rfl]
  exact ⟨_, render_of_rendersTo hprec
    (.cons (.inl rfl) (.cons (rendersTo_placeholder "table_name" table (by simp) (by decide))
    (.cons (.inl rfl) (.cons (rendersTo_placeholder "columns" columns (by simp) (by decide))
    (.cons (.inl rfl) (.cons (rendersTo_placeholder "table_name" table (by simp) (by decide))
    (.cons (.inl rfl) .nil)))))))⟩

theorem render_pivotMigrationStub (table key1 key2 table1 table2 : String) :
    ∃ out, Stub.render pivotMigrationStub [("table_name", table), ("foreign_key_1", key1),
      ("foreign_key_2", key2), ("table_1", table1), ("table_2", table2)] = .ok out := by
  have hprec : precompiled? pivotMigrationStub = some pivotMigrationTemplate := by
    unfold precompiled?
    rw [if_neg (by decide +kernel), if_neg (by decide +kernel), if_neg (by decide +kernel),
      if_pos rfl]
  exact ⟨_, render_of_rendersTo hprec
    (.cons (.inl rfl) (.cons (rendersTo_placeholder "table_name" table (by simp) (by decide))
    (.cons (.inl rfl) (.cons (rendersTo_placeholder "foreign_key_1" key1 (by simp) (by decide))
    (.cons (.inl rfl) (.cons (rendersTo_placeholder "table_1" table1 (by simp) (by decide))
    (.cons (.inl rfl) (.cons (rendersTo_placeholder "foreign_key_2" key2 (by simp) (by decide))
    (.cons (.inl rfl) (.cons (rendersTo_placeholder "table_2" table2 (by simp) (by decide))
    (.cons (.inl rfl) (.cons (rendersTo_placeholder "foreign_key_1" key1 (by simp) (by decide))
    (.cons (.inl rfl) (.cons (rendersTo_placeholder "foreign_key_2" key2 (by simp) (by decide))
    (.cons (.inl rfl) (.cons (rendersTo_placeholder "table_name" table (by simp) (by decide))
    (.cons (.inl rfl) .nil)))))))))))))))))⟩

end Stub

theorem RenderContext.render_of_stub {ctx : RenderContext} {name text out : String}
    {values : List (String × String)} (hs : ctx.stub name = .ok text)
    (hr : Stub.render text values = .ok out) : ctx.render name values = .ok out := by
  simp [RenderContext.render, hs, hr]

/-! ### Pivot migrations -/

section Pivots

variable {ctx : RenderContext}

/-- A pivot migration renders with the pivot stub that ships. -/
theorem pivotMigration_bundled (hpivot : ctx.stub "migration.pivot" = .ok Stub.pivotMigrationStub)
    (r : Relation) (m : Moment) : ∃ a, pivotMigration ctx r m = .ok a := by
  unfold pivotMigration
  rcases pivotPair ctx.names.model r.target with ⟨first, second⟩
  obtain ⟨out, hout⟩ := Stub.render_pivotMigrationStub (first ++ "_" ++ second) (first ++ "_id")
    (second ++ "_id") (pluralize first) (pluralize second)
  simp only [RenderContext.render_of_stub hpivot hout]
  exact ⟨_, rfl⟩

/-- What one step of the pivot migrations does: it moves the clock on one second and renders
the first relation's pivot at that stamp. -/
theorem pivotMigrations_cons_eq_ok {last : Moment} {r : Relation} {rs : List Relation}
    {as : List Artifact} (h : pivotMigrations ctx last (r :: rs) = .ok as) :
    ∃ m a rest, last.next? = some m ∧ pivotMigration ctx r m = .ok a ∧
      pivotMigrations ctx m rs = .ok rest ∧ as = a :: rest := by
  unfold pivotMigrations at h
  cases hm : last.next? with
  | none =>
    rw [hm] at h
    cases h
  | some m =>
    simp only [hm, pure_bind] at h
    obtain ⟨a, ha, h⟩ := bind_eq_ok.mp h
    obtain ⟨rest, hrest, h⟩ := bind_eq_ok.mp h
    exact ⟨m, a, rest, rfl, ha, hrest, (Except.ok.inj h).symm⟩

theorem pivotMigrations_cons {last m : Moment} {r : Relation} {a : Artifact}
    (hm : last.next? = some m) (ha : pivotMigration ctx r m = .ok a) (rs : List Relation) :
    pivotMigrations ctx last (r :: rs) = (pivotMigrations ctx m rs).map (a :: ·) := by
  simp only [pivotMigrations, hm, pure_bind, ha]
  cases pivotMigrations ctx m rs <;> rfl

theorem pivotMigrations_bundled
    (hpivot : ctx.stub "migration.pivot" = .ok Stub.pivotMigrationStub) :
    ∀ {last : Moment} {rels : List Relation}, (∃ m, last.addSeconds? rels.length = some m) →
      ∃ as, pivotMigrations ctx last rels = .ok as
  | _, [], _ => ⟨[], rfl⟩
  | last, r :: _, ⟨_, hend⟩ => by
    rw [List.length_cons, Moment.addSeconds?_succ_eq_bind] at hend
    obtain ⟨m, hm, hend⟩ := Option.bind_eq_some_iff.mp hend
    obtain ⟨a, ha⟩ := pivotMigration_bundled hpivot r m
    obtain ⟨rest, hrest⟩ := pivotMigrations_bundled hpivot ⟨_, hend⟩
    exact ⟨a :: rest, by rw [pivotMigrations_cons hm ha, hrest]; rfl⟩

/-- A pivot whose stamp would pass the end of the calendar stops the pivot migrations. -/
theorem pivotMigrations_clockOverflow {last : Moment} (h : last.next? = none) (r : Relation)
    (rs : List Relation) : pivotMigrations ctx last (r :: rs) = .error .clockOverflow := by
  simp only [pivotMigrations, h]
  rfl

theorem pivotMigrations_length :
    ∀ {last : Moment} {rels : List Relation} {as : List Artifact},
      pivotMigrations ctx last rels = .ok as → as.length = rels.length
  | _, [], _, h => by
    cases h
    rfl
  | _, _ :: _, _, h => by
    obtain ⟨_, _, _, -, -, hrest, rfl⟩ := pivotMigrations_cons_eq_ok h
    simp [pivotMigrations_length hrest]

/-- The pivot migration at place `i` is that of the `i`-th relation, stamped `i + 1` seconds
after `last`. -/
theorem pivotMigrations_getElem? :
    ∀ {last : Moment} {rels : List Relation} {as : List Artifact},
      pivotMigrations ctx last rels = .ok as → ∀ i a, as[i]? = some a →
        ∃ r m, rels[i]? = some r ∧ last.addSeconds? (i + 1) = some m ∧
          a.path = joinPath (ArtifactKind.migration.directory ctx.config.paths)
            (migrationFileName m (pivotTableName ctx.names.model r.target))
  | _, [], _, h, _, _, ha => by
    cases h
    simp at ha
  | last, r :: _, _, h, i, a, ha => by
    obtain ⟨m, b, rest, hm, hb, hrest, rfl⟩ := pivotMigrations_cons_eq_ok h
    cases i with
    | zero =>
      cases ha
      exact ⟨r, m, rfl, by simp [Moment.addSeconds?, hm], (pivotMigration_eq_ok hb).2.1⟩
    | succ i =>
      obtain ⟨r', m', hr', hm', hpath⟩ := pivotMigrations_getElem? hrest i a ha
      exact ⟨r', m', hr', (Moment.addSeconds?_succ hm (i + 1)).trans hm', hpath⟩

/-- Each pivot migration's path sorts after the one before it, the first after any migration
stamped `last`. -/
theorem pivotMigrations_isChain :
    ∀ {last : Moment} {rels : List Relation} {as : List Artifact},
      pivotMigrations ctx last rels = .ok as → last.StampsFit rels.length → ∀ table,
        List.IsChain (· < ·) (joinPath (ArtifactKind.migration.directory ctx.config.paths)
          (migrationFileName last table) :: as.map (·.path))
  | _, [], _, h, _, _ => by
    cases h
    exact List.isChain_singleton _
  | last, r :: _, _, h, ⟨hlast, m', hm', hfit⟩, table => by
    obtain ⟨m, a, rest, hm, ha, hrest, rfl⟩ := pivotMigrations_cons_eq_ok h
    obtain rfl : m' = m := Option.some.inj (hm'.symm.trans hm)
    rw [List.map_cons, (pivotMigration_eq_ok ha).2.1]
    refine List.isChain_cons_cons.mpr ⟨joinPath_lt _ (migrationFileName_lt hlast hfit.plainStamp ?_
      _ _), pivotMigrations_isChain hrest hfit _⟩
    exact Moment.stamp_lt_of_before hlast hfit.plainStamp
      (Moment.eq_tick_of_next? hm ▸ Moment.before_tick last)

end Pivots

/-! ### All the migrations of a request -/

/-- With the table stub that ships, the migrations are the table's, stamped with the clock,
followed by the pivot migrations, or the failure of those. -/
theorem renderMigrations_eq_map {ctx : RenderContext}
    (hstub : ctx.stub "migration" = .ok Stub.migrationStub) :
    ∃ content, renderMigrations ctx =
      (pivotMigrations ctx ctx.now (ctx.request.relations.filter (·.kind == .belongsToMany))).map
        fun pivots => { path := joinPath (ArtifactKind.migration.directory ctx.config.paths)
                          (migrationFileName ctx.now ctx.names.table)
                        content
                        description := "Migration for " ++ ctx.names.table ++ " table" } :: pivots := by
  obtain ⟨content, hcontent⟩ := Stub.render_migrationStub ctx.names.table (migrationColumns ctx)
  refine ⟨content, ?_⟩
  unfold renderMigrations
  simp only [RenderContext.render_of_stub hstub hcontent]
  cases pivotMigrations ctx ctx.now (ctx.request.relations.filter (·.kind == .belongsToMany)) <;>
    rfl

/-- With the migration stubs that ship and a clock whose stamps stay plain, the migrations are
the table's, stamped with the clock, then one pivot per many-to-many relation in the order the
relations are declared, the `i`-th stamped `i + 1` seconds after the clock; and their paths
strictly increase, so the table is created before every pivot that refers to it. -/
theorem migrations_sorted_in_run_order {ctx : RenderContext}
    (hstub : ctx.stub "migration" = .ok Stub.migrationStub)
    (hpivot : ctx.stub "migration.pivot" = .ok Stub.pivotMigrationStub)
    (hfit : ctx.now.StampsFit ctx.request.pivotCount) :
    ∃ main pivots, renderMigrations ctx = .ok (main :: pivots) ∧
      main.path = joinPath (ArtifactKind.migration.directory ctx.config.paths)
        (migrationFileName ctx.now ctx.names.table) ∧
      pivots.length = ctx.request.pivotCount ∧
      (∀ i a, pivots[i]? = some a → ∃ r m,
        (ctx.request.relations.filter (·.kind == .belongsToMany))[i]? = some r ∧
        ctx.now.addSeconds? (i + 1) = some m ∧
        a.path = joinPath (ArtifactKind.migration.directory ctx.config.paths)
          (migrationFileName m (pivotTableName ctx.names.model r.target))) ∧
      ((main :: pivots).map (·.path)).Pairwise (· < ·) := by
  obtain ⟨content, hrender⟩ := renderMigrations_eq_map hstub
  obtain ⟨pivots, hpivots⟩ := pivotMigrations_bundled hpivot hfit.addSeconds?
  rw [hpivots] at hrender
  refine ⟨_, pivots, hrender, rfl, pivotMigrations_length hpivots,
    pivotMigrations_getElem? hpivots, ?_⟩
  exact List.isChain_iff_pairwise.mp (pivotMigrations_isChain hpivots hfit _)

/-- A post with the relations of a spec, rendered at `now` from an empty project. -/
def postContext (relations : String) (now : Moment) : RenderContext :=
  RenderContext.make
    { modelName := "Post", modelNamespace := "App\\Models", subNamespace := [], fields := [],
      relations := parseRelations relations, forceOverwrite := false, apiOnly := false,
      switches := fun _ => none }
    {} now (Project.stub {} ({} : Config).stubsPath)

/-- Tags and categories of a post rendered two seconds before 2025: the second pivot is
stamped in the new year, and the three files still sort in the order they run. -/
theorem post_pivots_sorted_across_new_year :
    ∃ main pivots, renderMigrations
        (postContext "belongsToMany:Tag,belongsToMany:Category" ⟨2024, 12, 31, 23, 59, 58⟩) =
        .ok (main :: pivots) ∧ pivots.length = 2 ∧
      ((main :: pivots).map (·.path)).Pairwise (· < ·) := by
  have hcount : (postContext "belongsToMany:Tag,belongsToMany:Category"
      ⟨2024, 12, 31, 23, 59, 58⟩).request.pivotCount = 2 := by decide +kernel
  have hfit : (postContext "belongsToMany:Tag,belongsToMany:Category"
      ⟨2024, 12, 31, 23, 59, 58⟩).now.StampsFit 2 := by
    refine ⟨?_, ⟨2024, 12, 31, 23, 59, 59⟩, by decide, ?_, ⟨2025, 1, 1, 0, 0, 0⟩, by decide, ?_⟩ <;>
    · show Moment.PlainStamp _
      unfold Moment.PlainStamp
      decide
  obtain ⟨main, pivots, h, -, hlen, -, hsorted⟩ :=
    migrations_sorted_in_run_order rfl rfl (hcount ▸ hfit)
  exact ⟨main, pivots, h, hlen.trans hcount, hsorted⟩

/-- One second after the last of year 9999 a pivot is stamped with a sign and five digits, and
its path sorts before its table's; one second after the last of the calendar there is no stamp
for the pivot, and the migrations fail. -/
theorem pivot_stamped_after_year_9999_sorts_first :
    (renderMigrations (postContext "belongsToMany:Tag" ⟨9999, 12, 31, 23, 59, 59⟩)).map
        (·.map (·.path)) =
        .ok ["database/migrations/9999_12_31_235959_create_posts_table.php",
          "database/migrations/+10000_01_01_000000_create_post_tag_table.php"] ∧
      "database/migrations/+10000_01_01_000000_create_post_tag_table.php" <
        "database/migrations/9999_12_31_235959_create_posts_table.php" ∧
      renderMigrations (postContext "belongsToMany:Tag" ⟨262142, 12, 31, 23, 59, 59⟩) =
        .error .clockOverflow := by
  have hrels : (parseRelations "belongsToMany:Tag").filter (·.kind == .belongsToMany) =
      [⟨.belongsToMany, "Tag", none⟩] := by decide +kernel
  -- the render of each clock is its table's migration and the pivots from that clock
  obtain ⟨_, h9999⟩ := @renderMigrations_eq_map (postContext "belongsToMany:Tag"
    ⟨9999, 12, 31, 23, 59, 59⟩) rfl
  obtain ⟨_, hlast⟩ := @renderMigrations_eq_map (postContext "belongsToMany:Tag"
    ⟨262142, 12, 31, 23, 59, 59⟩) rfl
  obtain ⟨a, ha⟩ := @pivotMigration_bundled (postContext "belongsToMany:Tag"
    ⟨9999, 12, 31, 23, 59, 59⟩) rfl ⟨.belongsToMany, "Tag", none⟩ ⟨10000, 1, 1, 0, 0, 0⟩
  have hnext : Moment.next? ⟨9999, 12, 31, 23, 59, 59⟩ = some ⟨10000, 1, 1, 0, 0, 0⟩ := by decide
  have hend : Moment.next? ⟨262142, 12, 31, 23, 59, 59⟩ = none := by decide
  refine ⟨?_, by decide, ?_⟩
  · rw [h9999]
    simp only [postContext, RenderContext.make] at ha ⊢
    rw [hrels, pivotMigrations_cons hnext ha]
    show Except.ok [_, a.path] = _
    rw [(pivotMigration_eq_ok ha).2.1]
    dsimp only
    decide +kernel
  · rw [hlast]
    simp only [postContext, RenderContext.make]
    rw [hrels, pivotMigrations_clockOverflow hend]
    rfl

end CrudScaffold
