import CrudScaffold.Proofs.Paths

/-! The project tree under writes, told by what `file?` and `isDir` report rather than by
the lists that store it. A write succeeds exactly when no file lies above the path and no
directory at it; it then sets the content at the path, makes the directories above it and
leaves every other path as it was. A project whose files are never directories stays so
under writes, and there writing again at a file that exists always succeeds and changes no
directory. -/

namespace CrudScaffold

namespace Project

/-- Every path the project stores: its files and the directories made explicitly. -/
def paths (t : Project) : List (List String) := t.files.map (·.1) ++ t.dirs

theorem isAbove_iff {p q : List String} : isAbove p q = true ↔ p <+: q ∧ p.length < q.length := by
  simp [isAbove, List.isPrefixOf_iff_prefix, and_comm]

theorem isAbove_irrefl (p : List String) : isAbove p p = false := by
  simp [isAbove]

theorem isAbove_iff_prefix_ne {p q : List String} : isAbove p q = true ↔ p <+: q ∧ p ≠ q := by
  rw [isAbove_iff]
  constructor
  · rintro ⟨h, hl⟩
    exact ⟨h, fun he => by subst he; omega⟩
  · rintro ⟨h, hne⟩
    refine ⟨h, Nat.lt_of_le_of_ne h.length_le fun hl => hne (h.eq_of_length hl)⟩

theorem isAbove_trans {p q r : List String} (h₁ : isAbove p q = true) (h₂ : isAbove q r = true) :
    isAbove p r = true := by
  rw [isAbove_iff] at *
  exact ⟨h₁.1.trans h₂.1, by omega⟩

theorem isFile_iff {t : Project} {p : List String} : t.isFile p = true ↔ p ∈ t.files.map (·.1) := by
  simp [isFile, file?, List.find?_isSome]

theorem isDir_iff {t : Project} {p : List String} :
    t.isDir p = true ↔ p = [] ∨ p ∈ t.dirs ∨ ∃ q ∈ t.paths, isAbove p q = true := by
  simp only [isDir, Bool.or_eq_true, List.isEmpty_iff, List.contains_iff_mem, List.any_eq_true,
    paths, List.mem_append, List.mem_map]
  constructor
  · rintro (((h | h) | ⟨e, he, ha⟩) | ⟨d, hd, ha⟩)
    · exact .inl h
    · exact .inr (.inl h)
    · exact .inr (.inr ⟨e.1, .inl ⟨e, he, rfl⟩, ha⟩)
    · exact .inr (.inr ⟨d, .inr hd, ha⟩)
  · rintro (h | h | ⟨q, (⟨e, he, rfl⟩ | hq), ha⟩)
    · exact .inl (.inl (.inl h))
    · exact .inl (.inl (.inr h))
    · exact .inl (.inr ⟨e, he, ha⟩)
    · exact .inr ⟨q, hq, ha⟩

theorem isDir_nil (t : Project) : t.isDir [] = true := by
  simp [isDir]

theorem isDir_of_isAbove {t : Project} {p q : List String} (hq : q ∈ t.paths)
    (h : isAbove p q = true) : t.isDir p = true :=
  isDir_iff.mpr (.inr (.inr ⟨q, hq, h⟩))

/-- Whatever lies above a directory is a directory. -/
theorem isDir_of_isAbove_isDir {t : Project} {p q : List String} (hq : t.isDir q = true)
    (h : isAbove p q = true) : t.isDir p = true := by
  rcases isDir_iff.mp hq with rfl | hq | ⟨r, hr, ha⟩
  · simp [isAbove] at h
  · exact isDir_of_isAbove (List.mem_append_right _ hq) h
  · exact isDir_of_isAbove hr (isAbove_trans h ha)

theorem mem_paths_of_isFile {t : Project} {p : List String} (h : t.isFile p = true) :
    p ∈ t.paths :=
  List.mem_append_left _ (isFile_iff.mp h)

/-! ### Setting the content of a file -/

theorem file?_put (t : Project) (p q : List String) (c : String) :
    (t.put p c).file? q = if q = p then some c else t.file? q := by
  unfold put
  split
  · rename_i hfile
    -- replacing the entries at `p` keeps the path of every entry
    have hpath : ((·.1 == q) ∘ fun e : List String × String => if e.1 == p then (p, c) else e) =
        (·.1 == q) := by
      funext e
      by_cases h : e.1 = p <;> simp [h]
    simp only [file?, List.find?_map, hpath, Option.map_map]
    cases hf : t.files.find? (·.1 == q) with
    | none =>
      have hq : q ≠ p := by
        rintro rfl
        obtain ⟨e, he, hep⟩ := List.mem_map.mp (isFile_iff.mp hfile)
        exact (List.find?_eq_none.mp hf) e he (by simp [hep])
      simp [hq]
    | some e =>
      have heq : e.1 = q := by simpa using List.find?_some hf
      by_cases hq : q = p
      · simp [Function.comp_def, heq, hq]
      · simp [Function.comp_def, heq, hq]
  · rename_i hfile
    have hnot : p ∉ t.files.map (·.1) := fun h => hfile (isFile_iff.mpr h)
    simp only [file?, List.find?_append]
    by_cases hq : q = p
    · subst hq
      have hnone : t.files.find? (·.1 == q) = none := by
        rw [List.find?_eq_none]
        intro e he heq
        exact hnot (List.mem_map.mpr ⟨e, he, by simpa using heq⟩)
      simp [hnone]
    · cases hf : t.files.find? (·.1 == q) with
      | none => simp [hq, Ne.symm hq]
      | some e => simp [hq]

theorem paths_put (t : Project) (p : List String) (c : String) (q : List String) :
    q ∈ (t.put p c).paths ↔ q ∈ t.paths ∨ q = p := by
  unfold put
  split
  · rename_i hfile
    have hmem := isFile_iff.mp hfile
    simp only [paths, List.mem_append, List.map_map]
    constructor
    · rintro (h | h)
      · obtain ⟨e, he, rfl⟩ := List.mem_map.mp h
        by_cases hep : e.1 = p
        · exact .inr (by simp [hep])
        · exact .inl (.inl (List.mem_map.mpr ⟨e, he, by simp [hep]⟩))
      · exact .inl (.inr h)
    · rintro ((h | h) | rfl)
      · obtain ⟨e, he, rfl⟩ := List.mem_map.mp h
        refine .inl (List.mem_map.mpr ⟨e, he, ?_⟩)
        by_cases hep : e.1 = p <;> simp [hep]
      · exact .inr h
      · obtain ⟨e, he, hep⟩ := List.mem_map.mp hmem
        exact .inl (List.mem_map.mpr ⟨e, he, by simp [hep]⟩)
  · simp only [paths, List.map_append, List.map_cons, List.map_nil, List.mem_append,
      List.mem_singleton]
    exact or_right_comm

theorem isDir_put (t : Project) (p : List String) (c : String) (q : List String) :
    (t.put p c).isDir q = (t.isDir q || isAbove q p) := by
  have hdirs : (t.put p c).dirs = t.dirs := by
    unfold put
    split <;> rfl
  apply Bool.eq_iff_iff.mpr
  simp only [Bool.or_eq_true, isDir_iff, hdirs, paths_put]
  constructor
  · rintro (h | h | ⟨r, (hr | rfl), ha⟩)
    · exact .inl (.inl h)
    · exact .inl (.inr (.inl h))
    · exact .inl (.inr (.inr ⟨r, hr, ha⟩))
    · exact .inr ha
  · rintro ((h | h | ⟨r, hr, ha⟩) | ha)
    · exact .inl h
    · exact .inr (.inl h)
    · exact .inr (.inr ⟨r, .inl hr, ha⟩)
    · exact .inr (.inr ⟨p, .inr rfl, ha⟩)

/-! ### Making directories and writing -/

theorem prefix_iff_eq_take_or_eq {q d : List String} :
    q <+: d ↔ (∃ i ∈ List.range d.length, q = d.take i) ∨ q = d := by
  constructor
  · intro h
    by_cases hl : q.length < d.length
    · exact .inl ⟨q.length, List.mem_range.mpr hl, List.prefix_iff_eq_take.mp h⟩
    · exact .inr (h.eq_of_length (Nat.le_antisymm h.length_le (Nat.not_lt.mp hl)))
  · rintro (⟨i, -, rfl⟩ | h)
    · exact List.take_prefix i d
    · exact h ▸ List.prefix_refl q

/-- Adding a directory makes it and every directory above it one. -/
theorem isDir_addDir (t : Project) (d q : List String) :
    ({ t with dirs := t.dirs ++ [d] } : Project).isDir q = (t.isDir q || decide (q <+: d)) := by
  apply Bool.eq_iff_iff.mpr
  simp only [Bool.or_eq_true, decide_eq_true_eq, isDir_iff, paths, List.mem_append,
    List.mem_singleton]
  constructor
  · rintro (h | (h | rfl) | ⟨r, (hr | hr | rfl), ha⟩)
    · exact .inl (.inl h)
    · exact .inl (.inr (.inl h))
    · exact .inr (List.prefix_refl q)
    · exact .inl (.inr (.inr ⟨r, .inl hr, ha⟩))
    · exact .inl (.inr (.inr ⟨r, .inr hr, ha⟩))
    · exact .inr (isAbove_iff.mp ha).1
  · rintro ((h | h | ⟨r, (hr | hr), ha⟩) | hq)
    · exact .inl h
    · exact .inr (.inl (.inl h))
    · exact .inr (.inr ⟨r, .inl hr, ha⟩)
    · exact .inr (.inr ⟨r, .inr (.inl hr), ha⟩)
    · -- a directory strictly above `d` is above the path added
      by_cases hqd : q = d
      · exact .inr (.inl (.inr hqd))
      · exact .inr (.inr ⟨d, .inr (.inr rfl), isAbove_iff_prefix_ne.mpr ⟨hq, hqd⟩⟩)

theorem makeDirs_eq_ok {t t' : Project} {d : List String} (h : t.makeDirs d = .ok t') :
    (∀ q, q <+: d → t.isFile q = false) ∧ t'.files = t.files ∧
      ∀ q, t'.isDir q = (t.isDir q || decide (q <+: d)) := by
  unfold makeDirs at h
  split at h
  · cases h
  rename_i habove
  split at h
  · cases h
  rename_i hat
  have hfree : ∀ q, q <+: d → t.isFile q = false := by
    intro q hq
    rcases prefix_iff_eq_take_or_eq.mp hq with ⟨i, hi, rfl⟩ | rfl
    · simp only [List.any_map, List.any_eq_true, Function.comp_apply] at habove
      simpa using fun hf => habove ⟨i, hi, hf⟩
    · simpa using hat
  split at h
  · rename_i hdir
    cases h
    refine ⟨hfree, rfl, fun q => ?_⟩
    -- the directory exists, so everything above it does too
    by_cases hq : q <+: d
    · by_cases hqd : q = d
      · simp [hqd, hdir]
      · simp [isDir_of_isAbove_isDir hdir (isAbove_iff_prefix_ne.mpr ⟨hq, hqd⟩), hq]
    · simp [hq]
  · cases h
    exact ⟨hfree, rfl, isDir_addDir t d⟩

/-- What a write at a path needs of the project: the path is not the root, no file lies
above it and no directory is at it. -/
structure Writable (t : Project) (p : List String) : Prop where
  ne_nil : p ≠ []
  no_file_above : ∀ q, isAbove q p = true → t.isFile q = false
  not_dir : t.isDir p = false

/-- `t'` is `t` with the file at `p` set to `c` and the directories above `p` made. -/
structure Updated (t t' : Project) (p : List String) (c : String) : Prop where
  file : ∀ q, t'.file? q = if q = p then some c else t.file? q
  dir : ∀ q, t'.isDir q = (t.isDir q || isAbove q p)

theorem isAbove_iff_prefix_dropLast {q p : List String} (hp : p ≠ []) :
    isAbove q p = true ↔ q <+: p.dropLast := by
  have hlen := List.length_pos_iff.mpr hp
  rw [isAbove_iff]
  constructor
  · rintro ⟨hpre, hl⟩
    have hq : q = p.dropLast.take q.length := by
      rw [List.dropLast_eq_take, List.take_take, Nat.min_eq_left (by omega)]
      exact List.prefix_iff_eq_take.mp hpre
    rw [hq]
    exact List.take_prefix _ _
  · intro h
    have hl := h.length_le
    simp only [List.length_dropLast] at hl
    exact ⟨h.trans (List.dropLast_prefix p), by omega⟩

theorem write_eq_ok {t t' : Project} {path c : String} (h : t.write path c = .ok t') :
    t.Writable (pathComponents path) ∧ Updated t t' (pathComponents path) c := by
  unfold write at h
  dsimp only at h
  split at h
  · cases h
  rename_i t1 hdirs
  obtain ⟨hfree, hfiles, hdir1⟩ := makeDirs_eq_ok hdirs
  split at h
  · cases h
  rename_i hnot
  cases h
  have hp : pathComponents path ≠ [] := by
    rintro hp
    rw [hp] at hnot
    exact hnot (isDir_nil _)
  have habove := fun q => isAbove_iff_prefix_dropLast (q := q) hp
  have hnot' : t1.isDir (pathComponents path) = false := by simpa using hnot
  refine ⟨⟨hp, fun q hq => hfree q ((habove q).mp hq), ?_⟩, ⟨fun q => ?_, fun q => ?_⟩⟩
  · rw [hdir1] at hnot'
    exact (by simpa using hnot' : _ ∧ _).1
  · rw [file?_put]
    simp [file?, hfiles]
  · rw [isDir_put, hdir1]
    by_cases hq : isAbove q (pathComponents path) = true
    · simp [hq]
    · have : ¬q <+: (pathComponents path).dropLast := fun h => hq ((habove q).mpr h)
      simp [hq, this]

theorem not_prefix_dropLast {p : List String} (hp : p ≠ []) : ¬p <+: p.dropLast := by
  intro h
  have hl := h.length_le
  have := List.length_pos_iff.mpr hp
  simp only [List.length_dropLast] at hl
  omega

theorem makeDirs_ok_of_free {t : Project} {d : List String}
    (h : ∀ q, q <+: d → t.isFile q = false) : ∃ t', t.makeDirs d = .ok t' := by
  have habove : (((List.range d.length).map fun i => d.take i).any t.isFile) = false := by
    simp only [List.any_map, List.any_eq_false, Function.comp_apply]
    intro i _
    simp [h _ (List.take_prefix i d)]
  unfold makeDirs
  rw [habove, h d (List.prefix_refl d)]
  simp only [Bool.false_eq_true, if_false]
  split <;> exact ⟨_, rfl⟩

/-- Where a write is possible it succeeds. -/
theorem write_ok_of_writable {t : Project} {path : String} (c : String)
    (h : t.Writable (pathComponents path)) : ∃ t', t.write path c = .ok t' := by
  have hfree : ∀ q, q <+: (pathComponents path).dropLast → t.isFile q = false :=
    fun q hq => h.no_file_above q ((isAbove_iff_prefix_dropLast h.ne_nil).mpr hq)
  obtain ⟨t1, h1⟩ := makeDirs_ok_of_free hfree
  obtain ⟨-, -, hdir1⟩ := makeDirs_eq_ok h1
  have hnot : t1.isDir (pathComponents path) = false := by
    simp [hdir1, h.not_dir, not_prefix_dropLast h.ne_nil]
  exact ⟨t1.put (pathComponents path) c, by simp only [write, h1, hnot, Bool.false_eq_true,
    if_false]⟩

/-! ### Presence -/

theorem present_iff {t : Project} {p : List String} :
    t.present p = true ↔ t.isFile p = true ∨ t.isDir p = true := by
  simp [present]

theorem Updated.isFile {t t' : Project} {p : List String} {c : String} (h : Updated t t' p c)
    (q : List String) : t'.isFile q = (t.isFile q || decide (q = p)) := by
  by_cases hq : q = p <;> simp [Project.isFile, h.file, hq]

theorem Updated.present {t t' : Project} {p : List String} {c : String} (h : Updated t t' p c)
    (q : List String) :
    t'.present q = (t.present q || decide (q = p) || isAbove q p) := by
  simp only [Project.present, h.isFile, h.dir]
  cases t.isFile q <;> cases t.isDir q <;> simp

/-- Writing again at a file: nothing becomes or stops being a directory. -/
theorem Updated.isDir_of_isFile {t t' : Project} {p : List String} {c : String}
    (h : Updated t t' p c) (hp : t.isFile p = true) (q : List String) : t'.isDir q = t.isDir q := by
  rw [h.dir]
  by_cases ha : isAbove q p = true
  · simp [isDir_of_isAbove (mem_paths_of_isFile hp) ha]
  · simp [ha]

/-! ### Well-formed projects -/

/-- A project as a file system has it: every component of a path that is present is plain,
and no file is also a directory. -/
structure WellFormed (t : Project) : Prop where
  plain : ∀ q, t.present q = true → ∀ c ∈ q, PlainName c
  leaf : ∀ q, t.isFile q = true → t.isDir q = false

theorem WellFormed.updated {t t' : Project} {path c : String} (hw : t.WellFormed)
    (hwr : t.Writable (pathComponents path)) (h : Updated t t' (pathComponents path) c) :
    t'.WellFormed := by
  constructor
  · intro q hq x hx
    rw [h.present] at hq
    simp only [Bool.or_eq_true, decide_eq_true_eq] at hq
    rcases hq with (hq | rfl) | ha
    · exact hw.plain q hq x hx
    · exact PlainName.of_mem_pathComponents hx
    · exact PlainName.of_mem_pathComponents ((isAbove_iff.mp ha).1.subset hx)
  · intro q hq
    rw [h.isFile] at hq
    rw [h.dir]
    by_cases hqp : q = pathComponents path
    · subst hqp
      simp [hwr.not_dir, isAbove_irrefl]
    · have hfile : t.isFile q = true := by simpa [hqp] using hq
      have habove : isAbove q (pathComponents path) = false := by
        cases ha : isAbove q (pathComponents path)
        · rfl
        · have := hwr.no_file_above q ha
          simp [hfile] at this
      simp [hw.leaf q hfile, habove]

theorem WellFormed.write {t t' : Project} {path c : String} (hw : t.WellFormed)
    (h : t.write path c = .ok t') : t'.WellFormed :=
  hw.updated (write_eq_ok h).1 (write_eq_ok h).2

/-- The empty project is well formed: only the root is there. -/
theorem WellFormed.empty : WellFormed {} where
  plain q hq := by
    rcases present_iff.mp hq with hf | hd
    · simp [isFile, file?] at hf
    · rcases isDir_iff.mp hd with rfl | hd | ⟨r, hr, -⟩
      · simp
      · simp at hd
      · simp [paths] at hr
  leaf q hq := by simp [isFile, file?] at hq

/-- In a well-formed project a file that exists can always be written again. -/
theorem WellFormed.writable_of_isFile {t : Project} {p : List String} (hw : t.WellFormed)
    (hp : t.isFile p = true) : t.Writable p where
  ne_nil := by
    rintro rfl
    have := hw.leaf [] hp
    simp [isDir_nil] at this
  no_file_above q hq := by
    cases hf : t.isFile q
    · rfl
    · have := hw.leaf q hf
      simp [isDir_of_isAbove (mem_paths_of_isFile hp) hq] at this
  not_dir := hw.leaf p hp

/-! ### Directory entries -/

/-- A path strictly below `d` whose component after `d` is `n`: `d ++ [n]` lies at or above
it. -/
theorem append_singleton_prefix {d q : List String} {n : String} (hd : d <+: q)
    (hn : q[d.length]? = some n) : d ++ [n] <+: q := by
  obtain ⟨u, rfl⟩ := hd
  cases u with
  | nil => simp at hn
  | cons x rest =>
    simp only [List.getElem?_append_right (Nat.le_refl _), Nat.sub_self, List.getElem?_cons_zero,
      Option.some.injEq] at hn
    subst hn
    exact ⟨rest, by simp⟩

theorem isAbove_of_append_isPrefix {d q : List String} {n : String} (h : d ++ [n] <+: q) :
    isAbove d q = true := by
  rw [isAbove_iff]
  refine ⟨(List.prefix_append d [n]).trans h, ?_⟩
  have := h.length_le
  simp only [List.length_append, List.length_singleton] at this
  omega

/-- A path below a directory is present exactly when a stored path lies at or below it. -/
theorem present_append_singleton_iff {t : Project} {d : List String} {n : String} :
    t.present (d ++ [n]) = true ↔ ∃ q ∈ t.paths, d ++ [n] <+: q := by
  constructor
  · intro h
    rcases present_iff.mp h with hf | hd
    · exact ⟨d ++ [n], mem_paths_of_isFile hf, List.prefix_refl _⟩
    · rcases isDir_iff.mp hd with he | hd | ⟨q, hq, ha⟩
      · simp at he
      · exact ⟨d ++ [n], List.mem_append_right _ hd, List.prefix_refl _⟩
      · exact ⟨q, hq, (isAbove_iff.mp ha).1⟩
  · rintro ⟨q, hq, hpre⟩
    rw [present_iff]
    by_cases heq : d ++ [n] = q
    · subst heq
      rcases List.mem_append.mp hq with hf | hd
      · exact .inl (isFile_iff.mpr hf)
      · exact .inr (isDir_iff.mpr (.inr (.inl hd)))
    · exact .inr (isDir_of_isAbove hq (isAbove_iff_prefix_ne.mpr ⟨hpre, heq⟩))

/-- The names one step below `d` on a list of paths are those of the paths at or below them. -/
theorem mem_filterMap_child {d : List String} {n : String} {qs : List (List String)} :
    n ∈ qs.filterMap (fun q => if d.isPrefixOf q && decide (d.length < q.length) then
      q[d.length]? else none) ↔ ∃ q ∈ qs, d ++ [n] <+: q := by
  rw [List.mem_filterMap]
  constructor
  · rintro ⟨q, hq, hqn⟩
    split at hqn
    · rename_i hcond
      simp only [Bool.and_eq_true, List.isPrefixOf_iff_prefix, decide_eq_true_eq] at hcond
      exact ⟨q, hq, append_singleton_prefix hcond.1 hqn⟩
    · simp at hqn
  · rintro ⟨q, hq, hpre⟩
    obtain ⟨hpre', hlen⟩ := isAbove_iff.mp (isAbove_of_append_isPrefix hpre)
    have hcond : (d.isPrefixOf q && decide (d.length < q.length)) = true := by
      simp [List.isPrefixOf_iff_prefix, hpre', hlen]
    refine ⟨q, hq, ?_⟩
    rw [if_pos hcond]
    obtain ⟨u, rfl⟩ := hpre
    simp

/-- The entries of a directory are the names whose paths are present under it. -/
theorem mem_entries_iff {t : Project} {d : List String} {n : String} :
    n ∈ t.entries d ↔ t.present (d ++ [n]) = true := by
  unfold entries
  rw [present_append_singleton_iff]
  by_cases hdir : t.isDir d = true
  · simp only [hdir, Bool.not_true, Bool.false_eq_true, if_false, List.mem_eraseDups]
    exact mem_filterMap_child
  · -- no entries, and a stored path below `d ++ [n]` would make `d` a directory
    simp only [hdir, Bool.not_false, if_true, List.not_mem_nil, false_iff]
    rintro ⟨q, hq, hpre⟩
    exact hdir (isDir_of_isAbove hq (isAbove_of_append_isPrefix hpre))

end Project

end CrudScaffold
