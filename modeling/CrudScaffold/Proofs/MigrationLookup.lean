import Mathlib
import CrudScaffold.Generator
import CrudScaffold.Proofs.ProjectTree

/-! Finding the migration that stands for a new one. A migration path is looked up by its
directory and by the part of its name after the stamp; the lookup answers with the least
entry of that directory that is a stamp followed by that part. So its answer depends only on
which paths are present, and it answers whenever such an entry exists. -/

namespace CrudScaffold

/-- The directory and the name after the stamp that a migration path is looked up by; none
when the name is too short to hold a stamp. -/
def migrationKey (path : String) : Option (List String × List Char) :=
  match (pathComponents path).getLast? with
  | none => none
  | some name =>
    if name.length < stampShape.length then none
    else some ((pathComponents path).dropLast, name.toList.drop stampShape.length)

/-- An entry of `dir` that is a stamp followed by `suffix`. -/
def Project.StampedEntry (t : Project) (dir : List String) (suffix : List Char) (n : String) :
    Prop :=
  t.present (dir ++ [n]) = true ∧ stampedWith suffix n = true

/-- The head of a list sorted by `≤` is its least element. -/
theorem head?_mergeSort_eq_some {l : List String} {n : String}
    (h : (l.mergeSort fun a b => decide (a ≤ b)).head? = some n) : n ∈ l ∧ ∀ m ∈ l, n ≤ m := by
  have hsorted := @List.pairwise_mergeSort String (fun a b => decide (a ≤ b))
    (fun _ _ _ h₁ h₂ => by simpa using String.le_trans (by simpa using h₁) (by simpa using h₂))
    (fun a b => by simpa using String.le_total a b) l
  obtain ⟨rest, hrest⟩ := List.head?_eq_some_iff.mp h
  rw [hrest] at hsorted
  have hmem : ∀ m, m ∈ l ↔ m ∈ n :: rest := fun m => by rw [← hrest, List.mem_mergeSort]
  refine ⟨(hmem n).mpr List.mem_cons_self, fun m hm => ?_⟩
  rcases List.mem_cons.mp ((hmem m).mp hm) with rfl | hm'
  · exact String.le_refl _
  · simpa using List.rel_of_pairwise_cons hsorted hm'

theorem existingMigration_eq (t : Project) (path : String) :
    t.existingMigration path = (migrationKey path).bind fun (dir, suffix) =>
      ((((t.entries dir).filter (stampedWith suffix)).mergeSort fun a b => decide (a ≤ b)).head?).map
        fun n => "/".intercalate (dir ++ [n]) := by
  unfold Project.existingMigration migrationKey
  dsimp only
  cases (pathComponents path).getLast? with
  | none => rfl
  | some name =>
    dsimp only
    split <;> rfl

theorem existingMigration_eq_some {t : Project} {path r : String}
    (h : t.existingMigration path = some r) :
    ∃ dir suffix n, migrationKey path = some (dir, suffix) ∧ r = "/".intercalate (dir ++ [n]) ∧
      t.StampedEntry dir suffix n ∧ ∀ m, t.StampedEntry dir suffix m → n ≤ m := by
  rw [existingMigration_eq] at h
  cases hk : migrationKey path with
  | none => simp [hk] at h
  | some key =>
    obtain ⟨dir, suffix⟩ := key
    simp only [hk, Option.bind_some, Option.map_eq_some_iff] at h
    obtain ⟨n, hn, rfl⟩ := h
    obtain ⟨hmem, hleast⟩ := head?_mergeSort_eq_some hn
    have hentry : ∀ m, m ∈ (t.entries dir).filter (stampedWith suffix) ↔
        t.StampedEntry dir suffix m := by
      intro m
      simp [Project.StampedEntry, Project.mem_entries_iff]
    exact ⟨dir, suffix, n, rfl, rfl, (hentry n).mp hmem,
      fun m hm => hleast m ((hentry m).mpr hm)⟩

theorem existingMigration_isSome {t : Project} {path : String} {dir : List String}
    {suffix : List Char} {n : String} (hk : migrationKey path = some (dir, suffix))
    (hn : t.StampedEntry dir suffix n) : (t.existingMigration path).isSome := by
  rw [existingMigration_eq, hk]
  have hmem : n ∈ (t.entries dir).filter (stampedWith suffix) := by
    simp only [List.mem_filter, Project.mem_entries_iff]
    exact hn
  have hne : ((t.entries dir).filter (stampedWith suffix)).mergeSort
      (fun a b => decide (a ≤ b)) ≠ [] := by
    intro he
    have : n ∈ ((t.entries dir).filter (stampedWith suffix)).mergeSort
        (fun a b => decide (a ≤ b)) := List.mem_mergeSort.mpr hmem
    rw [he] at this
    simp at this
  cases hh : (((t.entries dir).filter (stampedWith suffix)).mergeSort
      fun a b => decide (a ≤ b)).head? with
  | none => exact absurd (List.head?_eq_none_iff.mp hh) hne
  | some m => simp [hh]

/-- The lookup sees only which paths are present. -/
theorem existingMigration_congr {t t' : Project} (h : ∀ q, t.present q = t'.present q)
    (path : String) : t.existingMigration path = t'.existingMigration path := by
  cases h1 : t.existingMigration path with
  | none =>
    cases h2 : t'.existingMigration path with
    | none => rfl
    | some r =>
      obtain ⟨dir, suffix, n, hk, -, hn, -⟩ := existingMigration_eq_some h2
      have hn' : t.StampedEntry dir suffix n := ⟨(h _).trans hn.1, hn.2⟩
      have hsome := existingMigration_isSome hk hn'
      rw [h1] at hsome
      simp at hsome
  | some r =>
    obtain ⟨dir, suffix, n, hk, rfl, hn, hleast⟩ := existingMigration_eq_some h1
    have hn' : t'.StampedEntry dir suffix n := ⟨(h _).symm.trans hn.1, hn.2⟩
    obtain ⟨r', hr'⟩ := Option.isSome_iff_exists.mp (existingMigration_isSome hk hn')
    obtain ⟨dir', suffix', n', hk', rfl, hn'', hleast'⟩ := existingMigration_eq_some hr'
    rw [hk] at hk'
    obtain ⟨rfl, rfl⟩ := Prod.mk.inj (Option.some.inj hk')
    have hle : n ≤ n' := hleast n' ⟨(h _).trans hn''.1, hn''.2⟩
    have hge : n' ≤ n := hleast' n hn'
    rw [hr', String.le_antisymm hle hge]

/-! ### Stamps -/

theorem fitsShape_replicate_none_append {cs : List Char} {k : Nat} (h : cs.length = k)
    (ps : List (Option Char)) (ds : List Char) :
    fitsShape (List.replicate k none ++ ps) (cs ++ ds) = fitsShape ps ds := by
  induction cs generalizing k with
  | nil => subst h; rfl
  | cons c rest ih =>
    subst h
    simp only [List.length_cons, List.replicate_succ, List.cons_append, fitsShape]
    exact ih rfl

theorem fitsShape_some_cons (c : Char) (ps : List (Option Char)) (ds : List Char) :
    fitsShape (some c :: ps) (c :: ds) = fitsShape ps ds := by
  simp [fitsShape]

/-- A name of the stamp shape has an underscore after its first four characters. -/
theorem underscore_of_fitsShape {cs : List Char} (h : fitsShape stampShape cs = true) :
    cs[4]? = some '_' := by
  match cs, h with
  | _ :: _ :: _ :: _ :: c :: _, h =>
    simp only [stampShape, List.replicate, List.cons_append, List.nil_append, fitsShape,
      Bool.and_eq_true, beq_iff_eq] at h
    simp [h.1]

theorem stampedWith_iff {suffix : List Char} {n : String} :
    stampedWith suffix n = true ↔
      fitsShape stampShape n.toList = true ∧ n.toList.drop stampShape.length = suffix := by
  simp [stampedWith]

theorem Moment.length_padded {w n : Nat} (hw : 0 < w) (h : n < 10 ^ w) :
    (Moment.padded w n).toList.length = w := by
  have hlen : (toString n).length ≤ w := by
    rw [Nat.toString_eq_repr]
    exact (Nat.length_repr_le_iff hw).mpr h
  simp only [Moment.padded, String.toList_append, String.toList_ofList, List.length_append,
    List.length_replicate, String.length_toList]
  omega

/-- The parts of a moment that file names write with their own width: a year from 0 to 9999
and every other part below 100, as every moment of the calendar in those years has. -/
def Moment.PlainStamp (m : Moment) : Prop :=
  0 ≤ m.year ∧ m.year ≤ 9999 ∧ m.month < 100 ∧ m.day < 100 ∧ m.hour < 100 ∧ m.minute < 100 ∧
    m.second < 100

/-- A plain stamp, an underscore and a rest is found by the lookup for that rest. -/
theorem Moment.stampedWith_stamp {m : Moment} (h : m.PlainStamp) (rest : String) :
    stampedWith rest.toList (m.stamp ++ "_" ++ rest) = true := by
  obtain ⟨hy0, hy, hmo, hd, hh, hmi, hs⟩ := h
  have hyear : (Moment.yearText m.year).toList.length = 4 := by
    simp only [Moment.yearText, hy0, hy, decide_true, Bool.and_self, if_true]
    exact Moment.length_padded (by decide) (by omega)
  have two : ∀ {n}, n < 100 → (Moment.padded 2 n).toList.length = 2 :=
    fun hn => Moment.length_padded (by decide) (by simpa using hn)
  have hcs : (m.stamp ++ "_" ++ rest).toList =
      (Moment.yearText m.year).toList ++ '_' :: (Moment.padded 2 m.month).toList ++
        '_' :: (Moment.padded 2 m.day).toList ++ '_' ::
        ((Moment.padded 2 m.hour).toList ++ (Moment.padded 2 m.minute).toList ++
          (Moment.padded 2 m.second).toList) ++ '_' :: rest.toList := by
    simp [Moment.stamp]
  rw [stampedWith_iff, hcs]
  constructor
  · simp only [stampShape, List.append_assoc, List.cons_append, List.nil_append]
    rw [fitsShape_replicate_none_append hyear, fitsShape_some_cons,
      fitsShape_replicate_none_append (two hmo), fitsShape_some_cons,
      fitsShape_replicate_none_append (two hd), fitsShape_some_cons,
      ← List.append_assoc, ← List.append_assoc,
      fitsShape_replicate_none_append (by simp [two hh, two hmi, two hs]), fitsShape_some_cons]
    rfl
  · have hlen : ((Moment.yearText m.year).toList ++ '_' :: (Moment.padded 2 m.month).toList ++
        '_' :: (Moment.padded 2 m.day).toList ++ '_' ::
        ((Moment.padded 2 m.hour).toList ++ (Moment.padded 2 m.minute).toList ++
          (Moment.padded 2 m.second).toList) ++ ['_']).length = stampShape.length := by
      simp [stampShape, hyear, two hmo, two hd, two hh, two hmi, two hs]
    rw [← hlen]
    simp

end CrudScaffold
