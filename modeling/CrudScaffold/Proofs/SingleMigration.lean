import CrudScaffold.Proofs.Runs
import CrudScaffold.Proofs.Artifacts

/-! One migration per table. A migration's file name is a stamp followed by a suffix naming
its table, and before writing one the generator looks in its directory for a file of that
suffix under any stamp. So the writes of a run never put a second file of one suffix into a
directory: a migration goes where the lookup found the earlier one, or the lookup found none;
every other file has a name that no stamp starts. Whatever runs follow, with any requests,
clocks and overwriting, each directory keeps at most one migration per table.

Only names of the stamp's shape count: a name whose first 18 characters are not a stamp is
not found by the lookup, and a migration for its table is made beside it. -/

namespace CrudScaffold

namespace Project

/-- In `dir`, no two files are a stamp followed by the same suffix. -/
def StampsUnique (t : Project) (dir : List String) : Prop :=
  ∀ ⦃suffix : List Char⦄ ⦃n m : String⦄, t.isFile (dir ++ [n]) = true →
    stampedWith suffix n = true → t.isFile (dir ++ [m]) = true → stampedWith suffix m = true →
    n = m

/-- Writing a file at `p` adds no second file of a suffix: `p` is a file already, or no file
beside it is stamped with the suffix of its name. -/
def StampFresh (t : Project) (p : List String) : Prop :=
  t.isFile p = true ∨ ∀ dir x suffix, p = dir ++ [x] → stampedWith suffix x = true →
    ∀ m, t.isFile (dir ++ [m]) = true → stampedWith suffix m = false

theorem StampFresh.isFile {t : Project} {dir : List String} {n m : String}
    {suffix : List Char} (hf : t.StampFresh (dir ++ [n])) (hsn : stampedWith suffix n = true)
    (hm : t.isFile (dir ++ [m]) = true) (hsm : stampedWith suffix m = true) :
    t.isFile (dir ++ [n]) = true := by
  rcases hf with hp | hfresh
  · exact hp
  · rw [hfresh dir n suffix rfl hsn m hm] at hsm
    cases hsm

/-- A fresh write keeps the files of each suffix unique. -/
theorem StampsUnique.updated {t t' : Project} {dir p : List String} {c : String}
    (hu : t.StampsUnique dir) (hf : t.StampFresh p) (h : Updated t t' p c) :
    t'.StampsUnique dir := by
  intro suffix n m hn hsn hm hsm
  rw [h.isFile, Bool.or_eq_true, decide_eq_true_iff] at hn hm
  rcases hn with hn | rfl <;> rcases hm with hm | hm
  · exact hu hn hsn hm hsm
  · subst hm
    exact hu hn hsn (hf.isFile hsm hn hsn) hsm
  · exact hu (hf.isFile hsn hm hsm) hsn hm hsm
  · exact (List.singleton_inj.mp (List.append_cancel_left hm)).symm

end Project

/-- The lookup key of a path whose name is long enough for a stamp. -/
theorem migrationKey_of_length {path : String} {dir : List String} {x : String}
    (hp : pathComponents path = dir ++ [x]) (hx : stampShape.length ≤ x.length) :
    migrationKey path = some (dir, x.toList.drop stampShape.length) := by
  simp only [migrationKey, hp, List.getLast?_concat, List.dropLast_concat,
    if_neg (Nat.not_lt.mpr hx)]

/-- The directory and suffix a stamped name is looked up by. -/
theorem migrationKey_of_stamped {path : String} {dir : List String} {x : String}
    {suffix : List Char} (hp : pathComponents path = dir ++ [x])
    (hx : stampedWith suffix x = true) : migrationKey path = some (dir, suffix) := by
  obtain ⟨hshape, hdrop⟩ := stampedWith_iff.mp hx
  have hlen : stampShape.length ≤ x.length := by
    rw [← String.length_toList]
    exact length_le_of_fitsShape hshape
  rw [migrationKey_of_length hp hlen, hdrop]

theorem Generator.target_migration {t : Project} {a : Artifact} (hm : a.mode = .create) :
    target t .migration a = (t.existingMigration a.path).getD a.path := by
  simp [target, hm]

theorem Generator.target_of_ne {t : Project} {kind : ArtifactKind} {a : Artifact}
    (hk : kind ≠ .migration) : target t kind a = a.path := by
  unfold target
  split <;> simp [hk]

end CrudScaffold
