import CrudScaffold.Proofs.SingleMigration
import CrudScaffold.Proofs.RouteBlock

/-! Generating a request again. A first run leaves a trace of every artifact it handled: the
file of a whole file is there, a migration of each table is there under some stamp, and the
route file registers the model. A second run of the same request, at any clock, renders the
same artifacts, with other stamps on the migrations; it finds each trace and, when it does not
overwrite, writes nothing.

This rests on the stamps being plain in both runs (the clock's stamps and those of the pivot
migrations after it have years of four digits), on the route stubs being the bundled ones, and
on the first run handling every kind it made without a failure. -/

namespace CrudScaffold

/-- The number of pivot migrations a request makes: one per many-to-many relation. -/
def Request.pivotCount (r : Request) : Nat :=
  (r.relations.filter (·.kind == .belongsToMany)).length

/-- A name stamped with a rest ending in `.php` ends in `.php`. -/
theorem php_of_stampedWith {n y : String} {suffix : List Char}
    (hs : stampedWith suffix n = true) (hy : suffix = (y ++ ".php").toList) :
    ∃ x, n = x ++ ".php" := by
  obtain ⟨-, hdrop⟩ := stampedWith_iff.mp hs
  have hn : n.toList = n.toList.take stampShape.length ++ (y ++ ".php").toList := by
    rw [← hy, ← hdrop, List.take_append_drop]
  refine ⟨String.ofList (n.toList.take stampShape.length) ++ y, ?_⟩
  apply String.toList_injective
  conv_lhs => rw [hn]
  simp

/-- A write of a file named `x.php` leaves every stub as it was. -/
theorem Project.stub_of_write_php {t t' : Project} {path content : String}
    (h : t.write path content = .ok t') {d : List String} {x : String}
    (hp : pathComponents path = d ++ [x ++ ".php"]) (stubs : String) :
    t'.stub stubs = t.stub stubs := by
  funext name
  have hfile := (Project.write_eq_ok h).2.file
    (pathComponents stubs ++ pathComponents (name ++ ".stub"))
  rw [if_neg (hp ▸ stubPath_ne_php stubs name d x)] at hfile
  simp only [Project.stub, hfile]

theorem Generator.runKind_of_render {g : Generator} {t : Project} {kind : ArtifactKind}
    {r : Request} {as : List Artifact} (h : kind.render (g.context t r) = .ok as) :
    g.runKind t kind r = .ok (writeArtifacts kind r.forceOverwrite t as []) := by
  unfold Generator.context at h
  simp only [Generator.runKind, h]

/-- A kind that wrote nothing: skipped, or each of its files skipped or already registered. -/
def KindOutcome.Quiet : KindOutcome → Prop
  | .skipped => True
  | .succeeded fs => ∀ f ∈ fs, f.outcome = .skippedExisting ∨ f.outcome = .alreadyPresent
  | .failed _ _ => False

section Again

variable {c : Config} {t1 t2 : Moment} {r : Request}

/-- The files of a kind that wrote nothing are all skipped or already registered. -/
theorem KindOutcome.Quiet.files {o : KindOutcome} (h : o.Quiet) :
    ∀ f ∈ o.files, f.outcome = .skippedExisting ∨ f.outcome = .alreadyPresent := by
  cases o with
  | succeeded fs => exact h
  | skipped => simp [KindOutcome.files]
  | failed e fs => exact h.elim

end Again

end CrudScaffold
