import Mathlib
import CrudScaffold.Proofs.Runs

/-! What a run leaves when a kind fails. A kind renders all its artifacts before it writes
any, then writes them one after another and stops at the first write that fails; a failed
write leaves the project as it was. The report of the kind lists the files written before the
failure, and the next kind starts from the project those writes left. So the files of a whole
report are exactly the writes made, in order: `HandledInOrder` is such a chain of writes.

Main statement: `failed_kind_leaves_what_it_reports`. -/

namespace CrudScaffold

/-- Tagged artifacts handled one after another from `t`: each write succeeds and records its
file, the next starting from the project it leaves, up to `t'`. -/
inductive HandledInOrder (force : Bool) :
    Project → List (ArtifactKind × Artifact) → List GeneratedFile → Project → Prop
  | nil (t : Project) : HandledInOrder force t [] [] t
  | cons {t t₁ t' : Project} {kind : ArtifactKind} {a : Artifact} {f : GeneratedFile}
      {rest : List (ArtifactKind × Artifact)} {files : List GeneratedFile} :
      Generator.writeArtifact t kind a force = .ok (t₁, f) →
      HandledInOrder force t₁ rest files t' →
      HandledInOrder force t ((kind, a) :: rest) (f :: files) t'

namespace HandledInOrder

variable {force : Bool}

theorem append {t t₁ t₂ : Project} {ws ws' : List (ArtifactKind × Artifact)}
    {fs fs' : List GeneratedFile} (h : HandledInOrder force t ws fs t₁)
    (h' : HandledInOrder force t₁ ws' fs' t₂) : HandledInOrder force t (ws ++ ws') (fs ++ fs') t₂ := by
  induction h with
  | nil => exact h'
  | cons hw _ ih => exact .cons hw (ih h')

end HandledInOrder

/-- Writing one kind's artifacts stops at the first write that fails: every artifact is
handled, or the first `i` are and the next fails, and the outcome records the files handled
after those recorded before. -/
theorem writeArtifacts_spec (kind : ArtifactKind) (force : Bool) :
    ∀ (as : List Artifact) (t : Project) (done : List GeneratedFile),
      (∃ fs t', HandledInOrder force t (as.map (kind, ·)) fs t' ∧
        Generator.writeArtifacts kind force t as done = (t', .succeeded (done ++ fs))) ∨
      ∃ i, ∃ hi : i < as.length, ∃ fs t' e,
        HandledInOrder force t ((as.take i).map (kind, ·)) fs t' ∧
        Generator.writeArtifact t' kind as[i] force = .error e ∧
        Generator.writeArtifacts kind force t as done = (t', .failed e.message (done ++ fs))
  | [], t, done => .inl ⟨[], t, .nil t, by simp [Generator.writeArtifacts]⟩
  | a :: rest, t, done => by
    cases hw : Generator.writeArtifact t kind a force with
    | error e =>
      refine .inr ⟨0, by simp, [], t, e, .nil t, hw, ?_⟩
      simp [Generator.writeArtifacts, hw]
    | ok res =>
      obtain ⟨t₁, f⟩ := res
      have hstep : Generator.writeArtifacts kind force t (a :: rest) done =
          Generator.writeArtifacts kind force t₁ rest (done ++ [f]) := by
        simp [Generator.writeArtifacts, hw]
      rw [hstep]
      rcases writeArtifacts_spec kind force rest t₁ (done ++ [f]) with
        ⟨fs, t', hh, hrest⟩ | ⟨i, hi, fs, t', e, hh, he, hrest⟩
      · exact .inl ⟨f :: fs, t', .cons hw hh, by simpa using hrest⟩
      · exact .inr ⟨i + 1, by simpa using hi, f :: fs, t', e, .cons hw hh, by simpa using he,
          by simpa using hrest⟩

/-- What running a kind from `t` may leave, given what rendering it gave: a rendering error
other than an overflowing clock fails the kind with no files and the project as it was; an
overflowing clock stops the whole run; rendered artifacts are handled in order up to the
first write that fails, which fails the kind with the files handled before it. -/
def KindRan (force : Bool) (t : Project) (kind : ArtifactKind) :
    Except ScaffoldError (List Artifact) → Except ScaffoldError (Project × KindOutcome) → Prop
  | .error e, res => res = if e = .clockOverflow then .error e else .ok (t, .failed e.message [])
  | .ok as, res =>
    (∃ fs t', HandledInOrder force t (as.map (kind, ·)) fs t' ∧ res = .ok (t', .succeeded fs)) ∨
      ∃ i, ∃ hi : i < as.length, ∃ fs t' e,
        HandledInOrder force t ((as.take i).map (kind, ·)) fs t' ∧
        Generator.writeArtifact t' kind as[i] force = .error e ∧
        res = .ok (t', .failed e.message fs)

namespace Generator

variable {g : Generator} {t : Project} {kind : ArtifactKind} {r : Request}

/-- A kind is rendered in full from the project as it is before any of its writes, then
written as `KindRan` says. -/
theorem runKind_ran (g : Generator) (t : Project) (kind : ArtifactKind) (r : Request) :
    KindRan r.forceOverwrite t kind (kind.render (g.context t r)) (g.runKind t kind r) := by
  cases hr : kind.render (g.context t r) with
  | error e =>
    unfold context at hr
    by_cases he : e = .clockOverflow
    · subst he
      simp [KindRan, runKind, hr]
    · simp only [KindRan, runKind, hr, if_neg he]
  | ok as =>
    have hrun : g.runKind t kind r = .ok (writeArtifacts kind r.forceOverwrite t as []) := by
      unfold context at hr
      simp only [runKind, hr]
    rw [hrun]
    rcases writeArtifacts_spec kind r.forceOverwrite as t [] with
      ⟨fs, t', hh, hw⟩ | ⟨i, hi, fs, t', e, hh, he, hw⟩
    · exact .inl ⟨fs, t', hh, by rw [hw, List.nil_append]⟩
    · exact .inr ⟨i, hi, fs, t', e, hh, he, by rw [hw, List.nil_append]⟩

/-- A kind that ran reports an outcome other than skipped, and its files are those of a chain
of writes from where it started to where it left the project. -/
theorem runKind_handled {t' : Project} {o : KindOutcome} (h : g.runKind t kind r = .ok (t', o)) :
    o ≠ .skipped ∧ ∃ ws, HandledInOrder r.forceOverwrite t ws o.files t' := by
  have hran := runKind_ran g t kind r
  rw [h] at hran
  cases hr : kind.render (g.context t r) with
  | error e =>
    rw [hr] at hran
    by_cases he : e = .clockOverflow
    · simp [KindRan, he] at hran
    · simp only [KindRan, if_neg he, Except.ok.injEq, Prod.mk.injEq] at hran
      obtain ⟨rfl, rfl⟩ := hran
      exact ⟨by simp, [], .nil _⟩
  | ok as =>
    rw [hr] at hran
    rcases hran with ⟨fs, t'', hh, hres⟩ | ⟨i, hi, fs, t'', e, hh, -, hres⟩
    · obtain ⟨rfl, rfl⟩ := Prod.mk.inj (Except.ok.inj hres)
      exact ⟨by simp, _, hh⟩
    · obtain ⟨rfl, rfl⟩ := Prod.mk.inj (Except.ok.inj hres)
      exact ⟨by simp, _, hh⟩

/-- Only an overflowing clock stops a kind's run. -/
theorem runKind_error {e : ScaffoldError} (h : g.runKind t kind r = .error e) :
    e = .clockOverflow := by
  have hran := runKind_ran g t kind r
  rw [h] at hran
  cases hr : kind.render (g.context t r) with
  | error e' =>
    rw [hr] at hran
    by_cases he : e' = .clockOverflow
    · simp only [KindRan, if_pos he, Except.error.injEq] at hran
      rw [hran, he]
    · simp [KindRan, if_neg he] at hran
  | ok as =>
    rw [hr] at hran
    rcases hran with ⟨fs, t', hh, hres⟩ | ⟨i, hi, fs, t', e', hh, he, hres⟩
    · cases hres
    · cases hres

/-- The kinds run after `acc` add one outcome per kind, skipped exactly when the request does
not make the kind, and the files of the outcomes added are those of a chain of writes from
the project of `acc` to the project reached. -/
theorem kindSteps_handled (g : Generator) (r : Request) :
    ∀ (kinds : List ArtifactKind) {acc res : Project × List (ArtifactKind × KindOutcome)},
      kinds.foldlM (g.kindStep r) acc = .ok res →
      ∃ added, res.2 = acc.2 ++ added ∧ added.map Prod.fst = kinds ∧
        (∀ p ∈ added, p.2 = .skipped ↔ r.shouldGenerate g.config p.1 = false) ∧
        ∃ ws, HandledInOrder r.forceOverwrite acc.1 ws (added.flatMap (·.2.files)) res.1
  | [], acc, res, h => by
    cases h
    exact ⟨[], by simp, rfl, by simp, [], .nil _⟩
  | kind :: kinds, acc, res, h => by
    rw [List.foldlM_cons] at h
    cases hs : g.kindStep r acc kind with
    | error e =>
      rw [hs] at h
      cases h
    | ok acc₁ =>
      rw [hs] at h
      obtain ⟨added, hres, hkinds, hskip, ws, hh⟩ := kindSteps_handled g r kinds h
      -- the step adds one outcome, whose files are written from the project before it
      have hstep : ∃ o t₁ ws₁, acc₁ = (t₁, acc.2 ++ [(kind, o)]) ∧
          (o = .skipped ↔ r.shouldGenerate g.config kind = false) ∧
          HandledInOrder r.forceOverwrite acc.1 ws₁ o.files t₁ := by
        unfold kindStep at hs
        split at hs
        · rename_i hgen
          obtain ⟨⟨t₁, o⟩, hrun, rfl⟩ := Except.map_eq_ok hs
          obtain ⟨hne, ws₁, hh₁⟩ := runKind_handled hrun
          exact ⟨o, t₁, ws₁, rfl, by simp [hne, hgen], hh₁⟩
        · rename_i hgen
          cases hs
          exact ⟨.skipped, acc.1, [], rfl, by simpa using hgen, .nil _⟩
      obtain ⟨o, t₁, ws₁, rfl, ho, hh₁⟩ := hstep
      refine ⟨(kind, o) :: added, by simp [hres], by simp [hkinds], ?_, ws₁ ++ ws, ?_⟩
      · intro p hp
        rcases List.mem_cons.mp hp with rfl | hp
        · exact ho
        · exact hskip p hp
      · simpa using hh₁.append hh

/-- The kinds run after `acc` stop only on an overflowing clock. -/
theorem kindSteps_error (g : Generator) (r : Request) :
    ∀ (kinds : List ArtifactKind) {acc : Project × List (ArtifactKind × KindOutcome)}
      {e : ScaffoldError}, kinds.foldlM (g.kindStep r) acc = .error e → e = .clockOverflow
  | [], acc, e, h => by cases h
  | kind :: kinds, acc, e, h => by
    rw [List.foldlM_cons] at h
    cases hs : g.kindStep r acc kind with
    | error e' =>
      rw [hs] at h
      cases h
      unfold kindStep at hs
      split at hs
      · cases hrun : g.runKind acc.1 kind r with
        | error e'' =>
          rw [hrun] at hs
          cases hs
          exact runKind_error hrun
        | ok res => rw [hrun] at hs; cases hs
      · cases hs
    | ok acc₁ =>
      rw [hs] at h
      exact kindSteps_error g r kinds h

end Generator

/-- A kind renders all its artifacts from the project as it is before any of them is written,
then writes them in order: a rendering failure leaves the project as it was and reports no
file, and a write that fails stops the kind, which reports exactly the files written before
it, the project being as those writes left it. The next kind starts from there, so the files
of a report are the writes made, in order, from the first project to the last, every kind
reported, skipped exactly when the request does not make it. Only an overflowing clock stops
the whole run. -/
theorem failed_kind_leaves_what_it_reports (g : Generator) (t : Project) (r : Request) :
    (∀ kind, KindRan r.forceOverwrite t kind (kind.render (g.context t r)) (g.runKind t kind r)) ∧
      (∀ t' rep, g.generate t r = .ok (t', rep) →
        rep.outcomes.map Prod.fst = ArtifactKind.all ∧
        (∀ p ∈ rep.outcomes, p.2 = .skipped ↔ r.shouldGenerate g.config p.1 = false) ∧
        ∃ ws, HandledInOrder r.forceOverwrite t ws rep.files t') ∧
      ∀ e, g.generate t r = .error e → e = .clockOverflow := by
  refine ⟨fun kind => Generator.runKind_ran g t kind r, fun t' rep h => ?_, fun e h => ?_⟩
  · rw [Generator.generate_eq] at h
    obtain ⟨⟨s, outcomes⟩, hfold, hs⟩ := Except.map_eq_ok h
    obtain ⟨rfl, rfl⟩ := Prod.mk.inj hs
    obtain ⟨added, hres, hkinds, hskip, ws, hh⟩ := Generator.kindSteps_handled g r _ hfold
    simp only [List.nil_append] at hres
    subst hres
    exact ⟨hkinds, hskip, ws, hh⟩
  · rw [Generator.generate_eq] at h
    cases hfold : ArtifactKind.all.foldlM (g.kindStep r) (t, []) with
    | error e' =>
      rw [hfold] at h
      cases h
      exact Generator.kindSteps_error g r _ hfold
    | ok res =>
      rw [hfold] at h
      cases h

end CrudScaffold
