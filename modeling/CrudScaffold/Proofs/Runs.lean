import Mathlib
import CrudScaffold.Generator
import CrudScaffold.Proofs.ProjectTree

/-! What a run of the generator does to the project. Each artifact is handled by at most one
write: a whole file where nothing is (anywhere, when forced), a fragment appended unless its
file holds the marker. A run is a chain of such writes, kind after kind, so a property of
projects that every write of a rendered artifact keeps is kept by every run and by every
sequence of runs. -/

namespace CrudScaffold

namespace Project

theorem writeUnlessPresent_eq_ok {t t' : Project} {path content : String} {force : Bool}
    {o : FileOutcome} (h : t.writeUnlessPresent path content force = .ok (t', o)) :
    (t.present (pathComponents path) = true ∧ force = false ∧ t' = t ∧ o = .skippedExisting) ∨
      (t.write path content = .ok t' ∧
        o = if t.present (pathComponents path) then .overwritten else .written) := by
  unfold writeUnlessPresent at h
  dsimp only at h
  by_cases hskip : (t.present (pathComponents path) && !force) = true
  · rw [if_pos hskip] at h
    obtain ⟨rfl, rfl⟩ := Prod.mk.inj (Except.ok.inj h)
    simp only [Bool.and_eq_true, Bool.not_eq_true'] at hskip
    exact .inl ⟨hskip.1, hskip.2, rfl, rfl⟩
  · rw [if_neg hskip] at h
    cases hw : t.write path content with
    | error e => rw [hw] at h; cases h
    | ok s =>
      rw [hw] at h
      obtain ⟨rfl, rfl⟩ := Prod.mk.inj (Except.ok.inj h)
      exact .inr ⟨rfl, rfl⟩

theorem read?_eq_ok {t : Project} {path : String} {current : Option String}
    (h : t.read? path = .ok current) : current = t.file? (pathComponents path) := by
  unfold read? at h
  dsimp only at h
  cases hf : t.file? (pathComponents path) with
  | some c =>
    rw [hf] at h
    exact (Except.ok.inj h).symm
  | none =>
    simp only [hf] at h
    split at h
    · cases h
    · exact (Except.ok.inj h).symm

/-- The text an append reads: the file's content, or the preamble for a missing file. -/
def appendBase (t : Project) (path : String) (preamble : Option String) : String :=
  (t.file? (pathComponents path)).getD (preamble.getD "")

theorem appendUnlessPresent_eq_ok {t t' : Project} {path marker content : String}
    {preamble : Option String} {o : FileOutcome}
    (h : t.appendUnlessPresent path marker content preamble = .ok (t', o)) :
    (∃ current, t.read? path = .ok current) ∧
      ((Text.contains (t.appendBase path preamble) marker = true ∧ t' = t ∧
          o = .alreadyPresent) ∨
        (Text.contains (t.appendBase path preamble) marker = false ∧
          t.write path (t.appendBase path preamble ++ content) = .ok t' ∧ o = .appended)) := by
  unfold appendUnlessPresent at h
  cases hr : t.read? path with
  | error e => rw [hr] at h; cases h
  | ok current =>
    refine ⟨⟨current, rfl⟩, ?_⟩
    rw [hr] at h
    dsimp only at h
    have hbase : current.getD (preamble.getD "") = t.appendBase path preamble := by
      rw [read?_eq_ok hr, appendBase]
    rw [hbase] at h
    cases hc : Text.contains (t.appendBase path preamble) marker with
    | true =>
      rw [if_pos hc] at h
      obtain ⟨rfl, rfl⟩ := Prod.mk.inj (Except.ok.inj h)
      exact .inl ⟨rfl, rfl, rfl⟩
    | false =>
      simp only [hc, Bool.false_eq_true, if_false] at h
      cases hw : t.write path (t.appendBase path preamble ++ content) with
      | error e => rw [hw] at h; cases h
      | ok s =>
        rw [hw] at h
        obtain ⟨rfl, rfl⟩ := Prod.mk.inj (Except.ok.inj h)
        exact .inr ⟨rfl, rfl, rfl⟩

end Project

namespace Generator

/-- Where an artifact is written: a migration where an earlier migration of its table is, if
there is one; any other artifact at its own path. -/
def target (t : Project) (kind : ArtifactKind) (a : Artifact) : String :=
  match a.mode with
  | .create => if kind = .migration then (t.existingMigration a.path).getD a.path else a.path
  | .appendUnlessPresent _ _ => a.path

/-- Handling an artifact writes its target once or not at all. -/
theorem writeArtifact_eq_ok {t t' : Project} {kind : ArtifactKind} {a : Artifact}
    {force : Bool} {f : GeneratedFile} (h : writeArtifact t kind a force = .ok (t', f)) :
    f.path = target t kind a ∧ (t' = t ∨ ∃ c, t.write (target t kind a) c = .ok t') := by
  unfold writeArtifact at h
  unfold target
  cases hm : a.mode with
  | create =>
    rw [hm] at h
    dsimp only at h ⊢
    split at h
    · cases h
    · rename_i s o hw
      obtain ⟨rfl, rfl⟩ := Prod.mk.inj (Except.ok.inj h)
      refine ⟨rfl, ?_⟩
      rcases Project.writeUnlessPresent_eq_ok hw with ⟨-, -, rfl, -⟩ | ⟨hw, -⟩
      · exact .inl rfl
      · exact .inr ⟨_, hw⟩
  | appendUnlessPresent marker preamble =>
    rw [hm] at h
    dsimp only at h ⊢
    split at h
    · cases h
    · rename_i s o hw
      obtain ⟨rfl, rfl⟩ := Prod.mk.inj (Except.ok.inj h)
      refine ⟨rfl, ?_⟩
      rcases (Project.appendUnlessPresent_eq_ok hw).2 with ⟨-, rfl, -⟩ | ⟨-, hw, -⟩
      · exact .inl rfl
      · exact .inr ⟨_, hw⟩

/-- The context a run renders a request in: the generator's configuration and clock, and
the stubs of the project as it is when the kind starts. -/
def context (g : Generator) (t : Project) (r : Request) : RenderContext :=
  RenderContext.make r g.config g.now (t.stub g.config.stubsPath)

theorem runKind_eq_ok {g : Generator} {t t' : Project} {kind : ArtifactKind} {r : Request}
    {o : KindOutcome} (h : g.runKind t kind r = .ok (t', o)) :
    (t' = t ∧ ∃ e, o = .failed e []) ∨
      ∃ as, kind.render (g.context t r) = .ok as ∧
        writeArtifacts kind r.forceOverwrite t as [] = (t', o) := by
  unfold runKind at h
  dsimp only at h
  split at h
  · cases h
  · obtain ⟨rfl, rfl⟩ := Prod.mk.inj (Except.ok.inj h)
    exact .inl ⟨rfl, _, rfl⟩
  · rename_i as hr
    exact .inr ⟨as, hr, Except.ok.inj h⟩

/-- One step of `generate`: the kind is run when the request makes it, else skipped. -/
def kindStep (g : Generator) (r : Request) (acc : Project × List (ArtifactKind × KindOutcome))
    (kind : ArtifactKind) : Except ScaffoldError (Project × List (ArtifactKind × KindOutcome)) :=
  if r.shouldGenerate g.config kind then
    (g.runKind acc.1 kind r).map fun (t, outcome) => (t, acc.2 ++ [(kind, outcome)])
  else .ok (acc.1, acc.2 ++ [(kind, .skipped)])

theorem generate_eq (g : Generator) (t : Project) (r : Request) :
    g.generate t r = (ArtifactKind.all.foldlM (g.kindStep r) (t, [])).map
      fun (t, outcomes) => (t, ⟨r.modelName, outcomes⟩) := rfl

end Generator

/-- A successful `foldlM` in `Except` keeps what each successful step keeps. -/
theorem foldlM_except_invariant {α β ε : Type} {f : β → α → Except ε β} (Q : β → Prop)
    (hf : ∀ b a b', Q b → f b a = .ok b' → Q b') :
    ∀ (l : List α) {b b' : β}, Q b → l.foldlM f b = .ok b' → Q b'
  | [], b, b', hb, h => by
    rw [List.foldlM_nil] at h
    exact Except.ok.inj h ▸ hb
  | a :: l, b, b', hb, h => by
    rw [List.foldlM_cons] at h
    cases hs : f b a with
    | error e => rw [hs] at h; cases h
    | ok c =>
      rw [hs] at h
      exact foldlM_except_invariant Q hf l (hf b a c hb hs) h

theorem Except.map_eq_ok {α β ε : Type} {f : α → β} {x : Except ε α} {b : β}
    (h : x.map f = .ok b) : ∃ a, x = .ok a ∧ f a = b := by
  cases x with
  | error e => cases h
  | ok a => exact ⟨a, rfl, Except.ok.inj h⟩

/-- Every write of an artifact that its kind renders in a context satisfying `Good` keeps
`P`. -/
def KeptByWrites (Good : RenderContext → Prop) (P : Project → Prop) : Prop :=
  ∀ ⦃ctx : RenderContext⦄ ⦃kind : ArtifactKind⦄ ⦃as : List Artifact⦄ ⦃a : Artifact⦄
    ⦃t t' : Project⦄ ⦃f : GeneratedFile⦄ (force : Bool), Good ctx → kind.render ctx = .ok as →
    a ∈ as → P t → Generator.writeArtifact t kind a force = .ok (t', f) → P t'

/-- One write of an artifact that its kind renders in a context satisfying `Good`. -/
def WriteStep (Good : RenderContext → Prop) (t t' : Project) : Prop :=
  ∃ (ctx : RenderContext) (kind : ArtifactKind) (as : List Artifact) (a : Artifact)
    (force : Bool) (f : GeneratedFile), Good ctx ∧ kind.render ctx = .ok as ∧ a ∈ as ∧
      Generator.writeArtifact t kind a force = .ok (t', f)

/-- The projects reached by such writes. -/
abbrev Reaches (Good : RenderContext → Prop) : Project → Project → Prop :=
  Relation.ReflTransGen (WriteStep Good)

/-- One call of the generator: a whole request, or one kind of it, at a moment. -/
inductive GenerationRun where
  | generate (now : Moment) (r : Request)
  | single (now : Moment) (kind : ArtifactKind) (r : Request)

namespace GenerationRun

/-- The project after a run. A run stopped by an error leaves the project as it was, as
`Generator.generateAll` does. -/
def apply (c : Config) (t : Project) : GenerationRun → Project
  | .generate now r =>
    match Generator.generate ⟨c, now⟩ t r with
    | .ok (t', _) => t'
    | .error _ => t
  | .single now kind r =>
    match Generator.generateSingle ⟨c, now⟩ t kind r with
    | .ok (t', _) => t'
    | .error _ => t

/-- The project after runs one after another. -/
def runAll (c : Config) (t : Project) (runs : List GenerationRun) : Project :=
  runs.foldl (apply c) t

theorem runAll_append (c : Config) (t : Project) (runs₁ runs₂ : List GenerationRun) :
    runAll c t (runs₁ ++ runs₂) = runAll c (runAll c t runs₁) runs₂ :=
  List.foldl_append

/-- The request a run generates. -/
def request : GenerationRun → Request
  | .generate _ r => r
  | .single _ _ r => r

end GenerationRun

section Kept

variable {Good : RenderContext → Prop} {P : Project → Prop}

theorem KeptByWrites.reaches (hk : KeptByWrites Good P) {t t' : Project}
    (h : Reaches Good t t') (ht : P t) : P t' := by
  induction h with
  | refl => exact ht
  | tail _ hstep ih =>
    obtain ⟨ctx, kind, as, a, force, f, hg, hr, ha, hw⟩ := hstep
    exact hk force hg hr ha ih hw

/-- The writes of one kind's artifacts are steps of `Reaches`. -/
theorem reaches_writeArtifacts {ctx : RenderContext} {kind : ArtifactKind} {as : List Artifact}
    (hg : Good ctx) (hr : kind.render ctx = .ok as) (force : Bool) :
    ∀ {rest : List Artifact} {t : Project} (done : List GeneratedFile), (∀ a ∈ rest, a ∈ as) →
      Reaches Good t (Generator.writeArtifacts kind force t rest done).1
  | [], _, _, _ => .refl
  | a :: rest, t, done, hsub => by
    unfold Generator.writeArtifacts
    split
    · exact .refl
    · rename_i t' f hw
      exact .head ⟨ctx, kind, as, a, force, f, hg, hr, hsub a List.mem_cons_self, hw⟩
        (reaches_writeArtifacts hg hr force _ fun b hb => hsub b (List.mem_cons_of_mem _ hb))

theorem reaches_runKind {g : Generator} {t t' : Project} {kind : ArtifactKind} {r : Request}
    {o : KindOutcome} (hg : Good (g.context t r)) (h : g.runKind t kind r = .ok (t', o)) :
    Reaches Good t t' := by
  rcases Generator.runKind_eq_ok h with ⟨rfl, -⟩ | ⟨as, hr, hw⟩
  · exact .refl
  · have := reaches_writeArtifacts hg hr r.forceOverwrite (t := t) [] (fun _ ha => ha)
    rwa [hw] at this

theorem KeptByWrites.runKind (hk : KeptByWrites Good P) {g : Generator} {t t' : Project}
    {kind : ArtifactKind} {r : Request} {o : KindOutcome} (hg : Good (g.context t r))
    (ht : P t) (h : g.runKind t kind r = .ok (t', o)) : P t' :=
  hk.reaches (reaches_runKind hg h) ht

/-- The kinds `generate` runs keep what every write keeps, from a project that has it. -/
theorem KeptByWrites.kindSteps (hk : KeptByWrites Good P) {g : Generator} {r : Request}
    (hg : ∀ s, P s → Good (g.context s r)) (kinds : List ArtifactKind)
    {acc res : Project × List (ArtifactKind × KindOutcome)}
    (h : kinds.foldlM (g.kindStep r) acc = .ok res) (ha : P acc.1) : P res.1 := by
  -- the invariant of the fold: the project reached so far satisfies `P`
  refine foldlM_except_invariant (fun acc => P acc.1) ?_ kinds ha h
  intro acc kind acc' hacc hstep
  unfold Generator.kindStep at hstep
  split at hstep
  · obtain ⟨⟨u, o⟩, hu, rfl⟩ := Except.map_eq_ok hstep
    exact hk.runKind (hg _ hacc) hacc hu
  · rw [← Except.ok.inj hstep]
    exact hacc

theorem KeptByWrites.generate (hk : KeptByWrites Good P) {g : Generator} {t t' : Project}
    {r : Request} {rep : Report} (hg : ∀ s, P s → Good (g.context s r)) (ht : P t)
    (h : g.generate t r = .ok (t', rep)) : P t' := by
  rw [Generator.generate_eq] at h
  obtain ⟨⟨s, outcomes⟩, hfold, hs⟩ := Except.map_eq_ok h
  obtain ⟨rfl, -⟩ := Prod.mk.inj hs
  exact hk.kindSteps hg ArtifactKind.all hfold ht

theorem KeptByWrites.generateSingle (hk : KeptByWrites Good P) {g : Generator} {t t' : Project}
    {kind : ArtifactKind} {r : Request} {o : KindOutcome} (hg : Good (g.context t r))
    (ht : P t) (h : g.generateSingle t kind r = .ok (t', o)) : P t' := by
  unfold Generator.generateSingle at h
  split at h
  · obtain ⟨rfl, -⟩ := Prod.mk.inj (Except.ok.inj h)
    exact ht
  · exact hk.runKind hg ht h

/-- A property every write keeps, in the contexts of the requests `Q` allows, holds after
every sequence of runs of such requests. -/
theorem KeptByWrites.runAll_of (hk : KeptByWrites Good P) {c : Config} {Q : Request → Prop}
    (hg : ∀ s now r, Q r → P s → Good (Generator.context ⟨c, now⟩ s r)) :
    ∀ (runs : List GenerationRun) {t : Project}, (∀ run ∈ runs, Q run.request) → P t →
      P (GenerationRun.runAll c t runs)
  | [], _, _, ht => ht
  | run :: runs, t, hq, ht => by
    unfold GenerationRun.runAll
    rw [List.foldl_cons]
    refine hk.runAll_of hg runs (fun run' h => hq run' (List.mem_cons_of_mem _ h)) ?_
    have hr := hq run List.mem_cons_self
    cases run with
    | generate now r =>
      cases h : Generator.generate ⟨c, now⟩ t r with
      | ok res => simpa only [GenerationRun.apply, h] using hk.generate (hg · now r hr) ht h
      | error e => simpa only [GenerationRun.apply, h] using ht
    | single now kind r =>
      cases h : Generator.generateSingle ⟨c, now⟩ t kind r with
      | ok res =>
        simpa only [GenerationRun.apply, h] using hk.generateSingle (hg t now r hr ht) ht h
      | error e => simpa only [GenerationRun.apply, h] using ht

/-- A property every write keeps holds after every sequence of runs. -/
theorem KeptByWrites.runAll (hk : KeptByWrites Good P) {c : Config}
    (hg : ∀ s now r, P s → Good (Generator.context ⟨c, now⟩ s r)) (runs : List GenerationRun)
    {t : Project} (ht : P t) : P (GenerationRun.runAll c t runs) :=
  hk.runAll_of (Q := fun _ => True) (fun s now r _ => hg s now r) runs (fun _ _ => trivial) ht

end Kept

end CrudScaffold
