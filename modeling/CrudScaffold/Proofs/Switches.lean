import Mathlib
import CrudScaffold.Proofs.WriteOrder
import CrudScaffold.Proofs.ClassNames

/-! Which kinds of artifact a request makes. A request is built by calls on a builder: `only`
sets the switch of every kind, `flag` the switch of one kind, and `apiOnly` whether the
request is for an API; the other calls leave all of that alone. A kind is made when the last
call that set its switch says so, or by the configuration's default when no call did, except
that an API-only request makes no views. A run of the generator reports every kind once, in
the order of kinds, and skips exactly the kinds the request does not make. A single kind is
generated in exactly the cases a run restricted to that kind would generate it.

Main statement: `generate_follows_switches`. -/

namespace CrudScaffold

/-- A call on a request builder. -/
inductive BuilderCall where
  | fieldSpec (spec : String)
  | fields (fields : List Field)
  | relationSpec (spec : String)
  | relations (relations : List Relation)
  | force (on : Bool)
  | apiOnly (on : Bool)
  | flag (kind : ArtifactKind) (on : Bool)
  | only (kinds : List ArtifactKind)

namespace BuilderCall

/-- Makes the call on a builder. -/
def apply (b : RequestBuilder) : BuilderCall → RequestBuilder
  | .fieldSpec spec => b.withFieldSpec spec
  | .fields fs => b.withFields fs
  | .relationSpec spec => b.withRelationSpec spec
  | .relations rs => b.withRelations rs
  | .force on => b.withForce on
  | .apiOnly on => b.withApiOnly on
  | .flag k on => b.withSwitch k on
  | .only ks => b.only ks

/-- The value a call gives the switch of a kind, if it sets it: `only` sets every kind. -/
def switchOf (k : ArtifactKind) : BuilderCall → Option Bool
  | .flag k' on => if k' = k then some on else none
  | .only ks => some (ks.contains k)
  | _ => none

/-- The API-only setting a call gives, if it gives one. -/
def apiOnlyOf : BuilderCall → Option Bool
  | .apiOnly on => some on
  | _ => none

end BuilderCall

/-- The builder for a model name after the calls, in order. -/
def RequestBuilder.ofCalls (name : String) (calls : List BuilderCall) : RequestBuilder :=
  calls.foldl BuilderCall.apply { name }

/-- Whether a request built by `calls` makes a kind, read off the calls: no views when the
last API-only call says so (or the configuration, when there is no such call), else the value
of the last call that set the kind's switch, or the configuration's default. -/
def switchedOn (c : Config) (calls : List BuilderCall) (k : ArtifactKind) : Bool :=
  if k = .views && (calls.filterMap BuilderCall.apiOnlyOf).getLast?.getD c.apiOnly then false
  else ((calls.filterMap (BuilderCall.switchOf k)).getLast?).getD (k.enabledBy c.generate)

/-- A setting that each step either leaves alone or overwrites ends up as the last value
written, or the first setting when nothing was written. -/
theorem foldl_getLast?_or {α β γ : Type} (step : β → α → β) (read : β → Option γ)
    (write : α → Option γ) (hstep : ∀ b a, read (step b a) = (write a).or (read b)) :
    ∀ (l : List α) (b : β), read (l.foldl step b) = ((l.filterMap write).getLast?).or (read b)
  | [], _ => rfl
  | a :: l, b => by
    rw [List.foldl_cons, foldl_getLast?_or step read write hstep l, hstep]
    cases hw : write a with
    | none => simp [hw]
    | some v => cases hl : (l.filterMap write).getLast? <;> simp [hw, List.getLast?_cons, hl]

theorem ArtifactKind.mem_all (k : ArtifactKind) : k ∈ ArtifactKind.all := by
  cases k <;> decide

namespace RequestBuilder

/-- Switching kinds one after another changes the switches and nothing else. -/
theorem foldl_withSwitch_eq (on : ArtifactKind → Bool) :
    ∀ (ks : List ArtifactKind) (b : RequestBuilder),
      ks.foldl (fun b k => b.withSwitch k (on k)) b =
        { b with switches := ks.foldl (fun s k => s.set k (on k)) b.switches }
  | [], _ => rfl
  | k :: ks, b => foldl_withSwitch_eq on ks (b.withSwitch k (on k))

theorem foldl_set_apply (on : ArtifactKind → Bool) (k : ArtifactKind) :
    ∀ (ks : List ArtifactKind) (s : KindSwitches),
      ks.foldl (fun s k => s.set k (on k)) s k = if k ∈ ks then some (on k) else s k
  | [], _ => rfl
  | k' :: ks, s => by
    rw [List.foldl_cons, foldl_set_apply on k ks]
    by_cases hk : k = k'
    · subst hk
      simp [KindSwitches.set]
    · simp [KindSwitches.set, hk]

/-- `only` sets the switch of every kind to whether the kind is listed. -/
theorem only_eq (b : RequestBuilder) (kinds : List ArtifactKind) :
    b.only kinds = { b with switches := fun k => some (kinds.contains k) } := by
  rw [only, foldl_withSwitch_eq]
  congr 1
  funext k
  rw [foldl_set_apply, if_pos (ArtifactKind.mem_all k)]

theorem apply_switches (b : RequestBuilder) (call : BuilderCall) (k : ArtifactKind) :
    (call.apply b).switches k = (call.switchOf k).or (b.switches k) := by
  cases call with
  | flag k' on =>
    by_cases hk : k' = k
    · simp [BuilderCall.apply, BuilderCall.switchOf, withSwitch, KindSwitches.set, hk]
    · simp [BuilderCall.apply, BuilderCall.switchOf, withSwitch, KindSwitches.set, hk, Ne.symm hk]
  | only ks => simp [BuilderCall.apply, BuilderCall.switchOf, only_eq]
  | _ => rfl

theorem apply_apiOnly (b : RequestBuilder) (call : BuilderCall) :
    (call.apply b).apiOnly = call.apiOnlyOf.or b.apiOnly := by
  cases call with
  | only ks => simp [BuilderCall.apply, BuilderCall.apiOnlyOf, only_eq]
  | _ => rfl

theorem apply_name (b : RequestBuilder) (call : BuilderCall) : (call.apply b).name = b.name := by
  cases call with
  | only ks => simp [BuilderCall.apply, only_eq]
  | _ => rfl

/-- The switch of a kind after the calls is the value of the last call that set it. -/
theorem ofCalls_switches (name : String) (calls : List BuilderCall) (k : ArtifactKind) :
    (ofCalls name calls).switches k = (calls.filterMap (BuilderCall.switchOf k)).getLast? := by
  rw [ofCalls, foldl_getLast?_or _ (fun b => b.switches k) _ (fun b a => apply_switches b a k)]
  exact Option.or_none

theorem ofCalls_apiOnly (name : String) (calls : List BuilderCall) :
    (ofCalls name calls).apiOnly = (calls.filterMap BuilderCall.apiOnlyOf).getLast? := by
  rw [ofCalls, foldl_getLast?_or _ RequestBuilder.apiOnly _ apply_apiOnly]
  exact Option.or_none

theorem ofCalls_name (name : String) (calls : List BuilderCall) :
    (ofCalls name calls).name = name := by
  rw [ofCalls]
  induction calls using List.reverseRecOn with
  | nil => rfl
  | append_singleton calls call ih =>
    rw [List.foldl_append, List.foldl_cons, List.foldl_nil, apply_name, ih]

/-- A built request takes the builder's switches, and its API-only setting or else the
configuration's. -/
theorem build_switches {b : RequestBuilder} {c : Config} {r : Request} (h : b.build c = .ok r) :
    r.switches = b.switches ∧ r.apiOnly = b.apiOnly.getD c.apiOnly := by
  unfold build at h
  split at h
  · cases h
  · cases h
    exact ⟨rfl, rfl⟩

/-- Whether a builder builds depends on its name alone. -/
theorem build_ok_of_name {b b' : RequestBuilder} {c : Config} {r : Request}
    (h : b.build c = .ok r) (hn : b'.name = b.name) : ∃ r', b'.build c = .ok r' := by
  unfold build at h ⊢
  rw [hn]
  split at h
  · cases h
  · exact ⟨_, rfl⟩

end RequestBuilder

/-- A request built by calls makes exactly the kinds the calls switch on. -/
theorem shouldGenerate_ofCalls {name : String} {calls : List BuilderCall} {c : Config}
    {r : Request} (h : (RequestBuilder.ofCalls name calls).build c = .ok r) (k : ArtifactKind) :
    r.shouldGenerate c k = switchedOn c calls k := by
  obtain ⟨hs, ha⟩ := RequestBuilder.build_switches h
  rw [Request.shouldGenerate, switchedOn, hs, ha, RequestBuilder.ofCalls_switches,
    RequestBuilder.ofCalls_apiOnly]

/-- After a last `only [k]` call, only `k` is switched on, and not even `k` when it is the
views of an API-only request. -/
theorem switchedOn_append_only (c : Config) (calls : List BuilderCall) (k k' : ArtifactKind) :
    switchedOn c (calls ++ [.only [k]]) k' =
      (k' = k &&
        !(k' = .views && (calls.filterMap BuilderCall.apiOnlyOf).getLast?.getD c.apiOnly)) := by
  rw [switchedOn, List.filterMap_append, List.filterMap_append]
  by_cases hk : k' = k
  · subst hk
    simp [BuilderCall.switchOf, BuilderCall.apiOnlyOf]
  · simp [BuilderCall.switchOf, BuilderCall.apiOnlyOf, hk]

namespace Generator

/-- A run reports every kind once, in the order of kinds, skipped exactly when the request
does not make it; only a clock that leaves the calendar stops it. -/
theorem generate_cases (g : Generator) (t : Project) (r : Request) :
    (∃ t' rep, g.generate t r = .ok (t', rep) ∧ rep.outcomes.map Prod.fst = ArtifactKind.all ∧
        ∀ p ∈ rep.outcomes, (p.2 = .skipped ↔ r.shouldGenerate g.config p.1 = false)) ∨
      g.generate t r = .error .clockOverflow := by
  rw [generate_eq]
  cases hfold : ArtifactKind.all.foldlM (g.kindStep r) (t, []) with
  | error e => exact .inr (by rw [kindSteps_error g r _ hfold]; rfl)
  | ok res =>
    obtain ⟨added, hres, hkinds, hskip, -⟩ := kindSteps_handled g r _ hfold
    simp only [List.nil_append] at hres
    exact .inl ⟨res.1, ⟨r.modelName, res.2⟩, rfl, hres ▸ hkinds, hres ▸ hskip⟩

end Generator

/-- What the calls on a builder decide about the request `r` it builds, for runs of `g` from
the project `t`. -/
structure FollowsCalls (g : Generator) (t : Project) (name : String) (calls : List BuilderCall)
    (r : Request) : Prop where
  /-- The request makes a kind exactly when the calls switch it on. -/
  shouldGenerate_eq : ∀ k, r.shouldGenerate g.config k = switchedOn g.config calls k
  /-- A run reports the kinds in order, skipping exactly those switched off; only a clock past
  the calendar's end stops it. -/
  generate : (∃ t' rep, g.generate t r = .ok (t', rep) ∧
      rep.outcomes.map Prod.fst = ArtifactKind.all ∧
      ∀ p ∈ rep.outcomes, (p.2 = .skipped ↔ switchedOn g.config calls p.1 = false)) ∨
    g.generate t r = .error .clockOverflow
  /-- A single kind runs exactly when it would run in a request built with `only` that kind
  as the last call, which makes no other kind. -/
  single : ∀ k, ∃ r',
    (RequestBuilder.ofCalls name (calls ++ [.only [k]])).build g.config = .ok r' ∧
    (∀ k', r'.shouldGenerate g.config k' = (k' = k && !(k = .views && r.apiOnly))) ∧
    g.generateSingle t k r =
      if r'.shouldGenerate g.config k then g.runKind t k r else .ok (t, .skipped)

/-- Whatever calls build a request, in any order and number, and under any configuration: a
kind is made when the last call that set its switch (`only` or `flag`) says so, or by the
configuration when none did, but views never for an API-only request. A run from any project
reports the nine kinds in order and skips exactly those, and a single kind is generated in
exactly the cases a run with `only` that kind would generate it. -/
theorem generate_follows_switches (g : Generator) (t : Project) (name : String)
    (calls : List BuilderCall) {r : Request}
    (hr : (RequestBuilder.ofCalls name calls).build g.config = .ok r) :
    FollowsCalls g t name calls r where
  shouldGenerate_eq := shouldGenerate_ofCalls hr
  generate := by
    rcases Generator.generate_cases g t r with ⟨t', rep, h, hkinds, hskip⟩ | h
    · exact .inl ⟨t', rep, h, hkinds, fun p hp => shouldGenerate_ofCalls hr p.1 ▸ hskip p hp⟩
    · exact .inr h
  single k := by
    have hname : (RequestBuilder.ofCalls name (calls ++ [.only [k]])).name =
        (RequestBuilder.ofCalls name calls).name := by
      rw [RequestBuilder.ofCalls_name, RequestBuilder.ofCalls_name]
    obtain ⟨r', hr'⟩ := RequestBuilder.build_ok_of_name hr hname
    have hapi :
        r.apiOnly = (calls.filterMap BuilderCall.apiOnlyOf).getLast?.getD g.config.apiOnly := by
      rw [(RequestBuilder.build_switches hr).2, RequestBuilder.ofCalls_apiOnly]
    have hs : ∀ k', r'.shouldGenerate g.config k' = (k' = k && !(k = .views && r.apiOnly)) := by
      intro k'
      rw [shouldGenerate_ofCalls hr', switchedOn_append_only, hapi]
      by_cases hk : k' = k <;> simp [hk]
    refine ⟨r', hr', hs, ?_⟩
    rw [hs, Generator.generateSingle]
    by_cases hv : (k = .views && r.apiOnly) = true
    · have hoff : (k = k && !(k = .views && r.apiOnly)) = false := by simp_all
      rw [if_pos hv, hoff, if_neg Bool.false_ne_true]
    · have hon : (k = k && !(k = .views && r.apiOnly)) = true := by
        simpa [imp_iff_not_or] using hv
      rw [if_neg hv, hon, if_pos rfl]

/-- An API-only post whose calls switch on the model and the views, then the seeder: the
views stay off. -/
theorem api_post_follows_calls :
    FollowsCalls ⟨{}, ⟨2024, 1, 15, 10, 30, 0⟩⟩ {} "Post"
      [.only [.model, .views], .apiOnly true, .flag .seeder true]
      { modelName := "Post", modelNamespace := "App\\Models", subNamespace := [], fields := [],
        relations := [], forceOverwrite := false, apiOnly := true,
        switches := (RequestBuilder.ofCalls "Post"
          [.only [.model, .views], .apiOnly true, .flag .seeder true]).switches } := by
  have hpath : parseModelPath "Post" = .ok ("Post", []) :=
    Except.eq_ok_of_toOption (by decide +kernel)
  exact generate_follows_switches _ _ _ _ (by
    simp only [RequestBuilder.build, RequestBuilder.ofCalls_name, hpath]
    rfl)

end CrudScaffold
