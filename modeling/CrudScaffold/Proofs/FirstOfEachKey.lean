import Mathlib
import CrudScaffold.Schema.ForeignKeys

/-! Keeping the first of each key. The fields of a spec keep the first field of each name,
and the foreign keys added for `belongsTo` relations skip the names of the fields and every
key added before. Both are `firstOfEachKey`, which says what stays by looking at each
element and the elements before it, with no set of seen keys threaded through.

Main statement: `belongsToForeignKeys_eq_first_free_keys`, the keys added for a model's
relations, and that they are distinct, apart from the fields, and cover every `belongsTo`
relation. -/

namespace CrudScaffold

section FirstOfEachKey

variable {α β : Type} [DecidableEq β] (key : α → β)

/-- The elements of `l` whose key is not taken and differs from the key of every element
before them, in order. -/
def firstOfEachKey (taken : List β) (l : List α) : List α :=
  ((l.zip l.inits).filter fun p => decide (key p.1 ∉ taken ∧ ∀ b ∈ p.2, key b ≠ key p.1)).map
    Prod.fst

theorem firstOfEachKey_nil (taken : List β) : firstOfEachKey key taken [] = [] := rfl

/-- The head stays when its key is free; the rest is filtered with the head's key taken. -/
theorem firstOfEachKey_cons (taken : List β) (a : α) (l : List α) :
    firstOfEachKey key taken (a :: l) =
      (if key a ∈ taken then [] else [a]) ++ firstOfEachKey key (key a :: taken) l := by
  simp only [firstOfEachKey, List.inits, List.zip_cons_cons, List.zip_map_right, List.filter_cons,
    List.filter_map]
  -- the head sees no element before it; every later element sees the head before it
  have hrest : List.filter ((fun p => decide (key p.1 ∉ taken ∧ ∀ b ∈ p.2, key b ≠ key p.1)) ∘
      Prod.map id fun t => a :: t) (l.zip l.inits) =
      List.filter (fun p => decide (key p.1 ∉ key a :: taken ∧ ∀ b ∈ p.2, key b ≠ key p.1))
        (l.zip l.inits) := by
    refine List.filter_congr fun p _ => ?_
    simp only [Function.comp_apply, Prod.map_fst, Prod.map_snd, List.mem_cons, forall_eq_or_imp,
      not_or, decide_eq_decide]
    grind
  have hfst : Prod.fst ∘ (Prod.map id fun t => a :: t) = (Prod.fst : α × List α → α) := rfl
  rw [hrest]
  by_cases h : key a ∈ taken
  · rw [if_neg (by simp [h]), if_pos h, List.nil_append, List.map_map, hfst]
  · rw [if_pos (by simp [h]), if_neg h, List.map_cons, List.map_map, hfst]
    rfl

/-- Only which keys are taken matters, not how the list of them is written. -/
theorem firstOfEachKey_congr {taken taken' : List β} (h : ∀ b, b ∈ taken ↔ b ∈ taken')
    (l : List α) : firstOfEachKey key taken l = firstOfEachKey key taken' l := by
  simp only [firstOfEachKey, h]

theorem firstOfEachKey_cons_of_mem {taken : List β} {a : α} (h : key a ∈ taken) (l : List α) :
    firstOfEachKey key taken (a :: l) = firstOfEachKey key taken l := by
  rw [firstOfEachKey_cons, if_pos h, List.nil_append]
  exact firstOfEachKey_congr key (fun b => by simp only [List.mem_cons]; grind) l

theorem firstOfEachKey_cons_of_not_mem {taken : List β} {a : α} (h : key a ∉ taken)
    (l : List α) :
    firstOfEachKey key taken (a :: l) = a :: firstOfEachKey key (key a :: taken) l := by
  rw [firstOfEachKey_cons, if_neg h, List.singleton_append]

/-- What stays is an element of the list whose key was not taken. -/
theorem mem_firstOfEachKey {taken : List β} {x : α} :
    ∀ {l : List α}, x ∈ firstOfEachKey key taken l → x ∈ l ∧ key x ∉ taken
  | [], h => by simp [firstOfEachKey_nil] at h
  | a :: l, h => by
    by_cases ha : key a ∈ taken
    · rw [firstOfEachKey_cons_of_mem key ha] at h
      obtain ⟨hx, hk⟩ := mem_firstOfEachKey h
      exact ⟨List.mem_cons_of_mem a hx, hk⟩
    · rw [firstOfEachKey_cons_of_not_mem key ha, List.mem_cons] at h
      rcases h with rfl | h
      · exact ⟨List.mem_cons_self, ha⟩
      · obtain ⟨hx, hk⟩ := mem_firstOfEachKey h
        exact ⟨List.mem_cons_of_mem a hx, fun hm => hk (List.mem_cons_of_mem _ hm)⟩

/-- The keys that stay are distinct. -/
theorem nodup_keys_firstOfEachKey :
    ∀ (taken : List β) (l : List α), ((firstOfEachKey key taken l).map key).Nodup
  | _, [] => by simp [firstOfEachKey_nil]
  | taken, a :: l => by
    by_cases ha : key a ∈ taken
    · rw [firstOfEachKey_cons_of_mem key ha]
      exact nodup_keys_firstOfEachKey taken l
    · -- every later element that stays has a key other than the head's
      rw [firstOfEachKey_cons_of_not_mem key ha, List.map_cons, List.nodup_cons]
      refine ⟨fun hm => ?_, nodup_keys_firstOfEachKey _ l⟩
      obtain ⟨x, hx, hkx⟩ := List.mem_map.mp hm
      exact (mem_firstOfEachKey key hx).2 (hkx ▸ List.mem_cons_self)

/-- Every key of the list is taken already or is the key of an element that stays. -/
theorem key_mem_firstOfEachKey {x : α} :
    ∀ (taken : List β) {l : List α}, x ∈ l →
      key x ∈ taken ∨ key x ∈ (firstOfEachKey key taken l).map key
  | _, [], h => by simp at h
  | taken, a :: l, h => by
    by_cases ha : key a ∈ taken
    · rw [firstOfEachKey_cons_of_mem key ha]
      rcases List.mem_cons.mp h with rfl | h
      · exact .inl ha
      · exact key_mem_firstOfEachKey taken h
    · rw [firstOfEachKey_cons_of_not_mem key ha, List.map_cons, List.mem_cons]
      rcases List.mem_cons.mp h with rfl | h
      · exact .inr (.inl rfl)
      · rcases key_mem_firstOfEachKey (key a :: taken) h with hk | hk
        · rcases List.mem_cons.mp hk with hk | hk
          · exact .inr (.inl hk)
          · exact .inl hk
        · exact .inr (.inr hk)

/-- The keys of what stays are the first of each key among the keys. -/
theorem map_firstOfEachKey :
    ∀ (taken : List β) (l : List α),
      (firstOfEachKey key taken l).map key = firstOfEachKey id taken (l.map key)
  | _, [] => rfl
  | taken, a :: l => by
    by_cases ha : key a ∈ taken
    · rw [firstOfEachKey_cons_of_mem key ha, List.map_cons,
        firstOfEachKey_cons_of_mem id (a := key a) ha, map_firstOfEachKey taken l]
    · rw [firstOfEachKey_cons_of_not_mem key ha, List.map_cons, List.map_cons,
        firstOfEachKey_cons_of_not_mem id (a := key a) ha, map_firstOfEachKey _ l]
      rfl

/-- Among plain keys, what stays is every key of the list that is not taken. -/
theorem mem_firstOfEachKey_id_iff {taken l : List β} {x : β} :
    x ∈ firstOfEachKey id taken l ↔ x ∈ l ∧ x ∉ taken := by
  refine ⟨mem_firstOfEachKey id, fun ⟨hx, hn⟩ => ?_⟩
  simpa [hn] using key_mem_firstOfEachKey id taken hx

end FirstOfEachKey

/-! ### Fields and foreign keys -/

theorem foldl_keepFirst_eq (acc fs : List Field) :
    fs.foldl (fun acc f => if acc.any (·.name == f.name) then acc else f :: acc) acc =
      (firstOfEachKey Field.name (acc.map Field.name) fs).reverse ++ acc := by
  induction fs generalizing acc with
  | nil => simp [firstOfEachKey_nil]
  | cons f fs ih =>
    have hany : acc.any (·.name == f.name) = decide (f.name ∈ acc.map Field.name) := by
      rw [Bool.eq_iff_iff, List.any_eq_true, decide_eq_true_iff, List.mem_map]
      simp only [beq_iff_eq]
    rw [List.foldl_cons, hany]
    by_cases hf : f.name ∈ acc.map Field.name
    · rw [if_pos (decide_eq_true hf), ih, firstOfEachKey_cons_of_mem Field.name hf]
    · rw [if_neg (by simpa using hf), ih, firstOfEachKey_cons_of_not_mem Field.name hf]
      simp

/-- A spec's fields keep the first field of each name. -/
theorem uniqueFields_eq_firstOfEachKey (fs : List Field) :
    uniqueFields fs = firstOfEachKey Field.name [] fs := by
  rw [uniqueFields, foldl_keepFirst_eq]
  simp

theorem freshForeignKeys_eq (taken : List String) (rs : List Relation) :
    freshForeignKeys taken rs =
      (firstOfEachKey Relation.effectiveForeignKey taken (rs.filter (·.kind = .belongsTo))).map
        fun r => (r, r.effectiveForeignKey) := by
  induction rs generalizing taken with
  | nil => rfl
  | cons r rs ih =>
    rw [freshForeignKeys]
    by_cases hk : r.kind = .belongsTo
    · rw [if_pos hk, List.filter_cons_of_pos (by simpa using hk)]
      dsimp only
      by_cases ht : r.effectiveForeignKey ∈ taken
      · rw [if_pos (List.elem_iff.mpr ht), ih,
          firstOfEachKey_cons_of_mem Relation.effectiveForeignKey ht]
      · rw [if_neg (by simpa using ht), ih,
          firstOfEachKey_cons_of_not_mem Relation.effectiveForeignKey ht, List.map_cons]
    · rw [if_neg hk, List.filter_cons_of_neg (by simpa using hk), ih]

/-- The foreign keys added for a model's relations: the `belongsTo` relations, in order, each
whose key no field has and no earlier `belongsTo` relation goes through, each with its key.
So the keys added are distinct, none is a field's name, and the key of every `belongsTo`
relation is a field's name or one of the keys added. -/
theorem belongsToForeignKeys_eq_first_free_keys (fields : List Field) (relations : List Relation) :
    belongsToForeignKeys fields relations =
        (firstOfEachKey Relation.effectiveForeignKey (fields.map (·.name))
          (relations.filter (·.kind = .belongsTo))).map (fun r => (r, r.effectiveForeignKey)) ∧
      ((belongsToForeignKeys fields relations).map (·.2)).Nodup ∧
      (∀ p ∈ belongsToForeignKeys fields relations, p.2 ∉ fields.map (·.name)) ∧
      ∀ r ∈ relations, r.kind = .belongsTo →
        r.effectiveForeignKey ∈ fields.map (·.name) ∨
          r.effectiveForeignKey ∈ (belongsToForeignKeys fields relations).map (·.2) := by
  have heq := freshForeignKeys_eq (fields.map (·.name)) relations
  have hkeys : (belongsToForeignKeys fields relations).map (·.2) =
      (firstOfEachKey Relation.effectiveForeignKey (fields.map (·.name))
        (relations.filter (·.kind = .belongsTo))).map Relation.effectiveForeignKey := by
    rw [belongsToForeignKeys, heq, List.map_map]
    rfl
  refine ⟨heq, hkeys ▸ nodup_keys_firstOfEachKey _ _ _, fun p hp => ?_, fun r hr hk => ?_⟩
  · rw [belongsToForeignKeys, heq] at hp
    obtain ⟨r, hr, rfl⟩ := List.mem_map.mp hp
    exact (mem_firstOfEachKey _ hr).2
  · rw [hkeys]
    exact key_mem_firstOfEachKey _ _ (List.mem_filter.mpr ⟨hr, by simpa using hk⟩)

example : (belongsToForeignKeys []
    (parseRelations "belongsTo:User:author_id,belongsTo:Author,hasMany:Comment")).map (·.2) =
      ["author_id"] := by
  decide +kernel

end CrudScaffold
