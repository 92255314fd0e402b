import CrudScaffold.Text.Basic

/-! Lemmas on the text operations the grammars rest on. Splitting at a separator undoes
joining pieces that hold no separator, and trimming leaves a text that has no white space at
either end as it is, so trimming twice is trimming once. -/

namespace CrudScaffold.Text

theorem splitChars_eq_splitOn (sep : Char) (l : List Char) :
    splitChars sep l = l.splitOn sep := by
  induction l with
  | nil => rfl
  | cons c rest ih =>
    rw [List.splitOn_cons_eq_if_modifyHead, splitChars, ih]
    by_cases hc : c = sep
    · simp [hc]
    · obtain ⟨p, ps, hps⟩ := List.exists_cons_of_ne_nil (List.splitOn_ne_nil sep rest)
      simp [hc, hps]

/-- Splitting pieces joined by a separator they do not hold gives the pieces back. -/
theorem split_intercalate {sep : Char} {s : String} (hs : s.toList = [sep]) {ws : List String}
    (hsep : ∀ w ∈ ws, sep ∉ w.toList) (hne : ws ≠ []) : split (s.intercalate ws) sep = ws := by
  have hpieces : ∀ l ∈ ws.map String.toList, sep ∉ l := by
    simp only [List.mem_map]
    rintro l ⟨w, hw, rfl⟩
    exact hsep w hw
  have hmap : ws.map String.toList ≠ [] := by simpa using hne
  simp only [split, String.toList_intercalate, hs, splitChars_eq_splitOn,
    List.splitOn_intercalate sep hpieces hmap, List.map_map]
  simp

/-- The last character, if any, is no white space. -/
def NoTrailingBlank (l : List Char) : Prop := ∀ c ∈ l.getLast?, isWhiteSpace c = false

/-- Neither end of a character list is white space. -/
def Trimmed (l : List Char) : Prop :=
  (∀ c ∈ l.head?, isWhiteSpace c = false) ∧ NoTrailingBlank l

-- Both are decided through a boolean test of the end characters, so that the decision
-- does not depend on which instance for bounded quantifiers over options is in scope.
instance (l : List Char) : Decidable (NoTrailingBlank l) :=
  decidable_of_iff ((l.getLast?.all fun c => !isWhiteSpace c) = true) (by
    cases h : l.getLast? <;> simp [NoTrailingBlank, h])

instance (l : List Char) : Decidable (Trimmed l) :=
  decidable_of_iff ((l.head?.all fun c => !isWhiteSpace c) = true ∧ NoTrailingBlank l) (by
    cases h : l.head? <;> simp [Trimmed, h])

theorem dropBlank_of_head {l : List Char} (h : ∀ c ∈ l.head?, isWhiteSpace c = false) :
    dropBlank l = l := by
  cases l with
  | nil => rfl
  | cons c rest => simp [dropBlank, h c rfl]

theorem head_dropBlank (l : List Char) : ∀ c ∈ (dropBlank l).head?, isWhiteSpace c = false := by
  intro c hc
  have h := List.head?_dropWhile_not isWhiteSpace l
  rw [Option.mem_def] at hc
  simp only [dropBlank] at hc
  rw [hc] at h
  exact h

theorem getLast?_dropBlank_of_ne_nil {l : List Char} (h : dropBlank l ≠ []) :
    (dropBlank l).getLast? = l.getLast? := by
  obtain ⟨t, ht⟩ := List.dropWhile_suffix isWhiteSpace (l := l)
  have hsome : ((dropBlank l).getLast?).isSome := by simpa [List.getLast?_isSome] using h
  have hlast : (t ++ dropBlank l).getLast? = (dropBlank l).getLast? := by
    rw [List.getLast?_append]
    cases hd : (dropBlank l).getLast? with
    | none => simp [hd] at hsome
    | some c => rfl
  rw [show t ++ dropBlank l = l from ht] at hlast
  exact hlast.symm

theorem trimChars_of_trimmed {l : List Char} (h : Trimmed l) : trimChars l = l := by
  have hlast : ∀ c ∈ l.reverse.head?, isWhiteSpace c = false := by
    simpa [List.head?_reverse, NoTrailingBlank] using h.2
  simp [trimChars, dropBlank_of_head h.1, dropBlank_of_head hlast]

theorem trimmed_trimChars (l : List Char) : Trimmed (trimChars l) := by
  constructor
  · -- the front of the result is the back of what remains after the first pass
    intro c hc
    have hc' : (dropBlank (dropBlank l).reverse).getLast? = some c := by
      simpa [trimChars, List.head?_reverse] using hc
    have hne : dropBlank (dropBlank l).reverse ≠ [] := by
      intro he
      simp [he] at hc'
    rw [getLast?_dropBlank_of_ne_nil hne, List.getLast?_reverse] at hc'
    exact head_dropBlank l c hc'
  · intro c hc
    simp only [trimChars, List.getLast?_reverse] at hc
    exact head_dropBlank _ c hc

theorem trimChars_trimChars (l : List Char) : trimChars (trimChars l) = trimChars l :=
  trimChars_of_trimmed (trimmed_trimChars l)

theorem trim_trim (s : String) : trim (trim s) = trim s := by
  simp [trim, trimChars_trimChars]

theorem trim_of_trimmed {s : String} (h : Trimmed s.toList) : trim s = s := by
  simp [trim, trimChars_of_trimmed h]

theorem trimmed_trim (s : String) : Trimmed (trim s).toList := by
  simpa [trim] using trimmed_trimChars s.toList

theorem mem_splitChars {sep : Char} {l p : List Char} (h : p ∈ splitChars sep l) :
    sep ∉ p ∧ p ⊆ l := by
  induction l generalizing p with
  | nil =>
    simp only [splitChars, List.mem_singleton] at h
    subst h
    simp
  | cons c rest ih =>
    by_cases hc : c = sep
    · simp only [splitChars, hc, if_true, List.mem_cons] at h
      rcases h with rfl | h
      · simp
      · exact ⟨(ih h).1, fun x hx => List.mem_cons_of_mem _ ((ih h).2 hx)⟩
    · simp only [splitChars, hc, if_false] at h
      split at h
      · simp only [List.mem_singleton] at h
        subst h
        simp [Ne.symm hc]
      · rename_i q qs hsplit
        have hq := ih (hsplit ▸ List.mem_cons_self : q ∈ splitChars sep rest)
        simp only [List.mem_cons] at h
        rcases h with rfl | h
        · refine ⟨by simp [Ne.symm hc, hq.1], ?_⟩
          intro x hx
          simp only [List.mem_cons] at hx ⊢
          exact hx.imp_right fun h => hq.2 h
        · have hp := ih (hsplit ▸ List.mem_cons_of_mem q h : p ∈ splitChars sep rest)
          exact ⟨hp.1, fun x hx => List.mem_cons_of_mem _ (hp.2 hx)⟩

theorem mem_split {sep : Char} {s p : String} (h : p ∈ split s sep) :
    sep ∉ p.toList ∧ p.toList ⊆ s.toList := by
  simp only [split, List.mem_map] at h
  obtain ⟨l, hl, rfl⟩ := h
  simpa using mem_splitChars hl

/-- Splitting gives the joined pieces back exactly when none of them holds the separator. -/
theorem split_intercalate_iff {sep : Char} {s : String} (hs : s.toList = [sep])
    {ws : List String} (hne : ws ≠ []) :
    split (s.intercalate ws) sep = ws ↔ ∀ w ∈ ws, sep ∉ w.toList := by
  refine ⟨fun h w hw => ?_, fun h => split_intercalate hs h hne⟩
  rw [← h] at hw
  exact (mem_split hw).1

theorem trim_subset (s : String) : (trim s).toList ⊆ s.toList := by
  intro c hc
  simp only [trim, trimChars, String.toList_ofList, List.mem_reverse] at hc
  have h1 := (List.dropWhile_suffix isWhiteSpace).subset hc
  rw [List.mem_reverse] at h1
  exact (List.dropWhile_suffix isWhiteSpace).subset h1

/-- The search for a piece finds exactly its occurrences. -/
theorem containsChars_iff {pat : List Char} :
    ∀ {l : List Char}, containsChars l pat = true ↔ pat <:+: l
  | [] => by simp [containsChars]
  | c :: rest => by
    rw [containsChars, Bool.or_eq_true, List.isPrefixOf_iff_prefix, containsChars_iff,
      List.infix_cons_iff]

theorem contains_iff {s pat : String} : contains s pat = true ↔ pat.toList <:+: s.toList :=
  containsChars_iff

end CrudScaffold.Text
