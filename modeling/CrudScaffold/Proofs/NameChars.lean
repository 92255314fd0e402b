import Mathlib
import CrudScaffold.Request

/-! The characters generated names are written with. The joined case styles write only
letters and numbers, since changing the ASCII case of a letter or number leaves one; the
separated styles add their separator; a plural keeps the characters of its word and adds
letters. So a class name holds no underscore, slash, dot or quote, a route prefix no
underscore or quote, and a table name no slash or dot. -/

namespace CrudScaffold.Naming

open Text

/-- Every character of `s` is a letter or a number. -/
def IsWord (s : String) : Prop := ∀ x ∈ s.toList, isAlphanumeric x = true

/-- Every character of `s` is a letter, a number or `sep`. -/
def IsWordsWith (sep : Char) (s : String) : Prop :=
  ∀ x ∈ s.toList, isAlphanumeric x = true ∨ x = sep

instance (s : String) : Decidable (IsWord s) :=
  decidable_of_iff (s.toList.all isAlphanumeric = true) (by simp [IsWord])

theorem IsWord.append {s t : String} (hs : IsWord s) (ht : IsWord t) : IsWord (s ++ t) := by
  intro x hx
  rcases List.mem_append.mp (by simpa using hx) with hx | hx
  · exact hs x hx
  · exact ht x hx

theorem IsWordsWith.append {sep : Char} {s t : String} (hs : IsWordsWith sep s)
    (ht : IsWordsWith sep t) : IsWordsWith sep (s ++ t) := by
  intro x hx
  rcases List.mem_append.mp (by simpa using hx) with hx | hx
  · exact hs x hx
  · exact ht x hx

/-- A character that is neither a letter, a number nor the separator is not in the name. -/
theorem IsWordsWith.not_mem {sep x : Char} {s : String} (h : IsWordsWith sep s)
    (hx : isAlphanumeric x = false) (hsep : x ≠ sep) : x ∉ s.toList := by
  intro hmem
  rcases h x hmem with h' | h'
  · rw [hx] at h'
    exact Bool.false_ne_true h'
  · exact hsep h'

theorem IsWord.not_mem {x : Char} {s : String} (h : IsWord s) (hx : isAlphanumeric x = false) :
    x ∉ s.toList := fun hmem => by
  have := h x hmem
  rw [hx] at this
  exact Bool.false_ne_true this

/-! ### Case changes keep letters and numbers -/

/-- The ASCII case functions move only ASCII letters. -/
theorem toUpper_of_not_ascii {c : Char} (h : ¬c.toNat < 128) : c.toUpper = c := by
  have hz : ¬('a'.val ≤ c.val ∧ c.val ≤ 'z'.val) := by
    rintro ⟨-, hle⟩
    have : c.val.toNat ≤ 122 := UInt32.le_iff_toNat_le.mp hle
    exact h (by rw [← Char.toNat_val]; omega)
  unfold Char.toUpper
  rw [dif_neg hz]

theorem toLower_of_not_ascii {c : Char} (h : ¬c.toNat < 128) : c.toLower = c := by
  have hz : ¬(c.val ≥ 'A'.val ∧ c.val ≤ 'Z'.val) := by
    rintro ⟨-, hle⟩
    have : c.val.toNat ≤ 90 := UInt32.le_iff_toNat_le.mp hle
    exact h (by rw [← Char.toNat_val]; omega)
  unfold Char.toLower
  rw [dif_neg hz]

/-- A property of ASCII characters holds of every one when it holds of every code point
below 128. -/
theorem ascii_of_forall_lt {p : Char → Prop} (h : ∀ n < 128, p (Char.ofNat n)) {c : Char}
    (hc : c.toNat < 128) : p c := by
  simpa using h c.toNat hc

theorem isAlphanumeric_toUpper {c : Char} (h : isAlphanumeric c = true) :
    isAlphanumeric c.toUpper = true := by
  by_cases hc : c.toNat < 128
  · exact ascii_of_forall_lt
      (p := fun c => isAlphanumeric c = true → isAlphanumeric c.toUpper = true) (by decide) hc h
  · rwa [toUpper_of_not_ascii hc]

theorem isAlphanumeric_toLower {c : Char} (h : isAlphanumeric c = true) :
    isAlphanumeric c.toLower = true := by
  by_cases hc : c.toNat < 128
  · exact ascii_of_forall_lt
      (p := fun c => isAlphanumeric c = true → isAlphanumeric c.toLower = true) (by decide) hc h
  · rwa [toLower_of_not_ascii hc]

theorem isLower_of_not_ascii {c : Char} (hc : ¬c.toNat < 128) : c.isLower = false := by
  have : ¬(c.val ≥ 'a'.val ∧ c.val ≤ 'z'.val) := by
    rintro ⟨-, hle⟩
    have : c.val.toNat ≤ 122 := UInt32.le_iff_toNat_le.mp hle
    exact hc (by rw [← Char.toNat_val]; omega)
  simpa [Char.isLower] using this

/-- Uppercasing never gives a lowercase ASCII letter. -/
theorem isLower_toUpper (c : Char) : c.toUpper.isLower = false := by
  by_cases hc : c.toNat < 128
  · exact ascii_of_forall_lt (p := fun c => c.toUpper.isLower = false) (by decide) hc
  · rw [toUpper_of_not_ascii hc]
    exact isLower_of_not_ascii hc

/-! ### Case styles -/

/-- A joined style without blanks writes letters and numbers only. -/
theorem mem_joinedFrom {st : WordStyle} (hst : st.spaced = false) {x : Char}
    {newWord first seen : Bool} {last : Char} {cs : List Char} (h : x ∈ joinedFrom st newWord first seen last cs) :
    isAlphanumeric x = true := by
  induction cs generalizing newWord first seen last with
  | nil => simp [joinedFrom] at h
  | cons c rest ih =>
    simp only [joinedFrom] at h
    split at h
    · split at h <;> exact ih h
    · have hc : isAlphanumeric c = true := by simpa using ‹¬(!isAlphanumeric c) = true›
      split at h
      · rcases List.mem_cons.mp h with rfl | h
        · exact hc
        · exact ih h
      · split at h
        · simp only [hst, Bool.false_and, Bool.false_eq_true, if_false, List.nil_append,
            List.mem_cons] at h
          rcases h with rfl | h
          · split
            · exact isAlphanumeric_toUpper hc
            · exact isAlphanumeric_toLower hc
          · exact ih h
        · rcases List.mem_cons.mp h with rfl | h
          · exact isAlphanumeric_toLower hc
          · exact ih h

theorem isWord_pascalCase (s : String) : IsWord (pascalCase s) := by
  intro x hx
  exact mem_joinedFrom rfl (by simpa [pascalCase, joined] using hx)

theorem isWord_camelCase (s : String) : IsWord (camelCase s) := by
  intro x hx
  exact mem_joinedFrom rfl (by simpa [camelCase, joined] using hx)

/-- A separated style writes letters, numbers and its separator. -/
theorem mem_separatedFrom {sep x : Char} {whole : List Char} {fresh : Bool} {byte : Nat}
    {cs : List Char} (h : x ∈ separatedFrom sep whole fresh byte cs) :
    isAlphanumeric x = true ∨ x = sep := by
  induction cs generalizing fresh byte with
  | nil => simp [separatedFrom] at h
  | cons c rest ih =>
    simp only [separatedFrom] at h
    split at h
    · split at h
      · exact ih h
      · rcases List.mem_cons.mp h with rfl | h
        · exact .inr rfl
        · exact ih h
    · have hc : isAlphanumeric c = true := by simpa using ‹¬(!isAlphanumeric c) = true›
      split at h
      · simp only [List.mem_cons] at h
        rcases h with rfl | rfl | h
        · exact .inr rfl
        · exact .inl (isAlphanumeric_toLower hc)
        · exact ih h
      · rcases List.mem_cons.mp h with rfl | h
        · exact .inl (isAlphanumeric_toLower hc)
        · exact ih h

theorem isWordsWith_separated (sep : Char) (s : String) : IsWordsWith sep (separated sep s) := by
  intro x hx
  exact mem_separatedFrom (by simpa [separated] using hx)

theorem isWordsWith_snakeCase (s : String) : IsWordsWith '_' (snakeCase s) :=
  isWordsWith_separated '_' s

theorem isWordsWith_kebabCase (s : String) : IsWordsWith '-' (kebabCase s) :=
  isWordsWith_separated '-' s

/-! ### Plurals -/

/-- What a rule puts after the stem is a word. -/
theorem isWord_pluralReplacement {r : Rule} (hr : r ∈ pluralRules) : IsWord r.replacement := by
  have hall : ∀ r ∈ pluralRules, IsWord r.replacement := by decide
  exact hall r hr

theorem isWord_irregularPlural {w p : String} (h : irregularPlurals.lookup w = some p) :
    IsWord p := by
  have hall : ∀ e ∈ irregularPlurals, IsWord e.2 := by decide
  obtain ⟨l₁, l₂, hl, -⟩ := List.lookup_eq_some_iff.mp h
  exact hall (w, p) (by rw [hl]; simp)

theorem replacement_of_firstMatch {rules : List Rule} {w : List Char} {spans : Spans}
    {rep : String} (h : firstMatch rules w = some (spans, rep)) : ∃ r ∈ rules, r.replacement = rep := by
  obtain ⟨r, hr, hsome⟩ := List.exists_of_findSome?_eq_some h
  refine ⟨r, List.mem_reverse.mp hr, ?_⟩
  split at hsome
  · split at hsome
    · exact (Prod.mk.inj (Option.some.inj hsome)).2
    · cases hsome
  · cases hsome

theorem subset_of_captured {s : List Char} {spans : Spans} {n : Nat} {stem : List Char}
    (h : captured s spans n = some stem) : stem ⊆ s := by
  unfold captured at h
  split at h
  · cases h
    exact fun x hx => List.mem_of_mem_drop (List.mem_of_mem_take hx)
  · cases h

/-- A plural is written with the characters of its word and with letters. -/
theorem mem_pluralOf {w : String} {x : Char} (h : x ∈ (pluralOf w).toList) :
    x ∈ w.toList ∨ isAlphanumeric x = true := by
  have hs : isAlphanumeric 's' = true := by decide
  unfold pluralOf at h
  split at h
  · exact .inl h
  · split at h
    · exact .inr (isWord_irregularPlural ‹_› x h)
    · dsimp only at h
      split at h
      · split at h
        · simp only [String.toList_append, String.toList_ofList, List.mem_append] at h
          rcases h with h | h
          · exact .inl (subset_of_captured ‹_› h)
          · obtain ⟨r, hr, rfl⟩ := replacement_of_firstMatch ‹_›
            exact .inr (isWord_pluralReplacement hr x h)
        · simp only [String.toList_append, List.mem_append] at h
          rcases h with h | h
          · exact .inl h
          · exact .inr (by simp_all)
      · simp only [String.toList_append, List.mem_append] at h
        rcases h with h | h
        · exact .inl h
        · exact .inr (by simp_all)

theorem IsWordsWith.pluralOf {sep : Char} {w : String} (h : IsWordsWith sep w) :
    IsWordsWith sep (pluralOf w) := fun x hx =>
  (mem_pluralOf hx).elim (h x) .inl

theorem isWordsWith_pluralize (s : String) : IsWordsWith '_' (pluralize s) :=
  (isWordsWith_snakeCase s).pluralOf

end CrudScaffold.Naming

namespace CrudScaffold

open Naming Text

/-! ### The names of a model and its namespace -/

/-- How the names of a model are written: class names with letters and numbers, the table
with underscores between them, the route prefix and the view folder with hyphens. -/
structure NameSet.WellWritten (n : NameSet) : Prop where
  model : IsWord n.model
  controller : IsWord n.controller
  table : IsWordsWith '_' n.table
  routePrefix : IsWordsWith '-' n.routePrefix
  viewFolder : IsWordsWith '-' n.viewFolder

theorem NameSet.wellWritten_ofModel (name : String) : (NameSet.ofModel name).WellWritten := by
  -- the fields are read off the literal first: matching them as they stand would unfold the
  -- plural's table of uncountable words
  constructor <;>
    dsimp only [NameSet.ofModel, controllerName, tableName, Naming.routePrefix, Naming.viewFolder]
  · exact isWord_pascalCase name
  · exact (isWord_pascalCase (pascalCase name)).append (by decide +kernel)
  · exact isWordsWith_pluralize (pascalCase name)
  · exact isWordsWith_kebabCase (pluralize (pascalCase name))
  · exact isWordsWith_kebabCase (pluralize (pascalCase name))

/-- The two names of a pivot table are snake case. -/
theorem isWordsWith_pivotPair (a b : String) :
    IsWordsWith '_' (pivotPair a b).1 ∧ IsWordsWith '_' (pivotPair a b).2 := by
  unfold pivotPair
  dsimp only
  split
  · exact ⟨isWordsWith_snakeCase b, isWordsWith_snakeCase a⟩
  · exact ⟨isWordsWith_snakeCase a, isWordsWith_snakeCase b⟩

/-- A model path names a model and sub-namespace segments in Pascal case. -/
theorem isWord_of_parseModelPath {name model : String} {sub : List String}
    (h : parseModelPath name = .ok (model, sub)) : IsWord model ∧ ∀ s ∈ sub, IsWord s := by
  unfold parseModelPath at h
  dsimp only at h
  split at h
  · rename_i last hlast
    have hwords : ∀ s ∈ ((splitWhere (fun c => c = '/' || c = '\\') name.toList).map
        (fun s => trim (String.ofList s))).filter (fun s => !s.isEmpty) |>.map pascalCase,
        IsWord s := by
      intro s hs
      obtain ⟨t, -, rfl⟩ := List.mem_map.mp hs
      exact isWord_pascalCase t
    split at h
    · split at h
      · cases h
        exact ⟨hwords _ (List.mem_of_getLast? hlast),
          fun s hs => hwords s (List.dropLast_subset _ hs)⟩
      · cases h
    · cases h
  · cases h

/-- A built request's model and sub-namespace are written in Pascal case. -/
theorem RequestBuilder.isWord_of_build {b : RequestBuilder} {c : Config} {r : Request}
    (h : b.build c = .ok r) : IsWord r.modelName ∧ ∀ s ∈ r.subNamespace, IsWord s := by
  unfold RequestBuilder.build at h
  split at h
  · cases h
  · rename_i model sub hparse
    cases h
    exact isWord_of_parseModelPath hparse

end CrudScaffold
