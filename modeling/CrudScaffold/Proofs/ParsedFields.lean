import Mathlib
import CrudScaffold.Proofs.FieldGrammar
import CrudScaffold.Proofs.FirstOfEachKey

/-! What reading a field spec gives. The fields are those of the comma-separated segments,
the first of each name kept; each has a trimmed name without separators, enum values or
modifiers as its type allows, and unknown type and modifier words that match no known word.

Type and modifier words are matched after lowercasing. Matching the full Unicode lowercase
finds no more than matching the ASCII lowercase: the known words are plain ASCII without a
`k`, and the only characters beyond ASCII whose lowercase is ASCII are the Kelvin sign
(lowercased to `k`) and the dotted capital I (lowercased to `i` and a combining dot).

Main statement: `parseFields_wellFormed`. -/

namespace CrudScaffold

open Text

/-! ### Lowercasing into plain words -/

/-- Whether a run of the lowercase table keeps every code point at or above 128 it maps
there, the Kelvin sign apart: it lies below 128, it is the Kelvin sign alone, or all of its
images are valid characters at or above 128. -/
def runKeepsAbove (r : Nat × Nat × Nat × Int) : Bool :=
  r.2.1 < 128 || (r.1 == 0x212A && r.2.1 == 0x212A) ||
    (128 ≤ (r.1 : Int) + r.2.2.2 &&
      ((r.2.1 : Int) + r.2.2.2 < 0xD800 ||
        (0xDFFF < (r.1 : Int) + r.2.2.2 && (r.2.1 : Int) + r.2.2.2 < 0x110000)))

theorem all_runKeepsAbove : Property.lowercaseRuns.toList.all runKeepsAbove = true := by
  decide +kernel

/-- The Kelvin sign is the one character beyond ASCII whose simple lowercase is ASCII. -/
theorem lowerChar_ascii {c : Char} (h : (lowerChar c).toNat < 128) :
    c.toNat < 128 ∨ c = '\u212A' := by
  unfold lowerChar at h
  by_cases hc : c.toNat < 128
  · exact .inl hc
  right
  rw [if_neg hc] at h
  cases hl : lowerCodePoint? c.toNat with
  | none =>
    rw [hl] at h
    exact absurd h hc
  | some n =>
    rw [hl] at h
    unfold lowerCodePoint? at hl
    split at hl
    · rename_i r hr
      have hrun : runKeepsAbove r = true :=
        List.all_eq_true.mp all_runKeepsAbove r (Array.mem_toList_iff.mpr (Array.mem_of_find?_eq_some hr))
      have hin := Array.find?_some hr
      cases hl
      simp only [runKeepsAbove, Bool.or_eq_true, decide_eq_true_eq, Bool.and_eq_true, beq_iff_eq] at hrun
      simp only [Bool.and_eq_true, decide_eq_true_eq, beq_iff_eq] at hin
      rw [Char.toNat_ofNat] at h
      rcases hrun with (hlow | ⟨hlo, hhi⟩) | ⟨habove, hvalid⟩
      · omega
      · exact Char.toNat_inj.mp (by rw [show '\u212A'.toNat = 0x212A from rfl]; omega)
      · split at h
        · omega
        · rename_i hinvalid
          exact absurd (by simp only [Nat.isValidChar]; omega) hinvalid
    · cases hl

/-- A character of the lowercase words the grammars match: ASCII, and no `k`, the one ASCII
letter that a character beyond ASCII lowercases to. -/
def PlainLower (c : Char) : Prop := c.toNat < 128 ∧ c ≠ 'k'

theorem lowerChar_kelvin : lowerChar '\u212A' = 'k' := by
  decide +kernel

theorem toLower_of_lowerChar {c : Char} (h : PlainLower (lowerChar c)) :
    c.toLower = lowerChar c := by
  rcases lowerChar_ascii h.1 with hc | rfl
  · simp only [lowerChar, if_pos hc]
  · exact absurd lowerChar_kelvin h.2

/-- Full lowercasing that gives plain lowercase characters is ASCII lowercasing: the
characters lowercased with more context (the capital sigma, the dotted capital I) all give
something beyond ASCII. -/
theorem map_toLower_of_lowerFrom : ∀ {before l m : List Char}, lowerFrom before l = m →
    (∀ c ∈ m, PlainLower c) → l.map Char.toLower = m
  | _, [], m, h, _ => by simpa [lowerFrom] using h
  | before, c :: rest, m, h, hm => by
    rw [lowerFrom] at h
    subst h
    by_cases hs : c = 'Σ'
    · have hsigma : ∃ d ∈ lowerAt before c rest, ¬PlainLower d := by
        simp only [lowerAt, if_pos hs]
        split
        · exact ⟨'ς', List.mem_singleton_self _, fun hd => absurd hd.1 (by decide)⟩
        · exact ⟨'σ', List.mem_singleton_self _, fun hd => absurd hd.1 (by decide)⟩
      obtain ⟨d, hd, hnot⟩ := hsigma
      exact absurd (hm d (List.mem_append_left _ hd)) hnot
    by_cases hi : c = 'İ'
    · have hdot : '\u0307' ∈ lowerAt before c rest := by simp [lowerAt, hi]
      exact absurd (hm _ (List.mem_append_left _ hdot)).1 (by decide)
    have hlow : lowerAt before c rest = [lowerChar c] := by simp only [lowerAt, if_neg hs, if_neg hi]
    rw [hlow] at hm
    rw [hlow, List.map_cons, List.singleton_append, toLower_of_lowerChar (hm _ List.mem_cons_self),
      map_toLower_of_lowerFrom rfl (fun d hd => hm d (List.mem_cons_of_mem _ hd))]

/-- A text whose full lowercase is made of plain lowercase characters has that text as its
ASCII lowercase too. -/
theorem asciiLower_eq_of_lowercase {w v : String} (h : lowercase w = v)
    (hv : ∀ c ∈ v.toList, PlainLower c) : asciiLower w = v := by
  have hl : lowerFrom [] w.toList = v.toList := by
    rw [← h, lowercase, String.toList_ofList]
  apply String.toList_inj.mp
  rw [asciiLower, String.toList_map]
  exact map_toLower_of_lowerFrom hl hv

/-- Matching a word against plain lowercase words after full lowercasing finds no more than
matching after ASCII lowercasing. -/
theorem lowercase_not_mem {w : String} {words : List String}
    (hwords : ∀ v ∈ words, ∀ c ∈ v.toList, PlainLower c) (h : asciiLower w ∉ words) :
    lowercase w ∉ words := fun hm =>
  h (asciiLower_eq_of_lowercase rfl (hwords _ hm) ▸ hm)

/-! ### Type and modifier words -/

/-- The words a type is read from, in lowercase: the names of the types and their aliases. -/
def typeWords : List String :=
  ["string", "text", "integer", "int", "biginteger", "bigint", "float", "double", "decimal",
    "boolean", "bool", "date", "datetime", "timestamp", "time", "json", "jsonb", "enum",
    "foreignid", "unsignedbiginteger"]

/-- The words a modifier other than a default is read from, in lowercase, aliases included. -/
def modifierWords : List String :=
  ["nullable", "optional", "unique", "index", "indexed", "unsigned"]

theorem plainLower_of_all {words : List String}
    (h : words.all (fun v => v.toList.all fun c => decide (c.toNat < 128) && c != 'k') = true) :
    ∀ v ∈ words, ∀ c ∈ v.toList, PlainLower c := by
  intro v hv c hc
  have hc := List.all_eq_true.mp (List.all_eq_true.mp h v hv) c hc
  simpa [PlainLower] using hc

theorem plainLower_typeWords : ∀ v ∈ typeWords, ∀ c ∈ v.toList, PlainLower c :=
  plainLower_of_all (by decide +kernel)

theorem plainLower_modifierWords : ∀ v ∈ modifierWords, ∀ c ∈ v.toList, PlainLower c :=
  plainLower_of_all (by decide +kernel)

/-- A word read as an unknown type is trimmed and matches no type word. -/
theorem FieldType.not_mem_of_parse_unknown {x w : String} (h : FieldType.parse x = .unknown w) :
    trim w = w ∧ asciiLower w ∉ typeWords := by
  have hw := FieldType.eq_trim_of_parse_unknown h
  subst hw
  refine ⟨trim_trim x, ?_⟩
  dsimp only [FieldType.parse] at h
  split at h <;> simp_all [typeWords]

/-- A word read as an unknown modifier matches no modifier word. -/
theorem Modifier.not_mem_of_parse_other {x w : String} (h : Modifier.parse x = .other w) :
    asciiLower w ∉ modifierWords := by
  dsimp only [Modifier.parse] at h
  split at h
  · cases h
  · split at h
    · cases h
    · split at h <;> simp_all [modifierWords]

/-! ### Fields as the parser reads them -/

/-- A field as reading a spec leaves it: a trimmed nonempty name without separators; for an
enum, no modifiers and values that are trimmed nonempty words; otherwise no values and no
modifier twice; unknown modifier words that are nonempty words matching no modifier word and
no `default`; and an unknown type word that is trimmed and matches no type word. -/
structure Field.WellFormed (f : Field) : Prop where
  name_ne : f.name ≠ ""
  name_trim : trim f.name = f.name
  name_word : SpecWord f.name
  enum : f.type = .enum →
    f.modifiers = [] ∧ ∀ v ∈ f.enumValues, v ≠ "" ∧ trim v = v ∧ SpecWord v
  plain : f.type ≠ .enum → f.enumValues = [] ∧ f.modifiers.Nodup
  other : ∀ w, Modifier.other w ∈ f.modifiers →
    w ≠ "" ∧ SpecWord w ∧ lowercase w ∉ modifierWords ∧ asciiLower w ≠ "default"
  unknown : ∀ w, f.type = .unknown w → trim w = w ∧ lowercase w ∉ typeWords

theorem Field.Canonical.wellFormed {f : Field} (hf : f.Canonical) : f.WellFormed where
  name_ne := hf.name_ne
  name_trim := trim_of_trimmed hf.name_trimmed
  name_word := hf.name_word
  enum h := by
    obtain ⟨hm, hv⟩ := hf.values h
    exact ⟨hm, fun v hmem => ⟨(hv v hmem).2.2, trim_of_trimmed (hv v hmem).2.1, (hv v hmem).1⟩⟩
  plain h := ⟨(hf.modifiers h).1, (hf.modifiers h).2.1⟩
  other w hw := by
    -- an enum has no modifiers, so the field is of another type
    have htype : f.type ≠ .enum := fun he => by simp [(hf.values he).1] at hw
    obtain ⟨hword, hne, hparse, hdefault⟩ := (hf.modifiers htype).2.2 _ hw
    exact ⟨hne, hword,
      lowercase_not_mem plainLower_modifierWords (Modifier.not_mem_of_parse_other hparse),
      hdefault⟩
  unknown w hw := by
    have hparse : FieldType.parse w = .unknown w := by
      have hreads := hf.type_reads
      rwa [hw, FieldType.name] at hreads
    obtain ⟨htrim, hnot⟩ := FieldType.not_mem_of_parse_unknown hparse
    exact ⟨htrim, lowercase_not_mem plainLower_typeWords hnot⟩

/-- Reading a field spec gives the fields read from its comma-separated segments, keeping the
first field of each name: the names are distinct and every field is well formed. -/
theorem parseFields_wellFormed (s : String) :
    parseFields s = firstOfEachKey Field.name [] ((split s ',').filterMap Field.parse) ∧
      ((parseFields s).map Field.name).Nodup ∧ ∀ f ∈ parseFields s, f.WellFormed :=
  ⟨uniqueFields_eq_firstOfEachKey _, nodup_names_uniqueFields _,
    fun _ hf => (canonical_of_mem_parseFields hf).wellFormed⟩

end CrudScaffold