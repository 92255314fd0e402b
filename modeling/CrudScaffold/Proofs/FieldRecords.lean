import CrudScaffold.Proofs.FieldGrammar

/-! Fields built from structured records, printed and read again. A record gives a name, a
type word and entries, and each entry is read alone: for an enum as a value, otherwise as a
modifier. Reading a printed field instead joins a bare `default` part with the part after it
and trims that part. So two kinds of entry do not survive printing: a bare `default` word, in
any case, which the record keeps as an unknown modifier, and a default written `default=` with
white space after the sign, whose value keeps it.

Main statement: `ofRecord_parse_render_iff`, a field built from a record whose words hold no
separator reads back from its print exactly when it has neither kind of modifier. -/

namespace CrudScaffold

open Text

/-- A modifier that printing and reading again gives back: no unknown word that reads as
`default`, and no default value with white space in front. -/
def Modifier.Reprintable : Modifier → Prop
  | .default v => trim v = v
  | .other w => asciiLower w ≠ "default"
  | _ => True

/-! ### Reading a printed field back -/

/-- A field whose print holds no comma reads back from it exactly when it is as reading makes
fields, with trimmed default values. -/
theorem Field.parse_render_iff {f : Field} (hc : ',' ∉ f.render.toList) :
    Field.parse f.render = some f ↔
      f.Canonical ∧ ∀ v, Modifier.default v ∈ f.modifiers → trim v = v := by
  constructor
  · intro h
    have hcan := Field.canonical_of_parse hc h
    have hre : some f.reread = some f := hcan.parse_render ▸ h
    exact ⟨hcan, hcan.reread_eq_self_iff.mp (Option.some.inj hre)⟩
  · rintro ⟨hcan, hd⟩
    rw [hcan.parse_render, hcan.reread_eq_self_iff.mpr hd]

theorem Field.Canonical.other_ne_default {f : Field} (hf : f.Canonical) {w : String}
    (hw : Modifier.other w ∈ f.modifiers) : asciiLower w ≠ "default" := by
  by_cases he : f.type = .enum
  · rw [(hf.values he).1] at hw
    cases hw
  · exact ((hf.modifiers he).2.2 _ hw).2.2.2

/-! ### Fields built from records -/

/-- An enum record takes its trimmed nonblank entries as values. -/
theorem Field.foldl_addEntry_enum {f : Field} (hf : f.type = .enum) (es : List String) :
    es.foldl Field.addEntry f =
      { f with enumValues := f.enumValues ++ (es.map trim).filter (fun v => !v.isEmpty) } := by
  induction es generalizing f with
  | nil => simp
  | cons e es ih =>
    rw [List.foldl_cons]
    by_cases hb : (trim e).isEmpty = true
    · have hadd : f.addEntry e = f := by simp [Field.addEntry, hb]
      rw [hadd, ih hf]
      simp [hb]
    · have hadd : f.addEntry e = { f with enumValues := f.enumValues ++ [trim e] } := by
        simp [Field.addEntry, hb, hf]
      rw [hadd, ih (f := { f with enumValues := f.enumValues ++ [trim e] }) hf]
      simp [hb]

theorem Field.ofRecord_enum (name : String) (es : List String) :
    Field.ofRecord name .enum es =
      ⟨trim name, .enum, [], (es.map trim).filter (fun v => !v.isEmpty)⟩ := by
  rw [Field.ofRecord, Field.foldl_addEntry_enum rfl]
  rfl

/-- A record keeps its trimmed name and its type. -/
theorem Field.ofRecord_name_type (name : String) (t : FieldType) (es : List String) :
    (Field.ofRecord name t es).name = trim name ∧ (Field.ofRecord name t es).type = t := by
  by_cases henum : t = .enum
  · rw [henum, Field.ofRecord_enum]
    exact ⟨rfl, rfl⟩
  · obtain ⟨ms, hf, -⟩ := Field.ofRecord_of_ne_enum henum name es
    rw [hf]
    exact ⟨rfl, rfl⟩

-- The modifier read from an entry is named in the statements below: a check that unfolds
-- `Modifier.render` or `Readable` of a reading runs the reading on the words it compares.
theorem Modifier.comma_not_mem_render_parse {e : String} {m : Modifier} (hw : SpecWord e)
    (hm : Modifier.parse (trim e) = m) : ',' ∉ m.render.toList := by
  cases m with
  | default v =>
    -- the value is the end of the entry
    have hsub : v.toList ⊆ e.toList := by
      rcases Modifier.trim_eq_of_parse_default hm with he | he <;>
      · rw [trim_trim] at he
        intro c hc
        apply trim_subset e
        rw [he, String.toList_append]
        exact List.mem_append_right _ hc
    simp only [Modifier.render, String.toList_append, List.mem_append, not_or]
    exact ⟨by decide, fun hc => hw.2 (hsub hc)⟩
  | other w =>
    have hw' : w = trim e := (Modifier.eq_trim_of_parse_other hm).trans (trim_trim e)
    subst hw'
    exact (hw.trim).2
  | _ => decide

/-- A field built from a record whose words hold no separator prints without a comma. -/
theorem Field.comma_not_mem_render_ofRecord {name type : String} {es : List String}
    (hn : SpecWord name) (ht : SpecWord type) (he : ∀ e ∈ es, SpecWord e) :
    ',' ∉ (Field.ofRecord name (FieldType.parse type) es).render.toList := by
  -- every colon part after the name is a word read from the record
  have htail : ∀ t ∈ (if (FieldType.parse type) = .enum then
      (Field.ofRecord name (FieldType.parse type) es).enumValues
      else (Field.ofRecord name (FieldType.parse type) es).modifiers.map Modifier.render),
      ',' ∉ t.toList := by
    by_cases henum : FieldType.parse type = .enum
    · rw [if_pos henum, henum, Field.ofRecord_enum]
      intro t ht'
      obtain ⟨⟨e, he', rfl⟩, -⟩ := by simpa using ht'
      exact ((he e he').trim).2
    · rw [if_neg henum]
      obtain ⟨ms, hf, -, hms⟩ := Field.ofRecord_of_ne_enum henum name es
      rw [hf]
      intro t ht'
      obtain ⟨m, hm, rfl⟩ := List.mem_map.mp ht'
      obtain ⟨e, he', -, hme⟩ := hms m hm
      exact Modifier.comma_not_mem_render_parse (he e he') hme.symm
  obtain ⟨hname, htype⟩ := Field.ofRecord_name_type name (FieldType.parse type) es
  rw [Field.render]
  simp only [String.toList_append, String.toList_join, List.mem_append, List.mem_flatMap,
    List.mem_map, not_or, not_exists, not_and]
  refine ⟨⟨⟨by rw [hname]; exact hn.trim.2, by decide⟩, by
    rw [htype]; exact (FieldType.specWord_name_parse ht).2⟩, ?_⟩
  rintro _ ⟨t, ht', rfl⟩ hc
  rw [htype] at ht'
  simp only [String.toList_append, List.mem_append] at hc
  rcases hc with hc | hc
  · simp at hc
  · exact htail t ht' hc

/-- A modifier read from a nonblank entry is readable unless it is an unknown word that reads
as `default`. -/
theorem Modifier.readable_parse_trim {e : String} {m : Modifier} (hw : SpecWord e)
    (hne : trim e ≠ "") (hm : Modifier.parse (trim e) = m)
    (hd : ∀ w, m = .other w → asciiLower w ≠ "default") : m.Readable := by
  cases m with
  | default v => exact Modifier.readable_of_parse_default hw.trim (trim_trim e) hm
  | other w =>
    have hw' : w = trim e := (Modifier.eq_trim_of_parse_other hm).trans (trim_trim e)
    subst hw'
    exact ⟨hw.trim, hne, hm, hd _ rfl⟩
  | _ => trivial

/-- A field built from a record is as reading makes fields unless one of its modifiers is an
unknown word that reads as `default`. -/
theorem Field.canonical_ofRecord {name type : String} {es : List String} (hn : SpecWord name)
    (hne : trim name ≠ "") (ht : SpecWord type) (he : ∀ e ∈ es, SpecWord e)
    (hother : ∀ w, Modifier.other w ∈ (Field.ofRecord name (FieldType.parse type) es).modifiers →
      asciiLower w ≠ "default") :
    (Field.ofRecord name (FieldType.parse type) es).Canonical := by
  have hword := FieldType.specWord_name_parse ht
  have hend := FieldType.noTrailingBlank_name_parse type
  have hreads := FieldType.parse_name_parse type
  by_cases henum : FieldType.parse type = .enum
  · rw [henum] at hword hend hreads ⊢
    rw [Field.ofRecord_enum]
    refine ⟨hn.trim, trimmed_trim name, hne, hword, hend, hreads, fun _ => ⟨rfl, ?_⟩,
      fun h => absurd rfl h⟩
    intro v hv
    obtain ⟨⟨e, he', rfl⟩, hblank⟩ := by simpa using hv
    exact ⟨(he e he').trim, trimmed_trim e, hblank⟩
  · obtain ⟨ms, hf, hnd, hms⟩ := Field.ofRecord_of_ne_enum henum name es
    rw [hf] at hother ⊢
    refine ⟨hn.trim, trimmed_trim name, hne, hword, hend, hreads, fun h => absurd h henum,
      fun _ => ⟨rfl, hnd, ?_⟩⟩
    intro m hm
    obtain ⟨e, he', hblank, hme⟩ := hms m hm
    exact Modifier.readable_parse_trim (he e he') hblank hme.symm fun w hw => hother w (hw ▸ hm)

/-- A field built from a record of a name that is not blank, a type word and entries, all
free of separators, reads back from its print exactly when no entry became an unknown
modifier that reads as `default` and no default value starts with white space. -/
theorem ofRecord_parse_render_iff {name type : String} {entries : List String}
    (hn : SpecWord name) (hne : trim name ≠ "") (ht : SpecWord type)
    (he : ∀ e ∈ entries, SpecWord e) :
    Field.parse (Field.ofRecord name (FieldType.parse type) entries).render =
        some (Field.ofRecord name (FieldType.parse type) entries) ↔
      ∀ m ∈ (Field.ofRecord name (FieldType.parse type) entries).modifiers, m.Reprintable := by
  rw [Field.parse_render_iff (Field.comma_not_mem_render_ofRecord hn ht he)]
  constructor
  · rintro ⟨hcan, hd⟩ m hm
    cases m with
    | default v => exact hd v hm
    | other w => exact hcan.other_ne_default hm
    | _ => trivial
  · intro h
    exact ⟨Field.canonical_ofRecord hn hne ht he fun w hw => h _ hw, fun v hv => h _ hv⟩

/-- A price that may be null and defaults to zero reads back from its print. -/
theorem price_record_reprinted :
    Field.parse (Field.ofRecord "price" (FieldType.parse "decimal") ["nullable", "default=0"]).render =
      some (Field.ofRecord "price" (FieldType.parse "decimal") ["nullable", "default=0"]) := by
  have hmods : (Field.ofRecord "price" (FieldType.parse "decimal")
      ["nullable", "default=0"]).modifiers = [.nullable, .default "0"] := by decide +kernel
  refine (ofRecord_parse_render_iff ⟨by decide, by decide⟩ (by decide +kernel)
    ⟨by decide, by decide⟩ ?_).mpr ?_
  · intro e he
    simp only [List.mem_cons, List.not_mem_nil, or_false] at he
    rcases he with rfl | rfl <;> exact ⟨by decide, by decide⟩
  rw [hmods]
  intro m hm
  simp only [List.mem_cons, List.not_mem_nil, or_false] at hm
  rcases hm with rfl | rfl
  · trivial
  · show trim "0" = "0"
    decide +kernel

/-- A record entry that is a bare `default` becomes an unknown modifier, which reading the
print drops. -/
theorem bare_default_entry_lost_in_print :
    Field.parse (Field.ofRecord "x" (FieldType.parse "string") ["default"]).render ≠
      some (Field.ofRecord "x" (FieldType.parse "string") ["default"]) := by
  decide +kernel

end CrudScaffold
