import CrudScaffold.Spec.Field
import CrudScaffold.Proofs.Text

/-! Reading a printed field spec again. A field prints as its name, its type and its
modifiers (or enum values) joined by colons, a default as `default:v`. Reading trims every
colon part and joins a bare `default` with the part after it, so the value of a default
comes back trimmed. A default read from `default= v` keeps the blank in front of `v`; it is
the one thing that does not survive printing and reading again.

Main statement: `parseFields_toSpec_parseFields_iff`, printing the fields read from a spec
and reading them again gives the same fields exactly when no default value read from the
spec starts with white space. -/

namespace CrudScaffold

open Text

/-- A word of the field grammar: it holds neither of the separators. -/
def SpecWord (w : String) : Prop := ':' ∉ w.toList ∧ ',' ∉ w.toList

theorem SpecWord.of_subset {v w : String} (hw : SpecWord w) (h : v.toList ⊆ w.toList) :
    SpecWord v :=
  ⟨fun hc => hw.1 (h hc), fun hc => hw.2 (h hc)⟩

theorem SpecWord.trim {w : String} (hw : SpecWord w) : SpecWord (trim w) :=
  hw.of_subset (trim_subset w)

/-- A colon part of a segment that holds no comma is a word of the grammar. -/
theorem specWord_of_mem_split {s p : String} (hs : ',' ∉ s.toList) (h : p ∈ split s ':') :
    SpecWord p :=
  ⟨(mem_split h).1, fun hc => hs ((mem_split h).2 hc)⟩

/-! ### Type words -/

theorem FieldType.parse_trim (x : String) : FieldType.parse (trim x) = FieldType.parse x := by
  simp only [FieldType.parse, trim_trim]

theorem FieldType.eq_trim_of_parse_unknown {x w : String} (h : FieldType.parse x = .unknown w) :
    w = trim x := by
  dsimp only [FieldType.parse] at h
  split at h <;> simp_all

/-- A type prints as a word that reads back as the same type. -/
theorem FieldType.parse_name_parse (x : String) :
    FieldType.parse (FieldType.parse x).name = FieldType.parse x := by
  cases h : FieldType.parse x with
  | unknown w =>
    calc FieldType.parse w = FieldType.parse (trim x) := by
          rw [FieldType.eq_trim_of_parse_unknown h]
      _ = .unknown w := by rw [FieldType.parse_trim, h]
  | _ => decide +kernel

theorem FieldType.specWord_name_parse {x : String} (hx : SpecWord x) :
    SpecWord (FieldType.parse x).name := by
  cases h : FieldType.parse x with
  | unknown w =>
    rw [FieldType.name, FieldType.eq_trim_of_parse_unknown h]
    exact hx.trim
  | _ => exact ⟨by decide +kernel, by decide +kernel⟩

theorem FieldType.noTrailingBlank_name_parse (x : String) :
    NoTrailingBlank (FieldType.parse x).name.toList := by
  cases h : FieldType.parse x with
  | unknown w =>
    rw [FieldType.name, FieldType.eq_trim_of_parse_unknown h]
    exact (trimmed_trim x).2
  | _ => decide +kernel

/-! ### Modifier words -/

theorem stripPrefix?_eq_some {s pre v : String} (h : stripPrefix? s pre = some v) :
    s = pre ++ v := by
  unfold stripPrefix? at h
  split at h
  · rename_i hpre
    obtain ⟨t, ht⟩ := List.isPrefixOf_iff_prefix.mp hpre
    rw [← Option.some.inj h]
    apply String.ext
    have hlen : pre.length = pre.toList.length := String.length_toList.symm
    simp only [String.toList_append, String.toList_ofList]
    rw [hlen, ← ht, List.drop_left]
  · cases h

theorem stripPrefix?_append (pre rest : String) : stripPrefix? (pre ++ rest) pre = some rest := by
  have hpre : pre.toList.isPrefixOf (pre ++ rest).toList = true := by
    rw [String.toList_append]
    exact List.isPrefixOf_iff_prefix.mpr (List.prefix_append _ _)
  have hlen : pre.length = pre.toList.length := String.length_toList.symm
  unfold stripPrefix?
  rw [if_pos hpre]
  congr 1
  apply String.ext
  simp [hlen]

theorem Modifier.eq_trim_of_parse_other {x w : String} (h : Modifier.parse x = .other w) :
    w = trim x := by
  dsimp only [Modifier.parse] at h
  split at h
  · cases h
  · split at h
    · cases h
    · split at h <;> simp_all

/-- A default is read from a word that starts with `default:` or `default=`. -/
theorem Modifier.trim_eq_of_parse_default {x v : String} (h : Modifier.parse x = .default v) :
    trim x = "default:" ++ v ∨ trim x = "default=" ++ v := by
  dsimp only [Modifier.parse] at h
  split at h
  · rename_i v' hv
    cases h
    exact .inl (stripPrefix?_eq_some hv)
  · split at h
    · rename_i v' hv
      cases h
      exact .inr (stripPrefix?_eq_some hv)
    · split at h <;> simp_all

theorem noTrailingBlank_append {a b : List Char} (ha : NoTrailingBlank a)
    (hb : NoTrailingBlank b) : NoTrailingBlank (a ++ b) := by
  intro c hc
  rw [List.getLast?_append, Option.mem_def] at hc
  cases hl : b.getLast? with
  | none => rw [hl, Option.none_or] at hc; exact ha c hc
  | some d => rw [hl, Option.some_or] at hc; exact hb c (by rw [hl]; exact hc)

/-! ### Modifiers as reading makes them -/

/-- A modifier as reading a spec makes it: the value of a default holds no separator and ends
in no blank, and an unknown word is a nonempty word that reads as itself and is no
`default`. -/
def Modifier.Readable : Modifier → Prop
  | .default v => SpecWord v ∧ NoTrailingBlank v.toList
  | .other w => SpecWord w ∧ w ≠ "" ∧ Modifier.parse w = .other w ∧ asciiLower w ≠ "default"
  | _ => True

/-- The colon parts a printed modifier splits into. -/
def Modifier.pieces : Modifier → List String
  | .default v => ["default", v]
  | m => [m.render]

/-- The entry that reading makes of the parts of a printed modifier. -/
def Modifier.entry : Modifier → String
  | .default v => "default:" ++ trim v
  | m => m.render

/-- What reading a printed modifier gives back: a default loses the blanks in front of its
value. -/
def Modifier.reread : Modifier → Modifier
  | .default v => .default (trim v)
  | m => m

theorem Modifier.sep_render (m : Modifier) :
    ":" ++ m.render = String.join (m.pieces.map (":" ++ ·)) := by
  cases m <;> simp [Modifier.render, Modifier.pieces, String.ext_iff]

theorem Modifier.Readable.pieces {m : Modifier} (h : m.Readable) :
    ∀ p ∈ m.pieces, SpecWord p ∧ NoTrailingBlank p.toList := by
  cases m with
  | default v =>
    simp only [Modifier.pieces, List.mem_cons, List.not_mem_nil, or_false]
    rintro p (rfl | rfl)
    · exact ⟨⟨by decide, by decide⟩, by decide +kernel⟩
    · exact h
  | other w =>
    simp only [Modifier.pieces, Modifier.render, List.mem_singleton]
    rintro p rfl
    obtain ⟨hw, -, hparse, -⟩ := h
    refine ⟨hw, ?_⟩
    rw [Modifier.eq_trim_of_parse_other hparse]
    exact (trimmed_trim p).2
  | _ =>
    simp only [Modifier.pieces, Modifier.render, List.mem_singleton]
    rintro p rfl
    exact ⟨⟨by decide, by decide⟩, by decide +kernel⟩

theorem Field.joinDefaults_cons_of_ne {p : String} (hp : asciiLower (trim p) ≠ "default")
    (rest : List String) : Field.joinDefaults (p :: rest) = trim p :: Field.joinDefaults rest := by
  cases rest <;> simp [Field.joinDefaults, hp]

theorem Modifier.Readable.joinDefaults {m : Modifier} (h : m.Readable) (rest : List String) :
    Field.joinDefaults (m.pieces ++ rest) = m.entry :: Field.joinDefaults rest := by
  cases m with
  | default v =>
    have hd : asciiLower (trim "default") = "default" := by decide +kernel
    simp [Modifier.pieces, Modifier.entry, Field.joinDefaults, hd]
  | other w =>
    obtain ⟨-, -, hparse, hlow⟩ := h
    have hw : trim w = w := (Modifier.eq_trim_of_parse_other hparse).symm
    simp only [Modifier.pieces, Modifier.entry, Modifier.render, List.singleton_append]
    rw [Field.joinDefaults_cons_of_ne (by rw [hw]; exact hlow), hw]
  | _ =>
    simp only [Modifier.pieces, Modifier.entry, Modifier.render, List.singleton_append]
    rw [Field.joinDefaults_cons_of_ne (by decide +kernel)]
    congr 1
    decide +kernel

theorem joinDefaults_flatMap_pieces {ms : List Modifier} (h : ∀ m ∈ ms, m.Readable) :
    Field.joinDefaults (ms.flatMap Modifier.pieces) = ms.map Modifier.entry := by
  induction ms with
  | nil => rfl
  | cons m ms ih =>
    rw [List.flatMap_cons, (h m List.mem_cons_self).joinDefaults,
      ih (fun m' hm' => h m' (List.mem_cons_of_mem m hm')), List.map_cons]

/-- The entry of a readable modifier is trimmed, not blank, and reads as the modifier. -/
theorem Modifier.Readable.entry {m : Modifier} (h : m.Readable) :
    trim m.entry = m.entry ∧ m.entry ≠ "" ∧ Modifier.parse m.entry = m.reread := by
  cases m with
  | default v =>
    have htrim : trim ("default:" ++ trim v) = "default:" ++ trim v := by
      apply trim_of_trimmed
      refine ⟨fun c hc => ?_, ?_⟩
      · simp only [String.toList_append, Option.mem_def] at hc
        simp at hc
        rw [← hc]
        decide +kernel
      rw [String.toList_append]
      exact noTrailingBlank_append (by decide +kernel) (trimmed_trim v).2
    have hne : "default:" ++ trim v ≠ "" := by
      intro he
      have hl := congrArg String.length he
      simp at hl
    refine ⟨htrim, hne, ?_⟩
    simp only [Modifier.entry, Modifier.reread, Modifier.parse, htrim, stripPrefix?_append]
  | other w =>
    obtain ⟨-, hne, hparse, -⟩ := h
    exact ⟨(Modifier.eq_trim_of_parse_other hparse).symm, hne, hparse⟩
  | _ => exact ⟨by decide +kernel, by decide, by decide +kernel⟩

theorem noTrailingBlank_of_append {a b : List Char} (h : NoTrailingBlank (a ++ b)) :
    NoTrailingBlank b := by
  intro c hc
  apply h c
  rw [List.getLast?_append, Option.mem_def.mp hc]
  rfl

/-- A default read from a trimmed word of the grammar is readable: its value is the end of
the word. -/
theorem Modifier.readable_of_parse_default {e v : String} (hw : SpecWord e) (ht : trim e = e)
    (hm : Modifier.parse e = .default v) : (Modifier.default v).Readable := by
  rcases Modifier.trim_eq_of_parse_default hm with he | he
  · -- a word with no colon cannot start with `default:`
    exact absurd (by rw [← ht, he]; simp) hw.1
  · have hsub : v.toList ⊆ e.toList := by
      rw [← ht, he, String.toList_append]
      exact List.subset_append_right _ _
    refine ⟨hw.of_subset hsub, ?_⟩
    have hend := (trimmed_trim e).2
    rw [he, String.toList_append] at hend
    exact noTrailingBlank_of_append hend

/-- A modifier word that reads as no `default` reads as a readable modifier. -/
-- the modifier read is named: elaborating a term of type `(Modifier.parse e).Readable` puts
-- that type in normal form, which runs the reading on the unknown word `e`
theorem Modifier.readable_parse {e : String} {m : Modifier} (hw : SpecWord e) (ht : trim e = e)
    (hne : e ≠ "") (hd : asciiLower e ≠ "default") (hm : Modifier.parse e = m) : m.Readable := by
  cases m with
  | default v => exact Modifier.readable_of_parse_default hw ht hm
  | other w =>
    have hw' : w = e := (Modifier.eq_trim_of_parse_other hm).trans ht
    subst hw'
    exact ⟨hw, hne, hm, hd⟩
  | _ => trivial

/-! ### Joining `default` with its value -/

/-- Every entry of the joined parts is a default with a trimmed value, or a trimmed word that
is no `default`. -/
theorem Field.mem_joinDefaults {ps : List String} (hps : ∀ p ∈ ps, SpecWord p) {e : String}
    (he : e ∈ Field.joinDefaults ps) :
    (∃ v, SpecWord v ∧ e = "default:" ++ trim v) ∨
      (SpecWord e ∧ trim e = e ∧ asciiLower e ≠ "default") := by
  induction ps using Field.joinDefaults.induct with
  | case1 => simp [Field.joinDefaults] at he
  | case2 p hp v more ih =>
    rw [Field.joinDefaults, if_pos hp, List.mem_cons] at he
    rcases he with rfl | he
    · exact .inl ⟨v, hps v (by simp), rfl⟩
    · exact ih (fun q hq => hps q (by simp [hq])) he
  | case3 p hp =>
    rw [Field.joinDefaults, if_pos hp] at he
    simp at he
  | case4 p rest hp ih =>
    rw [Field.joinDefaults_cons_of_ne hp, List.mem_cons] at he
    rcases he with rfl | he
    · exact .inr ⟨(hps p List.mem_cons_self).trim, trim_trim p, hp⟩
    · exact ih (fun q hq => hps q (List.mem_cons_of_mem p hq)) he

theorem Modifier.readable_parse_entry {e : String} {m : Modifier}
    (he : (∃ v, SpecWord v ∧ e = "default:" ++ trim v) ∨
      (SpecWord e ∧ trim e = e ∧ asciiLower e ≠ "default"))
    (hne : trim e ≠ "") (hm : Modifier.parse (trim e) = m) : m.Readable := by
  -- the modifier is named: unfolding `Readable` of a parse is expensive
  rcases he with ⟨v, hv, he⟩ | ⟨hw, ht, hd⟩
  · -- the entry is that of the default with the trimmed value
    subst he
    have hd : (Modifier.default (trim v)).Readable := ⟨hv.trim, (trimmed_trim v).2⟩
    obtain ⟨htrim, -, hparse⟩ := hd.entry
    simp only [Modifier.entry, Modifier.reread, trim_trim] at htrim hparse
    rw [htrim, hparse] at hm
    rw [← hm]
    exact hd
  · rw [ht] at hne hm
    exact Modifier.readable_parse hw ht hne hd hm

/-! ### Adding modifiers without repeats -/

theorem Field.withModifier_of_not_mem {f : Field} {m : Modifier} (hm : m ∉ f.modifiers) :
    f.withModifier m = { f with modifiers := f.modifiers ++ [m] } := by
  rw [Field.withModifier, if_neg (fun hc => hm (List.contains_iff_mem.mp hc))]

theorem Field.foldl_withModifier_eta (f : Field) (ms : List Modifier) :
    ms.foldl Field.withModifier f = { f with modifiers := (ms.foldl Field.withModifier f).modifiers } := by
  induction ms generalizing f with
  | nil => rfl
  | cons m ms ih =>
    rw [List.foldl_cons, ih]
    unfold Field.withModifier
    split <;> rfl

theorem Field.mem_foldl_withModifier {f : Field} {ms : List Modifier} {m : Modifier} :
    m ∈ (ms.foldl Field.withModifier f).modifiers ↔ m ∈ f.modifiers ∨ m ∈ ms := by
  induction ms generalizing f with
  | nil => simp
  | cons m' ms ih =>
    rw [List.foldl_cons, ih]
    unfold Field.withModifier
    split
    · rename_i hm'
      have hm'' : m' ∈ f.modifiers := List.contains_iff_mem.mp hm'
      simp only [List.mem_cons]
      constructor
      · rintro (h | h)
        · exact .inl h
        · exact .inr (.inr h)
      · rintro (h | rfl | h)
        · exact .inl h
        · exact .inl hm''
        · exact .inr h
    · simp [or_assoc]

theorem Field.nodup_foldl_withModifier {f : Field} (hf : f.modifiers.Nodup) (ms : List Modifier) :
    (ms.foldl Field.withModifier f).modifiers.Nodup := by
  induction ms generalizing f with
  | nil => exact hf
  | cons m ms ih =>
    rw [List.foldl_cons]
    apply ih
    unfold Field.withModifier
    split
    · exact hf
    · rename_i hm
      have hm' : m ∉ f.modifiers := fun h => hm (List.contains_iff_mem.mpr h)
      refine List.nodup_append.mpr ⟨hf, by simp, fun a ha b hb hab => hm' ?_⟩
      rw [List.mem_singleton] at hb
      rw [← hb, ← hab]
      exact ha

/-- Adding modifiers that are all new keeps them in order. -/
theorem Field.foldl_withModifier_of_nodup {f : Field} {ms : List Modifier}
    (h : (f.modifiers ++ ms).Nodup) :
    ms.foldl Field.withModifier f = { f with modifiers := f.modifiers ++ ms } := by
  induction ms generalizing f with
  | nil => simp
  | cons m ms ih =>
    have hm : m ∉ f.modifiers := by
      intro hm
      exact (List.nodup_append.mp h).2.2 m hm m List.mem_cons_self rfl
    rw [List.foldl_cons, Field.withModifier_of_not_mem hm, ih (by simpa using h)]
    simp

/-- Reading the entries of a field that is no enum adds the modifiers of its nonblank
entries. -/
theorem Field.foldl_addEntry {f : Field} (hf : f.type ≠ .enum) (es : List String) :
    es.foldl Field.addEntry f =
      (es.filterMap fun raw => if (trim raw).isEmpty then none else some (Modifier.parse (trim raw))).foldl
        Field.withModifier f := by
  induction es generalizing f with
  | nil => rfl
  | cons e es ih =>
    rw [List.foldl_cons, List.filterMap_cons]
    by_cases he : (trim e).isEmpty = true
    · rw [if_pos he]
      simp only [Field.addEntry, he, if_true]
      exact ih hf
    · rw [if_neg he]
      have hadd : f.addEntry e = f.withModifier (Modifier.parse (trim e)) := by
        simp [Field.addEntry, he, hf]
      have htype : (f.withModifier (Modifier.parse (trim e))).type = f.type := by
        unfold Field.withModifier
        split <;> rfl
      rw [hadd, ih (htype ▸ hf), List.foldl_cons]

/-- A field read from entries, for a type that is no enum: its modifiers are those of its
nonblank entries, each once. -/
theorem Field.ofRecord_of_ne_enum {type : FieldType} (h : type ≠ .enum) (name : String)
    (es : List String) :
    ∃ ms, Field.ofRecord name type es = ⟨trim name, type, ms, []⟩ ∧ ms.Nodup ∧
      ∀ m ∈ ms, ∃ e ∈ es, trim e ≠ "" ∧ m = Modifier.parse (trim e) := by
  refine ⟨(Field.ofRecord name type es).modifiers, ?_, ?_, ?_⟩
  · unfold Field.ofRecord
    rw [Field.foldl_addEntry h, Field.foldl_withModifier_eta]
  · unfold Field.ofRecord
    rw [Field.foldl_addEntry h]
    exact Field.nodup_foldl_withModifier List.nodup_nil _
  · intro m hm
    unfold Field.ofRecord at hm
    rw [Field.foldl_addEntry h, Field.mem_foldl_withModifier] at hm
    rcases hm with hm | hm
    · simp at hm
    · obtain ⟨e, he, hpe⟩ := List.mem_filterMap.mp hm
      by_cases hb : (trim e).isEmpty = true
      · simp [hb] at hpe
      · rw [if_neg hb, Option.some.injEq] at hpe
        exact ⟨e, he, fun h0 => hb (by simp [h0]), hpe.symm⟩

/-! ### Fields as reading makes them -/

/-- A field as reading a spec makes it: a trimmed nonempty name and a type word that hold no
separator, and either enum values that are trimmed nonempty words or readable modifiers, each
once. -/
structure Field.Canonical (f : Field) : Prop where
  name_word : SpecWord f.name
  name_trimmed : Trimmed f.name.toList
  name_ne : f.name ≠ ""
  type_word : SpecWord f.type.name
  type_end : NoTrailingBlank f.type.name.toList
  type_reads : FieldType.parse f.type.name = f.type
  values : f.type = .enum →
    f.modifiers = [] ∧ ∀ v ∈ f.enumValues, SpecWord v ∧ Trimmed v.toList ∧ v ≠ ""
  modifiers : f.type ≠ .enum →
    f.enumValues = [] ∧ f.modifiers.Nodup ∧ ∀ m ∈ f.modifiers, m.Readable

/-- What reading a printed field gives back: the values of its defaults trimmed, and a default
that so becomes equal to an earlier one dropped. -/
def Field.reread (f : Field) : Field :=
  if f.type = .enum then f
  else (f.modifiers.map Modifier.reread).foldl Field.withModifier { f with modifiers := [] }

theorem Field.canonical_of_parse {seg : String} {f : Field} (hseg : ',' ∉ seg.toList)
    (h : Field.parse seg = some f) : f.Canonical := by
  unfold Field.parse at h
  split at h
  · rename_i rawName rawType rest hsplit
    have hpiece : ∀ p ∈ split (trim seg) ':', SpecWord p :=
      fun p hp => specWord_of_mem_split (fun hc => hseg (trim_subset seg hc)) hp
    rw [hsplit] at hpiece
    have hname : SpecWord rawName := hpiece _ (by simp)
    have htype : SpecWord rawType := hpiece _ (by simp)
    have hrest : ∀ p ∈ rest, SpecWord p := fun p hp => hpiece p (by simp [hp])
    dsimp only at h
    split at h
    · cases h
    · rename_i hblank
      have hne : trim rawName ≠ "" := fun h0 => hblank (by simp [h0])
      split at h
      · -- an enum takes the trimmed nonblank parts as its values
        rename_i henum
        cases h
        have hword : SpecWord FieldType.enum.name := ⟨by decide, by decide⟩
        have hend : NoTrailingBlank FieldType.enum.name.toList := by decide +kernel
        have hreads : FieldType.parse FieldType.enum.name = .enum := by decide +kernel
        refine ⟨hname.trim, trimmed_trim rawName, hne, hword, hend, hreads, fun _ => ⟨rfl, ?_⟩,
          fun h => absurd rfl h⟩
        intro v hv
        simp only [List.mem_filter, List.mem_map] at hv
        obtain ⟨⟨p, hp, rfl⟩, hv⟩ := hv
        exact ⟨(hrest p hp).trim, trimmed_trim p, fun h0 => by simp [h0] at hv⟩
      · rename_i henum
        obtain ⟨ms, hf, hnd, hms⟩ := Field.ofRecord_of_ne_enum henum (trim rawName)
          (Field.joinDefaults rest)
        rw [hf, trim_trim] at h
        cases h
        refine ⟨hname.trim, trimmed_trim rawName, hne, FieldType.specWord_name_parse htype,
          FieldType.noTrailingBlank_name_parse rawType, FieldType.parse_name_parse rawType,
          fun h => absurd h henum, fun _ => ⟨rfl, hnd, ?_⟩⟩
        intro m hm
        obtain ⟨e, he, hblank, hme⟩ := hms m hm
        exact Modifier.readable_parse_entry (Field.mem_joinDefaults hrest he) hblank hme.symm
  · cases h

/-! ### Printing and reading a field -/

theorem intercalate_cons_join (s a : String) (xs : List String) :
    s.intercalate (a :: xs) = a ++ String.join (xs.map (s ++ ·)) := by
  induction xs generalizing a with
  | nil => simp
  | cons x xs ih =>
    rw [String.intercalate_cons_cons, ih x]
    simp [String.append_assoc]

/-- Splitting at colons a word followed by colon-led words gives the words back. -/
theorem split_join_colon {x : String} {ys : List String} (hx : ':' ∉ x.toList)
    (hys : ∀ y ∈ ys, ':' ∉ y.toList) : split (x ++ String.join (ys.map (":" ++ ·))) ':' = x :: ys := by
  rw [← intercalate_cons_join]
  refine split_intercalate (by simp) ?_ (List.cons_ne_nil _ _)
  intro w hw
  rcases List.mem_cons.mp hw with rfl | hw
  · exact hx
  · exact hys w hw

theorem noTrailingBlank_join_colon {x : String} {ys : List String}
    (hx : NoTrailingBlank x.toList) (hys : ∀ y ∈ ys, NoTrailingBlank y.toList) :
    NoTrailingBlank (x ++ String.join (ys.map (":" ++ ·))).toList := by
  induction ys generalizing x with
  | nil => simpa using hx
  | cons y ys ih =>
    have hxy : NoTrailingBlank (x ++ (":" ++ y)).toList := by
      simp only [String.toList_append]
      exact noTrailingBlank_append hx
        (noTrailingBlank_append (by decide +kernel) (hys y List.mem_cons_self))
    have h := ih hxy (fun z hz => hys z (List.mem_cons_of_mem y hz))
    simpa [String.append_assoc] using h

/-- The colon parts a printed field splits into. -/
def Field.parts (f : Field) : List String :=
  f.type.name :: if f.type = .enum then f.enumValues else f.modifiers.flatMap Modifier.pieces

theorem Field.render_eq (f : Field) :
    f.render = f.name ++ String.join (f.parts.map (":" ++ ·)) := by
  have hmods : ∀ ms : List Modifier, String.join ((ms.map Modifier.render).map (":" ++ ·)) =
      String.join ((ms.flatMap Modifier.pieces).map (":" ++ ·)) := by
    intro ms
    induction ms with
    | nil => rfl
    | cons m ms ih =>
      simp only [List.map_cons, List.flatMap_cons, List.map_append, String.join_cons,
        String.join_append, ih, Modifier.sep_render]
  unfold Field.render Field.parts
  by_cases he : f.type = .enum
  · simp [he, String.append_assoc]
  · simp only [he, if_false, List.map_cons, String.join_cons, String.append_assoc]
    rw [hmods]

theorem Field.Canonical.parts {f : Field} (hf : f.Canonical) :
    ∀ p ∈ f.parts, SpecWord p ∧ NoTrailingBlank p.toList := by
  intro p hp
  unfold Field.parts at hp
  rcases List.mem_cons.mp hp with rfl | hp
  · exact ⟨hf.type_word, hf.type_end⟩
  · by_cases he : f.type = .enum
    · rw [if_pos he] at hp
      obtain ⟨hw, ht, -⟩ := (hf.values he).2 p hp
      exact ⟨hw, ht.2⟩
    · rw [if_neg he, List.mem_flatMap] at hp
      obtain ⟨m, hm, hp⟩ := hp
      exact ((hf.modifiers he).2.2 m hm).pieces p hp

theorem Field.Canonical.trim_render {f : Field} (hf : f.Canonical) : trim f.render = f.render := by
  apply trim_of_trimmed
  rw [Field.render_eq]
  refine ⟨?_, noTrailingBlank_join_colon hf.name_trimmed.2 fun p hp => (hf.parts p hp).2⟩
  obtain ⟨c, cs, hc⟩ := List.exists_cons_of_ne_nil (fun h0 => hf.name_ne (String.ext h0))
  have hhead := hf.name_trimmed.1
  rw [hc] at hhead
  simpa [hc] using hhead

theorem Field.Canonical.split_render {f : Field} (hf : f.Canonical) :
    split f.render ':' = f.name :: f.parts := by
  rw [Field.render_eq]
  exact split_join_colon hf.name_word.1 fun p hp => (hf.parts p hp).1.1

theorem filterMap_entries {ms : List Modifier} (h : ∀ m ∈ ms, m.Readable) :
    (ms.map Modifier.entry).filterMap
        (fun raw => if (trim raw).isEmpty then none else some (Modifier.parse (trim raw))) =
      ms.map Modifier.reread := by
  induction ms with
  | nil => rfl
  | cons m ms ih =>
    obtain ⟨htrim, hne, hparse⟩ := (h m List.mem_cons_self).entry
    have hb : ¬(trim m.entry).isEmpty = true := by simpa [htrim] using hne
    rw [List.map_cons, List.filterMap_cons, if_neg hb, htrim, hparse,
      ih (fun m' hm' => h m' (List.mem_cons_of_mem m hm')), List.map_cons]

/-- A field as reading makes it prints as a segment that reads back as the field with its
default values trimmed. -/
theorem Field.Canonical.parse_render {f : Field} (hf : f.Canonical) :
    Field.parse f.render = some f.reread := by
  have hname : trim f.name = f.name := trim_of_trimmed hf.name_trimmed
  have hblank : ¬f.name.isEmpty = true := by simpa using hf.name_ne
  unfold Field.parse
  rw [hf.trim_render, hf.split_render]
  simp only [Field.parts, hname, hblank, hf.type_reads]
  by_cases he : f.type = .enum
  · obtain ⟨hmods, hvals⟩ := hf.values he
    have htrim : f.enumValues.map trim = f.enumValues :=
      calc f.enumValues.map trim = f.enumValues.map id :=
            List.map_congr_left fun v hv => trim_of_trimmed (hvals v hv).2.1
        _ = f.enumValues := List.map_id _
    have hkeep : f.enumValues.filter (fun v => !v.isEmpty) = f.enumValues :=
      List.filter_eq_self.mpr fun v hv => by simpa using (hvals v hv).2.2
    simp only [he, if_true, htrim, hkeep, Field.reread]
    cases f
    simp_all
  · obtain ⟨hvals, -, hmods⟩ := hf.modifiers he
    simp only [he, if_false, joinDefaults_flatMap_pieces hmods, Field.reread, Field.ofRecord,
      hname]
    rw [Field.foldl_addEntry (f := ⟨f.name, f.type, [], []⟩) he, filterMap_entries hmods]
    cases f
    simp_all

theorem Field.Canonical.comma_not_mem_render {f : Field} (hf : f.Canonical) :
    ',' ∉ f.render.toList := by
  rw [Field.render_eq]
  simp only [String.toList_append, String.toList_join, List.mem_append, List.mem_flatMap,
    List.mem_map, not_or, not_exists, not_and]
  refine ⟨hf.name_word.2, ?_⟩
  rintro _ ⟨p, hp, rfl⟩ hc
  simp only [String.toList_append, List.mem_append] at hc
  rcases hc with hc | hc
  · simp at hc
  · exact (hf.parts p hp).1.2 hc

theorem Field.reread_name (f : Field) : f.reread.name = f.name := by
  unfold Field.reread
  split
  · rfl
  · rw [Field.foldl_withModifier_eta]

theorem Modifier.reread_reread (m : Modifier) : m.reread.reread = m.reread := by
  cases m <;> simp [Modifier.reread, trim_trim]

/-- Reading again changes a field read from a spec exactly when one of its default values
starts with white space. -/
theorem Field.Canonical.reread_eq_self_iff {f : Field} (hf : f.Canonical) :
    f.reread = f ↔ ∀ v, Modifier.default v ∈ f.modifiers → trim v = v := by
  by_cases he : f.type = .enum
  · simp [Field.reread, he, (hf.values he).1]
  obtain ⟨-, hnodup, -⟩ := hf.modifiers he
  constructor
  · intro h v hv
    -- every modifier of the field is one read again, and reading again twice is reading once
    have hmem : Modifier.default v ∈ f.modifiers.map Modifier.reread := by
      rw [← h] at hv
      simpa [Field.reread, he, Field.mem_foldl_withModifier] using hv
    obtain ⟨m, -, hmv⟩ := List.mem_map.mp hmem
    have hfix := Modifier.reread_reread m
    rw [hmv] at hfix
    simpa [Modifier.reread] using hfix
  · intro h
    have hfix : f.modifiers.map Modifier.reread = f.modifiers :=
      calc f.modifiers.map Modifier.reread = f.modifiers.map id := by
            refine List.map_congr_left fun m hm => ?_
            cases m with
            | default v => simp [Modifier.reread, h v hm]
            | _ => rfl
        _ = f.modifiers := List.map_id _
    rw [Field.reread, if_neg he, hfix, Field.foldl_withModifier_of_nodup (by simpa using hnodup)]
    simp

/-! ### Whole specs -/

theorem foldl_keepFirst_of_nodup {acc fs : List Field}
    (h : ((acc.reverse ++ fs).map Field.name).Nodup) :
    fs.foldl (fun acc f => if acc.any (·.name == f.name) then acc else f :: acc) acc =
      fs.reverse ++ acc := by
  induction fs generalizing acc with
  | nil => simp
  | cons f fs ih =>
    have hnew : ¬acc.any (·.name == f.name) = true := by
      simp only [List.any_eq_true, beq_iff_eq, not_exists, not_and]
      intro g hg hname
      rw [List.map_append, List.nodup_append] at h
      exact h.2.2 g.name (by simpa using ⟨g, hg, rfl⟩) f.name (by simp) hname
    rw [List.foldl_cons, if_neg hnew, ih (by simpa using h)]
    simp

theorem nodup_foldl_keepFirst {acc : List Field} (h : (acc.map Field.name).Nodup)
    (fs : List Field) :
    ((fs.foldl (fun acc f => if acc.any (·.name == f.name) then acc else f :: acc) acc).map
      Field.name).Nodup := by
  induction fs generalizing acc with
  | nil => exact h
  | cons f fs ih =>
    rw [List.foldl_cons]
    apply ih
    split
    · exact h
    · rename_i hnew
      simp only [List.any_eq_true, beq_iff_eq, not_exists, not_and] at hnew
      simpa [List.nodup_cons, h] using hnew

theorem mem_foldl_keepFirst {acc fs : List Field} {g : Field}
    (h : g ∈ fs.foldl (fun acc f => if acc.any (·.name == f.name) then acc else f :: acc) acc) :
    g ∈ acc ∨ g ∈ fs := by
  induction fs generalizing acc with
  | nil => exact .inl h
  | cons f fs ih =>
    rw [List.foldl_cons] at h
    rcases ih h with hg | hg
    · split at hg
      · exact .inl hg
      · rcases List.mem_cons.mp hg with rfl | hg
        · exact .inr List.mem_cons_self
        · exact .inl hg
    · exact .inr (List.mem_cons_of_mem f hg)

theorem uniqueFields_of_nodup {fs : List Field} (h : (fs.map Field.name).Nodup) :
    uniqueFields fs = fs := by
  rw [uniqueFields, foldl_keepFirst_of_nodup (by simpa using h)]
  simp

theorem nodup_names_uniqueFields (fs : List Field) : ((uniqueFields fs).map Field.name).Nodup := by
  rw [uniqueFields, List.map_reverse, (List.reverse_perm _).nodup_iff]
  exact nodup_foldl_keepFirst (by simp) fs

theorem mem_of_mem_uniqueFields {fs : List Field} {f : Field} (h : f ∈ uniqueFields fs) :
    f ∈ fs := by
  rw [uniqueFields, List.mem_reverse] at h
  simpa using mem_foldl_keepFirst h

theorem canonical_of_mem_parseFields {s : String} {f : Field} (h : f ∈ parseFields s) :
    f.Canonical := by
  obtain ⟨seg, hseg, hf⟩ := List.mem_filterMap.mp (mem_of_mem_uniqueFields h)
  exact Field.canonical_of_parse (mem_split hseg).1 hf

theorem filterMap_parse_render {fs : List Field} (hc : ∀ f ∈ fs, f.Canonical) :
    (fs.map Field.render).filterMap Field.parse = fs.map Field.reread := by
  induction fs with
  | nil => rfl
  | cons f fs ih =>
    rw [List.map_cons, List.filterMap_cons_some (hc f List.mem_cons_self).parse_render,
      ih fun g hg => hc g (List.mem_cons_of_mem f hg), List.map_cons]

/-- Printing fields as reading makes them, with distinct names, and reading the text again
gives each field with its default values trimmed. -/
theorem parseFields_toSpec_of_canonical {fs : List Field} (hc : ∀ f ∈ fs, f.Canonical)
    (hn : (fs.map Field.name).Nodup) : parseFields (toSpec fs) = fs.map Field.reread := by
  by_cases hne : fs = []
  · subst hne
    rfl
  have hsplit : split (toSpec fs) ',' = fs.map Field.render :=
    split_intercalate rfl (by simpa using fun f hf => (hc f hf).comma_not_mem_render)
      (by simpa using hne)
  have hnames : ((fs.map Field.reread).map Field.name).Nodup := by
    simpa [Function.comp_def, Field.reread_name] using hn
  rw [parseFields, hsplit, filterMap_parse_render hc, uniqueFields_of_nodup hnames]

theorem parseFields_toSpec_parseFields_iff (s : String) :
    parseFields (toSpec (parseFields s)) = parseFields s ↔
      ∀ f ∈ parseFields s, ∀ v, Modifier.default v ∈ f.modifiers → trim v = v := by
  have hc : ∀ f ∈ parseFields s, f.Canonical := fun f hf => canonical_of_mem_parseFields hf
  have hn : ((parseFields s).map Field.name).Nodup := nodup_names_uniqueFields _
  rw [parseFields_toSpec_of_canonical hc hn]
  calc (parseFields s).map Field.reread = parseFields s
      ↔ (parseFields s).map Field.reread = (parseFields s).map id := by rw [List.map_id]
    _ ↔ ∀ f ∈ parseFields s, f.reread = f := List.map_eq_map_iff
    _ ↔ _ := forall₂_congr fun f hf => (hc f hf).reread_eq_self_iff

/-- A default written as `default= a` keeps the blank in front of its value, and printing and
reading again loses it. -/
theorem parseFields_toSpec_blank_default :
    parseFields (toSpec (parseFields "x:string:default= a")) ≠
      parseFields "x:string:default= a" := by
  decide +kernel

end CrudScaffold
