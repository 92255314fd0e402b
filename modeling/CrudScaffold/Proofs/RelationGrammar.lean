import CrudScaffold.Spec.Relation
import CrudScaffold.Proofs.FieldGrammar

/-! Reading a printed relation spec again. Reading trims the segment and each of its colon
parts, drops a blank key and takes a kind word it does not know for `belongsTo`; so what it
makes has a trimmed, nonempty model and key that hold no separator, and a relation of that
form prints as `kind:Model[:key]`, which reads back as the same relation.

Main statement: `parseRelations_roundTrip`. -/

namespace CrudScaffold

open Text

/-- A relation as reading a spec makes it: its model, and its key if it has one, are
trimmed nonempty words of the grammar. -/
structure Relation.Canonical (r : Relation) : Prop where
  target_word : SpecWord r.target
  target_trimmed : Trimmed r.target.toList
  target_ne : r.target ≠ ""
  key : ∀ k ∈ r.foreignKey, SpecWord k ∧ Trimmed k.toList ∧ k ≠ ""

/-! ### Kind words -/

theorem RelationKind.parse?_trim (w : String) :
    RelationKind.parse? (trim w) = RelationKind.parse? w := by
  simp only [RelationKind.parse?, trim_trim]

theorem RelationKind.parse?_name (k : RelationKind) : RelationKind.parse? k.name = some k := by
  cases k <;> decide +kernel

/-- The kind of a relation made from parts: the kind word's, unless it is missing, blank or
unknown. -/
def kindOfWord (kind : Option String) : RelationKind :=
  (((kind.map trim).filter (fun w => !w.isEmpty)).bind RelationKind.parse?).getD .belongsTo

theorem kindOfWord_of_parse?_none {w : String} (h : RelationKind.parse? w = none) :
    kindOfWord (some w) = .belongsTo := by
  have h' : RelationKind.parse? (trim w) = none := by rw [RelationKind.parse?_trim, h]
  unfold kindOfWord
  rw [Option.map_some, Option.filter_some]
  split <;> simp [h']

theorem kindOfWord_name (k : RelationKind) : kindOfWord (some k.name) = k := by
  have htrim : trim k.name = k.name := by cases k <;> decide +kernel
  have hne : k.name.isEmpty = false := by cases k <;> decide
  simp [kindOfWord, Option.filter_some, htrim, hne, RelationKind.parse?_name]

/-! ### Relations made from parts -/

theorem Relation.make_kind (k : RelationKind) (target : String) (key : Option String) :
    (Relation.make k target key).kind = k := rfl

theorem Relation.ofParts_eq (kind : Option String) (model : String) (key : Option String) :
    Relation.ofParts kind model key =
      if (trim model).isEmpty then none
      else some (Relation.make (kindOfWord kind) (trim model) key) := by
  unfold Relation.ofParts kindOfWord
  by_cases hb : (trim model).isEmpty = true
  · simp only [hb, ↓reduceIte]
  · simp only [hb, Bool.false_eq_true, ↓reduceIte]
    cases (kind.map trim).filter (fun w => !w.isEmpty) <;> rfl

theorem Relation.ofParts_eq_some {kind : Option String} {model : String} {key : Option String}
    {r : Relation} (h : Relation.ofParts kind model key = some r) :
    trim model ≠ "" ∧ r = Relation.make (kindOfWord kind) (trim model) key := by
  rw [Relation.ofParts_eq] at h
  split at h
  · cases h
  · rename_i hblank
    exact ⟨fun h0 => hblank (by simp [h0]), (Option.some.inj h).symm⟩

theorem Relation.ofParts_of_ne {kind : Option String} {model : String} {key : Option String}
    (h : trim model ≠ "") :
    Relation.ofParts kind model key = some (Relation.make (kindOfWord kind) (trim model) key) := by
  rw [Relation.ofParts_eq, if_neg (by simpa using h)]

/-- A relation made from a model and a key that hold no separator has the grammar's form. -/
theorem Relation.canonical_of_ofParts {kind : Option String} {model : String}
    {key : Option String} {r : Relation} (hm : SpecWord model) (hk : ∀ k ∈ key, SpecWord k)
    (h : Relation.ofParts kind model key = some r) : r.Canonical := by
  obtain ⟨hne, rfl⟩ := Relation.ofParts_eq_some h
  refine ⟨hm.trim, trimmed_trim model, hne, ?_⟩
  intro k hmem
  simp only [Relation.make, Option.mem_def, Option.filter_eq_some_iff, Option.map_eq_some_iff,
    Bool.not_eq_true', String.isEmpty_eq_false_iff] at hmem
  obtain ⟨⟨k₀, hk₀, rfl⟩, hblank⟩ := hmem
  exact ⟨(hk k₀ hk₀).trim, trimmed_trim k₀, by simpa using hblank⟩

/-! ### Reading one segment -/

theorem Relation.parse_of_single {seg model : String}
    (h : (split (trim seg) ':').map trim = [model]) :
    Relation.parse seg = Relation.ofParts none model none := by
  unfold Relation.parse
  rw [h]

theorem Relation.parse_of_parts {seg kind model : String} {rest : List String}
    (h : (split (trim seg) ':').map trim = kind :: model :: rest) :
    Relation.parse seg = Relation.ofParts (some kind) model rest.head? := by
  unfold Relation.parse
  rw [h]
  cases rest <;> rfl

theorem specWord_of_mem_parts {seg x : String} (hseg : ',' ∉ seg.toList)
    (hx : x ∈ (split (trim seg) ':').map trim) : SpecWord x := by
  obtain ⟨p, hp, rfl⟩ := List.mem_map.mp hx
  exact (specWord_of_mem_split (fun hc => hseg (trim_subset seg hc)) hp).trim

/-- A segment without a comma reads as a relation of the grammar's form, if at all. -/
theorem Relation.canonical_of_parse {seg : String} {r : Relation} (hseg : ',' ∉ seg.toList)
    (h : Relation.parse seg = some r) : r.Canonical := by
  have hword := fun x => specWord_of_mem_parts (x := x) hseg
  cases hp : (split (trim seg) ':').map trim with
  | nil =>
    unfold Relation.parse at h
    rw [hp] at h
    cases h
  | cons a t =>
    cases t with
    | nil =>
      rw [Relation.parse_of_single hp] at h
      exact Relation.canonical_of_ofParts (hword a (by simp [hp])) (by simp) h
    | cons b rest =>
      rw [Relation.parse_of_parts hp] at h
      refine Relation.canonical_of_ofParts (hword b (by simp [hp])) ?_ h
      intro k hk
      exact hword k (by cases rest <;> simp_all)

/-! ### Printing and reading a relation -/

/-- The colon parts after the kind word of a printed relation. -/
def Relation.tailParts (r : Relation) : List String :=
  r.target :: r.foreignKey.toList

theorem Relation.render_eq (r : Relation) :
    r.render = r.kind.name ++ String.join (r.tailParts.map (":" ++ ·)) := by
  cases hk : r.foreignKey <;> simp [Relation.render, Relation.tailParts, hk, String.append_assoc]

theorem Relation.Canonical.tailParts {r : Relation} (hr : r.Canonical) :
    ∀ p ∈ r.tailParts, SpecWord p ∧ Trimmed p.toList := by
  intro p hp
  rcases List.mem_cons.mp hp with rfl | hp
  · exact ⟨hr.target_word, hr.target_trimmed⟩
  · obtain ⟨hw, ht, -⟩ := hr.key p (by simpa using hp)
    exact ⟨hw, ht⟩

theorem RelationKind.trimmed_name (k : RelationKind) : Trimmed k.name.toList := by
  cases k <;> decide +kernel

theorem Relation.Canonical.trim_render {r : Relation} (hr : r.Canonical) :
    trim r.render = r.render := by
  apply trim_of_trimmed
  rw [Relation.render_eq]
  refine ⟨?_, noTrailingBlank_join_colon (RelationKind.trimmed_name r.kind).2
    fun p hp => (hr.tailParts p hp).2.2⟩
  -- the kind word is never empty, so it supplies the first character
  obtain ⟨c, cs, hc⟩ : ∃ c cs, r.kind.name.toList = c :: cs := by
    cases r.kind <;> exact ⟨_, _, rfl⟩
  have hhead := (RelationKind.trimmed_name r.kind).1
  rw [hc] at hhead
  simpa [hc] using hhead

theorem Relation.Canonical.split_render {r : Relation} (hr : r.Canonical) :
    split r.render ':' = r.kind.name :: r.tailParts := by
  rw [Relation.render_eq]
  exact split_join_colon (by cases r.kind <;> decide) fun p hp => (hr.tailParts p hp).1.1

/-- A relation of the grammar's form prints as a segment that reads back as itself. -/
theorem Relation.Canonical.parse_render {r : Relation} (hr : r.Canonical) :
    Relation.parse r.render = some r := by
  have htrim : r.tailParts.map trim = r.tailParts :=
    calc r.tailParts.map trim = r.tailParts.map id :=
          List.map_congr_left fun p hp => trim_of_trimmed (hr.tailParts p hp).2
      _ = r.tailParts := List.map_id _
  have hparts : (split (trim r.render) ':').map trim = r.kind.name :: r.target ::
      r.foreignKey.toList := by
    rw [hr.trim_render, hr.split_render, List.map_cons, htrim,
      trim_of_trimmed (RelationKind.trimmed_name r.kind)]
    rfl
  have hne : trim r.target ≠ "" := by rw [trim_of_trimmed hr.target_trimmed]; exact hr.target_ne
  rw [Relation.parse_of_parts hparts, Relation.ofParts_of_ne hne, kindOfWord_name,
    trim_of_trimmed hr.target_trimmed]
  -- the key comes back as it was: trimmed and not blank
  obtain ⟨kind, target, key⟩ := r
  cases key with
  | none => rfl
  | some k =>
    obtain ⟨-, hk, hkne⟩ := hr.key k rfl
    simp [Relation.make, trim_of_trimmed hk, hkne]

theorem Relation.Canonical.comma_not_mem_render {r : Relation} (hr : r.Canonical) :
    ',' ∉ r.render.toList := by
  rw [Relation.render_eq]
  simp only [String.toList_append, String.toList_join, List.mem_append, List.mem_flatMap,
    List.mem_map, not_or, not_exists, not_and]
  refine ⟨by cases r.kind <;> decide, ?_⟩
  rintro _ ⟨p, hp, rfl⟩ hc
  simp only [String.toList_append, List.mem_append] at hc
  rcases hc with hc | hc
  · simp at hc
  · exact (hr.tailParts p hp).1.2 hc

theorem Relation.Canonical.render_not_blank {r : Relation} (hr : r.Canonical) :
    (trim r.render).isEmpty = false := by
  rw [hr.trim_render, Relation.render_eq, String.isEmpty_eq_false_iff]
  intro h0
  have hne : r.kind.name.toList ≠ [] := by cases r.kind <;> decide
  have hl : (r.kind.name ++ String.join (r.tailParts.map (":" ++ ·))).toList = [] := by
    rw [h0]
    rfl
  rw [String.toList_append, List.append_eq_nil_iff] at hl
  exact hne hl.1

/-! ### Whole specs -/

theorem canonical_of_mem_parseRelations {s : String} {r : Relation} (h : r ∈ parseRelations s) :
    r.Canonical := by
  obtain ⟨seg, hseg, hr⟩ := List.mem_filterMap.mp h
  exact Relation.canonical_of_parse (mem_split (List.mem_filter.mp hseg).1).1 hr

theorem filterMap_parse_render_relations {rs : List Relation} (hc : ∀ r ∈ rs, r.Canonical) :
    (rs.map Relation.render).filterMap Relation.parse = rs := by
  induction rs with
  | nil => rfl
  | cons r rs ih =>
    rw [List.map_cons, List.filterMap_cons_some (hc r List.mem_cons_self).parse_render,
      ih fun r' hr' => hc r' (List.mem_cons_of_mem r hr')]

/-- Relations of the grammar's form, printed and joined by commas, read back as themselves. -/
theorem parseRelations_intercalate_render {rs : List Relation} (hc : ∀ r ∈ rs, r.Canonical) :
    parseRelations (",".intercalate (rs.map Relation.render)) = rs := by
  cases rs with
  | nil => decide
  | cons r rs =>
    have hsplit : split (",".intercalate ((r :: rs).map Relation.render)) ',' =
        (r :: rs).map Relation.render :=
      split_intercalate rfl (by simpa using fun r hr => (hc r hr).comma_not_mem_render) (by simp)
    have hkeep : ((r :: rs).map Relation.render).filter (fun s => !(trim s).isEmpty) =
        (r :: rs).map Relation.render :=
      List.filter_eq_self.mpr fun s hs => by
        obtain ⟨r', hr', rfl⟩ := List.mem_map.mp hs
        simp [(hc r' hr').render_not_blank]
    rw [parseRelations, hsplit, hkeep, filterMap_parse_render_relations hc]

/-! ### Kind words and lone segments -/

theorem dropBlank_append_cons {x y : List Char} {c : Char} (hc : isWhiteSpace c = false) :
    dropBlank (x ++ c :: y) = dropBlank x ++ c :: y := by
  simp only [dropBlank, List.dropWhile_append]
  split
  · rename_i h
    simp [List.isEmpty_iff.mp h, hc]
  · rfl

/-- Trimming a text around a character that is no white space trims the two sides apart. -/
theorem trimChars_append_cons {x y : List Char} {c : Char} (hc : isWhiteSpace c = false) :
    trimChars (x ++ c :: y) = dropBlank x ++ c :: (dropBlank y.reverse).reverse := by
  simp [trimChars, dropBlank_append_cons hc]

theorem trimChars_dropBlank (l : List Char) : trimChars (dropBlank l) = trimChars l := by
  rw [trimChars, dropBlank_of_head (head_dropBlank l), trimChars]

/-- The colon parts of a segment whose first part is `w`: the first one trims to `trim w`. -/
theorem parts_append_colon {w rest : String} (hw : ':' ∉ w.toList) :
    ∃ more, (split (trim (w ++ ":" ++ rest)) ':').map trim = trim w :: more ∧ more ≠ [] := by
  have hlist : (trim (w ++ ":" ++ rest)).toList =
      dropBlank w.toList ++ ':' :: (dropBlank rest.toList.reverse).reverse := by
    simp only [trim, String.toList_ofList, String.toList_append]
    rw [show w.toList ++ ":".toList ++ rest.toList = w.toList ++ ':' :: rest.toList by simp]
    exact trimChars_append_cons (by decide +kernel)
  have hdrop : ':' ∉ dropBlank w.toList :=
    fun hc => hw ((List.dropWhile_suffix isWhiteSpace).subset hc)
  refine ⟨((dropBlank rest.toList.reverse).reverse.splitOn ':').map String.ofList |>.map trim,
    ?_, by simp⟩
  simp only [split, hlist, splitChars_eq_splitOn, List.splitOn_append_cons_self_of_not_mem hdrop,
    List.map_cons]
  simp [trim, trimChars_dropBlank]

/-- A kind word that names no kind, a blank one included, reads as `belongsTo`. -/
theorem Relation.parse_unknown_kind {w rest : String} {r : Relation} (hw : ':' ∉ w.toList)
    (hk : RelationKind.parse? w = none) (h : Relation.parse (w ++ ":" ++ rest) = some r) :
    r.kind = .belongsTo := by
  obtain ⟨more, hparts, hmore⟩ := @parts_append_colon w rest hw
  obtain ⟨model, more', rfl⟩ := List.exists_cons_of_ne_nil hmore
  rw [Relation.parse_of_parts hparts] at h
  have hkind : kindOfWord (some (trim w)) = .belongsTo :=
    kindOfWord_of_parse?_none (by rw [RelationKind.parse?_trim, hk])
  rw [(Relation.ofParts_eq_some h).2, Relation.make_kind]
  exact hkind

/-- A segment without a colon is a `belongsTo` of the model it names. -/
theorem Relation.parse_lone {seg : String} (h : ':' ∉ seg.toList) (hne : trim seg ≠ "") :
    Relation.parse seg = some ⟨.belongsTo, trim seg, none⟩ := by
  have hsplit : split (trim seg) ':' = [trim seg] := by
    simp [split, splitChars_eq_splitOn,
      List.splitOn_eq_singleton (fun hc => h (trim_subset seg hc))]
  rw [Relation.parse_of_single (by rw [hsplit, List.map_singleton, trim_trim]),
    Relation.ofParts_of_ne (by rwa [trim_trim])]
  simp [Relation.make, kindOfWord, trim_trim]

/-- Reading a relation spec gives relations whose model and key are trimmed, nonempty and
free of separators, each printing as a segment that reads back as itself; so the printed
relations, joined by commas, read back as the same list. A kind word that names no kind
reads as `belongsTo`, and a segment without a colon is a `belongsTo` of its model. -/
theorem parseRelations_roundTrip (s : String) :
    (∀ r ∈ parseRelations s, r.Canonical ∧ Relation.parse r.render = some r) ∧
    parseRelations (",".intercalate ((parseRelations s).map Relation.render)) =
      parseRelations s ∧
    (∀ w rest r, ':' ∉ w.toList → RelationKind.parse? w = none →
      Relation.parse (w ++ ":" ++ rest) = some r → r.kind = .belongsTo) ∧
    (∀ seg, ':' ∉ seg.toList → trim seg ≠ "" →
      Relation.parse seg = some ⟨.belongsTo, trim seg, none⟩) := by
  have hc : ∀ r ∈ parseRelations s, r.Canonical := fun r hr => canonical_of_mem_parseRelations hr
  exact ⟨fun r hr => ⟨hc r hr, (hc r hr).parse_render⟩, parseRelations_intercalate_render hc,
    fun _ _ _ hw hk h => Relation.parse_unknown_kind hw hk h,
    fun _ h hne => Relation.parse_lone h hne⟩

/-- A spec with a key, a lone model and an unknown kind word reads back through its print. -/
theorem comment_tag_user_relations_read_back :
    parseRelations (",".intercalate ((parseRelations "hasMany:Comment:post_id, Tag,owns:User").map
        Relation.render)) = parseRelations "hasMany:Comment:post_id, Tag,owns:User" ∧
      (parseRelations "hasMany:Comment:post_id, Tag,owns:User").map Relation.render =
        ["hasMany:Comment:post_id", "belongsTo:Tag", "belongsTo:User"] :=
  ⟨(parseRelations_roundTrip _).2.1, by decide +kernel⟩

end CrudScaffold
