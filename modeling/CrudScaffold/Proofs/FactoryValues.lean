import CrudScaffold.Artifact.Factory

/-! The values a factory fills columns with. A keyword in the field name chooses the value
before the type is looked at, so a name that holds a keyword gets that keyword's value
whatever its column: `is_shipped` holds `ip` and gets an IPv4 address. A field whose name
holds no keyword gets a value its column takes, for every type but the two unsigned key types,
which fall to the catch-all phrase.

Main statement: `factory_values_fit_columns`. -/

namespace CrudScaffold

/-- Every keyword the field name is searched for. -/
def nameKeywords : List String := nameKeywordStrategies.flatMap (·.1)

/-- The synthetic values a column of the field's type takes: whole numbers for the integer
types, none below zero for the unsigned ones; whole or decimal numbers for floats and
decimals; a date, or for a date and time or a timestamp a date and time or a date; a time; a
JSON object; one of the field's own values for an enum; anything for text. -/
def Field.Takes (f : Field) (s : SyntheticStrategy) : Prop :=
  match f.type with
  | .integer | .bigInteger => ∃ lo hi, s = .integerBetween lo hi
  | .unsignedBigInteger | .foreignId => ∃ lo hi, s = .integerBetween lo hi ∧ 0 ≤ lo
  | .float | .decimal =>
    (∃ lo hi, s = .integerBetween lo hi) ∨ ∃ places lo hi, s = .decimalBetween places lo hi
  | .boolean => s = .boolean
  | .date => s = .date
  | .dateTime | .timestamp => s = .dateTime ∨ s = .date
  | .time => s = .time
  | .json => s = .jsonObject
  | .enum => s = .choice f.effectiveEnumValues
  | .string | .text | .unknown _ => True

/-- A name that holds no keyword leaves the choice to the type. -/
theorem syntheticStrategy_of_no_keyword {f : Field}
    (h : ∀ kw ∈ nameKeywords, f.nameContains kw = false) :
    syntheticStrategy f = typeStrategy f := by
  have hnone : nameKeywordStrategies.find? (fun g => g.1.any f.nameContains) = none := by
    rw [List.find?_eq_none]
    intro g hg hany
    obtain ⟨kw, hkw, hc⟩ := List.any_eq_true.mp hany
    rw [h kw (List.mem_flatMap.mpr ⟨g, hg, hkw⟩)] at hc
    cases hc
  rw [syntheticStrategy, hnone]

/-- The value the type chooses fits the column, but for the unsigned key types. -/
theorem typeStrategy_takes (f : Field) (hid : f.type ≠ .foreignId)
    (hbig : f.type ≠ .unsignedBigInteger) : f.Takes (typeStrategy f) := by
  unfold Field.Takes typeStrategy
  cases hT : f.type with
  | foreignId => exact absurd hT hid
  | unsignedBigInteger => exact absurd hT hbig
  | integer => exact ⟨1, 100, rfl⟩
  | bigInteger => exact ⟨1, 1000000, rfl⟩
  | float => exact .inr ⟨2, 0, 1000, rfl⟩
  | decimal => exact .inr ⟨2, 0, 1000, rfl⟩
  | dateTime => exact .inl rfl
  | timestamp => exact .inl rfl
  | _ => trivial

/-- The factory's entry for a field that no `belongsTo` relation takes as its key is the
field's synthetic value, at the field's place. -/
theorem factoryDefinitions_getElem?_field {ctx : RenderContext} {i : Nat} {f : Field}
    (hf : ctx.request.fields[i]? = some f)
    (hown : ∀ rel ∈ ctx.request.relations, rel.kind = .belongsTo →
      rel.effectiveForeignKey ≠ f.name) :
    (factoryDefinitions ctx)[i]? =
      some (singleQuoted f.name ++ " => " ++ (syntheticStrategy f).expression) := by
  have hi : i < ctx.request.fields.length := (List.getElem?_eq_some_iff.mp hf).1
  have hnone : ctx.request.relations.find?
      (fun rel => rel.kind == .belongsTo && rel.effectiveForeignKey == f.name) = none := by
    rw [List.find?_eq_none]
    intro rel hrel hkey
    simp only [Bool.and_eq_true, beq_iff_eq] at hkey
    exact hown rel hrel hkey.1 hkey.2
  simp only [factoryDefinitions]
  rw [List.getElem?_append_left (by simpa using hi), List.getElem?_map, hf, Option.map_some,
    hnone]

/-- Every field whose name holds none of the keywords gets a value its column takes, unless
its type is one of the unsigned key types; and the factory fills every field that is no
`belongsTo` relation's key with that field's synthetic value. -/
theorem factory_values_fit_columns :
    (∀ f : Field, (∀ kw ∈ nameKeywords, f.nameContains kw = false) →
      f.type ≠ .foreignId → f.type ≠ .unsignedBigInteger → f.Takes (syntheticStrategy f)) ∧
    (∀ (ctx : RenderContext) (i : Nat) (f : Field), ctx.request.fields[i]? = some f →
      (∀ rel ∈ ctx.request.relations, rel.kind = .belongsTo → rel.effectiveForeignKey ≠ f.name) →
      (factoryDefinitions ctx)[i]? =
        some (singleQuoted f.name ++ " => " ++ (syntheticStrategy f).expression)) := by
  refine ⟨fun f hkw hid hbig => ?_, fun ctx i f hf hown => factoryDefinitions_getElem?_field hf hown⟩
  rw [syntheticStrategy_of_no_keyword hkw]
  exact typeStrategy_takes f hid hbig

/-- A count of views is filled with a whole number. -/
theorem view_count_takes_whole_number :
    Field.Takes ⟨"views", .integer, [], []⟩ (syntheticStrategy ⟨"views", .integer, [], []⟩) :=
  factory_values_fit_columns.1 _ (by decide +kernel) (by decide) (by decide)

/-- `is_shipped` holds the keyword `ip`, so a boolean column is filled with an IPv4 address. -/
theorem shipped_flag_filled_with_address :
    syntheticStrategy ⟨"is_shipped", .boolean, [], []⟩ = .ipv4 ∧
      ¬ Field.Takes ⟨"is_shipped", .boolean, [], []⟩
        (syntheticStrategy ⟨"is_shipped", .boolean, [], []⟩) := by
  have h : syntheticStrategy ⟨"is_shipped", .boolean, [], []⟩ = .ipv4 := by decide +kernel
  refine ⟨h, ?_⟩
  rw [h]
  exact SyntheticStrategy.noConfusion

end CrudScaffold
