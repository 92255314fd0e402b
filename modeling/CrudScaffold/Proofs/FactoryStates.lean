import Mathlib
import CrudScaffold.Proofs.FirstOfEachKey
import CrudScaffold.Artifact.Factory

/-! The named states of a model factory. Every state becomes a method of the factory class,
next to the `definition` method that the class declares already. The candidates are one state
per value of each enum field, then two per boolean field; a candidate whose name is empty or
was met before is dropped. That is keeping the first of each name with the empty name taken,
so the names kept are distinct and not empty. Nothing keeps out a candidate named
`definition`.

Main statement: `factoryStates_names`. -/

namespace CrudScaffold

open Naming

/-- Dropping empty and repeated names keeps the first candidate of each name, with the empty
name and the names seen so far taken. -/
theorem freshStates_eq (seen : List String) (l : List FactoryState) :
    freshStates seen l = firstOfEachKey FactoryState.name ("" :: seen) l := by
  induction l generalizing seen with
  | nil => rfl
  | cons s rest ih =>
    by_cases hs : s.name ∈ "" :: seen
    · have hdrop : (s.name.isEmpty || seen.contains s.name) = true := by
        rcases List.mem_cons.mp hs with h | h
        · simp [h]
        · simp [h]
      rw [freshStates, hdrop, if_pos rfl, ih, firstOfEachKey_cons_of_mem _ hs]
    · have hkeep : (s.name.isEmpty || seen.contains s.name) = false := by
        simp only [List.mem_cons, not_or] at hs
        simp [hs.1, hs.2]
      rw [freshStates, hkeep, if_neg Bool.false_ne_true, ih, firstOfEachKey_cons_of_not_mem _ hs]
      -- the name just kept joins the taken names; their order does not matter
      exact congrArg (s :: ·)
        (firstOfEachKey_congr _ (fun b => by simp only [List.mem_cons]; tauto) _)

theorem factoryStates_eq (fields : List Field) :
    factoryStates fields = firstOfEachKey FactoryState.name [""] (candidateStates fields) :=
  freshStates_eq [] _

/-- The candidate names in the order the states are tried. -/
theorem candidateStates_names (fields : List Field) :
    (candidateStates fields).map (·.name) =
      (fields.filter (·.type == .enum)).flatMap (fun f => f.effectiveEnumValues.map camelCase) ++
        (fields.filter (·.type == .boolean)).flatMap fun f =>
          [camelCase f.name, camelCase ("not_" ++ f.name)] := by
  simp [candidateStates, List.map_flatMap, Function.comp_def]

/-- The names of a factory's states are the first occurrences of the non-empty candidate
names: the camel case of every value of each enum field, then of each boolean field's name
and of that name after `not_`. So they are distinct and none is empty; one of them is
`definition`, the name of the method every factory declares, exactly when a candidate is. -/
theorem factoryStates_names (fields : List Field) :
    (factoryStates fields).map (·.name) =
        firstOfEachKey id [""]
          ((fields.filter (·.type == .enum)).flatMap
              (fun f => f.effectiveEnumValues.map camelCase) ++
            (fields.filter (·.type == .boolean)).flatMap fun f =>
              [camelCase f.name, camelCase ("not_" ++ f.name)]) ∧
      (∀ n ∈ (factoryStates fields).map (·.name), n ≠ "") ∧
      ((factoryStates fields).map (·.name)).Nodup ∧
      ("definition" ∈ (factoryStates fields).map (·.name) ↔
        "definition" ∈ (candidateStates fields).map (·.name)) := by
  have hnames : (factoryStates fields).map (·.name) =
      firstOfEachKey id [""] ((candidateStates fields).map (·.name)) := by
    rw [factoryStates_eq, map_firstOfEachKey]
  refine ⟨hnames.trans (by rw [candidateStates_names]), fun n hn => ?_, ?_, ?_⟩
  · rw [hnames] at hn
    simpa using (mem_firstOfEachKey id hn).2
  · simpa [hnames] using nodup_keys_firstOfEachKey id [""] ((candidateStates fields).map (·.name))
  · rw [hnames, mem_firstOfEachKey_id_iff]
    simp

/-- An enum field with the value `definition` gives the factory a state method named
`definition`, a second method of that name in the class. -/
theorem definition_state_redeclares_definition :
    ∃ s ∈ factoryStates (parseFields "status:enum:definition"), s.name = "definition" ∧
      Text.contains s.method "public function definition(): static" := by
  refine ⟨⟨"definition", "status", "'definition'"⟩, ?_, rfl, ?_⟩
  · decide +kernel
  · decide +kernel

end CrudScaffold
