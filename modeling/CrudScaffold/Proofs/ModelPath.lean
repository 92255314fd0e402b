import Mathlib
import CrudScaffold.Proofs.Artifacts
import CrudScaffold.Proofs.ClassNames

/-! Model paths. A model name such as `Blog/Post` (or `Blog\Post`) is cut at every slash and
backslash; the pieces are trimmed and the blank ones left out. The last piece, in Pascal
case, is the model's class and must start with a letter; the pieces before it, in Pascal
case, are the sub-namespace, which every namespace and output directory of the model extends.

Pascal case keeps only letters and digits, and the blank pieces are left out before it. So a
piece made of other characters only, such as `_` or `-`, becomes an empty segment of the
sub-namespace: the namespaces then hold an empty part, while the directories pass over it.

Main statement: `build_reads_model_path`. -/

namespace CrudScaffold

open Text Naming

/-- The pieces of a model path: cut at slashes and backslashes, trimmed, the blank ones left
out. -/
def modelPathSegments (name : String) : List String :=
  ((splitWhere (fun c => c = '/' || c = '\\') name.toList).map
    (fun s => trim (String.ofList s))).filter (fun s => !s.isEmpty)

/-- Whether a text starts with a letter. -/
def startsWithLetter (s : String) : Bool :=
  match s.toList with
  | c :: _ => isAlphabetic c
  | [] => false

/-! ### Pascal case of pieces without letters or digits -/

/-- Words are written from the letters and digits only: none, no words. -/
theorem joinedFrom_eq_nil_iff (st : WordStyle) :
    ∀ (l : List Char) (newWord first seen : Bool) (last : Char),
      joinedFrom st newWord first seen last l = [] ↔ ∀ c ∈ l, isAlphanumeric c = false
  | [], _, _, _, _ => by simp [joinedFrom]
  | c :: rest, newWord, first, seen, last => by
    by_cases hc : isAlphanumeric c = true
    · -- a letter or a digit is written, possibly after a blank
      have hne : joinedFrom st newWord first seen last (c :: rest) ≠ [] := by
        rw [joinedFrom, if_neg (by simp [hc])]
        split
        · exact List.cons_ne_nil _ _
        · split <;> simp
      simp only [hne, List.forall_mem_cons, hc, Bool.true_eq_false, false_and]
    · have hc' : isAlphanumeric c = false := by simpa using hc
      rw [joinedFrom, if_pos (by simp [hc']), List.forall_mem_cons]
      split <;> simp only [joinedFrom_eq_nil_iff st rest, hc', true_and]

/-- What is left after trailing non-alphanumerics are dropped ends in a letter or digit. -/
theorem trimTail_eq_nil_iff (l : List Char) :
    trimTail l = [] ↔ ∀ c ∈ l, isAlphanumeric c = false := by
  simp [trimTail, List.dropWhile_eq_nil_iff]

theorem trimTail_eq_nil_of_forall {l : List Char}
    (h : ∀ c ∈ trimTail l, isAlphanumeric c = false) : trimTail l = [] := by
  by_contra hne
  have hd : l.reverse.dropWhile (fun c => !isAlphanumeric c) ≠ [] := by
    simpa [trimTail] using hne
  -- the first character kept from the right is a letter or a digit
  have hhead := List.head_dropWhile_not (fun c => !isAlphanumeric c) hd
  have hmem : (l.reverse.dropWhile (fun c => !isAlphanumeric c)).head hd ∈ trimTail l := by
    simp [trimTail, List.head_mem]
  simp [h _ hmem] at hhead

/-- Pascal case is empty exactly for a text with no letter or digit. -/
theorem pascalCase_eq_empty_iff (s : String) :
    pascalCase s = "" ↔ ∀ c ∈ s.toList, isAlphanumeric c = false := by
  rw [pascalCase, joined, String.ofList_eq_empty_iff, joinedFrom_eq_nil_iff]
  constructor
  · intro h
    exact (trimTail_eq_nil_iff _).mp (trimTail_eq_nil_of_forall h)
  · intro h c hc
    rw [(trimTail_eq_nil_iff _).mpr h] at hc
    exact absurd hc List.not_mem_nil

/-! ### Reading a model path -/

/-- A model path is read when its last piece starts with a letter in Pascal case: that is the
model, and the pieces before it are the sub-namespace. -/
theorem parseModelPath_eq_ok_iff {name model : String} {sub : List String} :
    parseModelPath name = .ok (model, sub) ↔
      ∃ s, (modelPathSegments name).getLast? = some s ∧
        startsWithLetter (pascalCase s) = true ∧ model = pascalCase s ∧
        sub = (modelPathSegments name).dropLast.map pascalCase := by
  have hseg : ((splitWhere (fun c => c = '/' || c = '\\') name.toList).map
      (fun s => trim (String.ofList s))).filter (fun s => !s.isEmpty) =
      modelPathSegments name := rfl
  unfold parseModelPath
  dsimp only
  rw [hseg, List.getLast?_map, ← List.map_dropLast]
  cases (modelPathSegments name).getLast? with
  | none => simp
  | some s =>
    simp only [Option.map_some, Option.some.injEq, exists_eq_left']
    unfold startsWithLetter
    cases (pascalCase s).toList with
    | nil => simp
    | cons c rest =>
      by_cases hc : isAlphabetic c = true
      · simp [hc, eq_comm]
      · simp [hc]

/-- A model path that is not read fails with the path as given. -/
theorem parseModelPath_error {name : String} {e : ScaffoldError}
    (h : parseModelPath name = .error e) : e = .invalidModelName name := by
  unfold parseModelPath at h
  dsimp only at h
  split at h
  · split at h
    · split at h
      · cases h
      · exact (Except.error.inj h).symm
    · exact (Except.error.inj h).symm
  · exact (Except.error.inj h).symm

namespace RequestBuilder

/-- A request is built from the model and sub-namespace read off the name, the
sub-namespace appended to the models namespace. -/
theorem parse_of_build {b : RequestBuilder} {c : Config} {r : Request} (h : b.build c = .ok r) :
    parseModelPath b.name = .ok (r.modelName, r.subNamespace) ∧
      r.modelNamespace = c.rootNamespace ++ "\\Models" ++
        String.join (r.subNamespace.map ("\\" ++ ·)) := by
  unfold build at h
  split at h
  · cases h
  · rename_i model sub hparse
    cases h
    exact ⟨hparse, rfl⟩

theorem build_ok_iff {b : RequestBuilder} {c : Config} :
    (∃ r, b.build c = .ok r) ↔ ∃ p, parseModelPath b.name = .ok p := by
  unfold build
  split
  · rename_i e he
    simp [he]
  · rename_i model sub hparse
    simp [hparse]

theorem build_error {b : RequestBuilder} {c : Config} {e : ScaffoldError}
    (h : b.build c = .error e) : parseModelPath b.name = .error e := by
  unfold build at h
  split at h
  · rename_i e' he
    cases h
    exact he
  · cases h

end RequestBuilder

/-! ### Namespaces and directories of a model -/

/-- A namespace followed by segments without backslashes splits into its own parts and the
segments. -/
theorem split_append_segments (base : String) :
    ∀ {segs : List String}, (∀ s ∈ segs, '\\' ∉ s.toList) →
      split (base ++ String.join (segs.map ("\\" ++ ·))) '\\' = split base '\\' ++ segs
  | [], _ => by simp
  | s :: rest, h => by
    have hs : '\\' ∉ s.toList := h s List.mem_cons_self
    have hbase : split (base ++ "\\" ++ s) '\\' = split base '\\' ++ [s] := by
      have hl : (base ++ "\\" ++ s).toList = base.toList ++ '\\' :: s.toList := by simp
      simp [split, hl, splitChars_eq_splitOn, List.splitOn_append_cons_self,
        List.splitOn_eq_singleton hs]
    have hrest := @split_append_segments (base ++ "\\" ++ s) rest
      (fun s' hs' => h s' (List.mem_cons_of_mem s hs'))
    rw [hbase, List.append_assoc, List.singleton_append] at hrest
    simpa [String.append_assoc] using hrest

/-- Words as path components: an empty one is no component, any other is one. -/
theorem flatMap_pathComponents_of_isWord {segs : List String} (h : ∀ s ∈ segs, IsWord s) :
    segs.flatMap pathComponents = segs.filter (· ≠ "") := by
  induction segs with
  | nil => rfl
  | cons s rest ih =>
    have hs := h s List.mem_cons_self
    rw [List.flatMap_cons, ih fun s' hs' => h s' (List.mem_cons_of_mem s hs'), List.filter_cons]
    by_cases he : s = ""
    · simp [he, pathComponents_empty]
    · have hplain : PlainName s :=
        ⟨he, fun hd => absurd (hs '.' (by simp [hd])) (by decide), hs.not_mem (by decide)⟩
      simp [he, pathComponents_plain hplain]

/-- What a built request takes from the model path `name`, under the configuration `c`. -/
structure ReadsModelPath (name : String) (c : Config) (r : Request) : Prop where
  /-- The model is the last piece in Pascal case. -/
  modelName : (modelPathSegments name).getLast?.map pascalCase = some r.modelName
  /-- The sub-namespace is every earlier piece in Pascal case. -/
  subNamespace : r.subNamespace = (modelPathSegments name).dropLast.map pascalCase
  /-- No segment is empty exactly when every earlier piece holds a letter or a digit. -/
  subNamespace_ne_empty_iff : (∀ x ∈ r.subNamespace, x ≠ "") ↔
    ∀ s ∈ (modelPathSegments name).dropLast, ∃ ch ∈ s.toList, isAlphanumeric ch = true
  /-- The models namespace followed by the segments. -/
  modelNamespace : r.modelNamespace =
    c.rootNamespace ++ "\\Models" ++ String.join (r.subNamespace.map ("\\" ++ ·))
  /-- A namespace under any base has the base's parts, then exactly the segments, empty ones
  included. -/
  namespaceUnder_parts : ∀ ctx : RenderContext, ctx.request = r → ∀ base,
    split (ctx.namespaceUnder base) '\\' = split base '\\' ++ r.subNamespace
  /-- An output directory has the configured directory's components, then the non-empty
  segments. -/
  namespacedDir_components : ∀ ctx : RenderContext, ctx.request = r → ∀ k,
    pathComponents (ctx.namespacedDir k) =
      pathComponents (k.directory ctx.config.paths) ++ r.subNamespace.filter (· ≠ "")

/-- For every name and configuration: a request is built exactly when the last non-blank
trimmed piece of the name, in Pascal case, starts with a letter, and otherwise building fails
with the name as given. A built request takes its model, sub-namespace, namespaces and
directories from the pieces as `ReadsModelPath` says; a segment is empty when its piece has
no letter or digit. -/
theorem build_reads_model_path (b : RequestBuilder) (c : Config) :
    ((∃ r, b.build c = .ok r) ↔
        ∃ s, (modelPathSegments b.name).getLast? = some s ∧
          startsWithLetter (pascalCase s) = true) ∧
      (∀ e, b.build c = .error e → e = .invalidModelName b.name) ∧
      ∀ r, b.build c = .ok r → ReadsModelPath b.name c r := by
  refine ⟨?_, fun e h => parseModelPath_error (RequestBuilder.build_error h), fun r h => ?_⟩
  · rw [RequestBuilder.build_ok_iff]
    constructor
    · rintro ⟨⟨model, sub⟩, hp⟩
      obtain ⟨s, hs, hl, -⟩ := parseModelPath_eq_ok_iff.mp hp
      exact ⟨s, hs, hl⟩
    · rintro ⟨s, hs, hl⟩
      exact ⟨_, parseModelPath_eq_ok_iff.mpr ⟨s, hs, hl, rfl, rfl⟩⟩
  obtain ⟨hp, hns⟩ := RequestBuilder.parse_of_build h
  obtain ⟨s, hs, -, hm, hsub⟩ := parseModelPath_eq_ok_iff.mp hp
  have hwords := (RequestBuilder.isWord_of_build h).2
  refine ⟨by rw [hs, hm]; rfl, hsub, ?_, hns, fun ctx hctx base => ?_, fun ctx hctx k => ?_⟩
  · rw [hsub]
    simp only [List.mem_map, ne_eq, forall_exists_index, and_imp, forall_apply_eq_imp_iff₂,
      pascalCase_eq_empty_iff, not_forall, Bool.not_eq_false, exists_prop]
  · rw [RenderContext.namespaceUnder, hctx]
    exact split_append_segments base fun x hx => (hwords x hx).not_mem (by decide)
  · rw [pathComponents_namespacedDir, hctx, flatMap_pathComponents_of_isWord hwords]

/-- A piece made of an underscore only is an empty segment: `_/Post` is the model `Post` in
the namespace `App\Models\`, whose last part is empty. -/
theorem underscore_segment_left_empty :
    ∃ r, ({ name := "_/Post" } : RequestBuilder).build {} = .ok r ∧ r.subNamespace = [""] ∧
      r.modelNamespace = "App\\Models\\" ∧
      split r.modelNamespace '\\' = ["App", "Models", ""] := by
  have hpath : parseModelPath "_/Post" = .ok ("Post", [""]) :=
    Except.eq_ok_of_toOption (by decide +kernel)
  refine ⟨_, by simp only [RequestBuilder.build, hpath]; rfl, rfl, rfl, by decide +kernel⟩

end CrudScaffold
