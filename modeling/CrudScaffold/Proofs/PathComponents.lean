import Mathlib
import CrudScaffold.Project.Glob
import CrudScaffold.Proofs.Paths

/-! Paths read as `std::path` reads them. Past its start, a path stands for what its pieces
between separators stand for, so joining a relative path after a base puts its components after
the base's, and the parent of a path has all its components but the last. Paths are ordered
component by component, which is a total order. -/

namespace CrudScaffold

open Text

namespace PathComponent

theorem ofPiece_empty : ofPiece "" = none := by simp [ofPiece]

theorem ofPiece_dot : ofPiece "." = none := by simp [ofPiece]

theorem le_total (a b : PathComponent) : a.le b = true ∨ b.le a = true := by
  cases a <;> cases b <;> simp [le, rank, String.le_total]

theorem le_trans {a b c : PathComponent} (h₁ : a.le b = true) (h₂ : b.le c = true) :
    a.le c = true := by
  cases a <;> cases b <;> cases c <;> simp_all [le, rank]
  exact String.le_trans h₁ h₂

theorem eq_of_le_of_le {a b : PathComponent} (h₁ : a.le b = true) (h₂ : b.le a = true) :
    a = b := by
  cases a <;> cases b <;> simp_all [le, rank]
  exact String.le_antisymm h₁ h₂

theorem ofPiece_eq_none_iff {p : String} : ofPiece p = none ↔ p = "" ∨ p = "." := by
  unfold ofPiece
  split_ifs <;> simp_all

theorem ne_curDir_of_ofPiece {p : String} {c : PathComponent} (h : ofPiece p = some c) :
    c ≠ .curDir := by
  rintro rfl
  unfold ofPiece at h
  split_ifs at h <;> simp at h

end PathComponent

namespace Path

theorem split_empty (sep : Char) : split "" sep = [""] := rfl

theorem split_toList (s : String) (sep : Char) :
    split s sep = (splitChars sep s.toList).map String.ofList := rfl

theorem split_slash_append (b : String) : split ("/" ++ b) '/' = "" :: split b '/' := by
  simpa [split_empty] using split_append_slash "" b

theorem split_append_slash_end (a : String) : split (a ++ "/") '/' = split a '/' ++ [""] := by
  simpa [split_empty] using split_append_slash a ""

theorem isAbsolute_iff {s : String} : isAbsolute s = true ↔ ∃ rest, s.toList = '/' :: rest := by
  unfold isAbsolute
  cases s.toList with
  | nil => simp
  | cons c rest =>
    simp only [List.head?_cons, beq_iff_eq, Option.some.injEq]
    exact ⟨fun h => ⟨rest, by rw [h]⟩, fun ⟨_, h⟩ => (List.cons.inj h).1⟩

theorem isAbsolute_eq_false {s : String} (h : s.toList.head? ≠ some '/') : isAbsolute s = false := by
  simpa [isAbsolute] using h

theorem isAbsolute_append_of_ne {a : String} (ha : a ≠ "") (b : String) :
    isAbsolute (a ++ b) = isAbsolute a := by
  obtain ⟨c, cs, hc⟩ := List.exists_cons_of_ne_nil (by simpa using ha : a.toList ≠ [])
  simp [isAbsolute, hc]

theorem startsAtCurrent_iff {s : String} :
    startsAtCurrent s = true ↔ s.toList = ['.'] ∨ ∃ rest, s.toList = '.' :: '/' :: rest := by
  unfold startsAtCurrent
  split <;> simp_all

theorem append_slash_ne_empty (a : String) : a ++ "/" ≠ "" := fun h => by
  simpa using congrArg String.toList h

theorem split_ne_nil (s : String) : split s '/' ≠ [] := by
  simp [split, splitChars_eq_splitOn, List.splitOn_ne_nil]

theorem head?_split_of_isAbsolute {s : String} (h : isAbsolute s = true) :
    (split s '/').head? = some "" := by
  obtain ⟨rest, hr⟩ := isAbsolute_iff.mp h
  simp [split_toList, hr, splitChars]

theorem head?_split_of_startsAtCurrent {s : String} (h : startsAtCurrent s = true) :
    (split s '/').head? = some "." := by
  rcases startsAtCurrent_iff.mp h with hr | ⟨rest, hr⟩
  · simp [split_toList, hr, splitChars]
  · simp [split_toList, hr, splitChars]

theorem splitChars_cons_of_ne {c : Char} (hc : c ≠ '/') (rest : List Char) :
    ∃ q qs, splitChars '/' (c :: rest) = (c :: q) :: qs := by
  simp only [splitChars, hc, if_false]
  split
  · exact ⟨[], [], rfl⟩
  · exact ⟨_, _, rfl⟩

theorem splitChars_eq_nil_cons {rest : List Char} {qs : List (List Char)}
    (h : splitChars '/' rest = [] :: qs) : rest = [] ∨ ∃ r, rest = '/' :: r := by
  cases rest with
  | nil => exact .inl rfl
  | cons d r =>
    by_cases hd : d = '/'
    · exact .inr ⟨r, by rw [hd]⟩
    · obtain ⟨q, qs', hq⟩ := splitChars_cons_of_ne hd r
      rw [hq] at h
      simp at h

/-- The first piece of a path stands for a component: the path starts neither at the root, nor
at `.`, nor with an empty piece. -/
def StartsWithComponent (s : String) : Prop :=
  ∀ p ∈ (split s '/').head?, PathComponent.ofPiece p ≠ none

theorem StartsWithComponent.isAbsolute {s : String} (h : StartsWithComponent s) :
    isAbsolute s = false := by
  by_contra hne
  exact h "" (head?_split_of_isAbsolute (by simpa using hne)) PathComponent.ofPiece_empty

theorem StartsWithComponent.startsAtCurrent {s : String} (h : StartsWithComponent s) :
    startsAtCurrent s = false := by
  by_contra hne
  exact h "." (head?_split_of_startsAtCurrent (by simpa using hne)) PathComponent.ofPiece_dot

theorem StartsWithComponent.ne_empty {s : String} (h : StartsWithComponent s) : s ≠ "" := by
  rintro rfl
  exact h "" rfl PathComponent.ofPiece_empty

theorem StartsWithComponent.startLength {s : String} (h : StartsWithComponent s) :
    startLength s = 0 := by
  simp [Path.startLength, h.isAbsolute, h.startsAtCurrent]

/-- A relative path that is not empty and does not start at `.` starts with a component. -/
theorem startsWithComponent_of {s : String} (hs : s ≠ "") (habs : isAbsolute s = false)
    (hcur : startsAtCurrent s = false) : StartsWithComponent s := by
  obtain ⟨c, rest, hsl⟩ := List.exists_cons_of_ne_nil (by simpa using hs : s.toList ≠ [])
  have hc : c ≠ '/' := by simpa [isAbsolute, hsl] using habs
  intro p hp hnone
  simp only [split_toList, hsl, splitChars, hc, if_false] at hp
  cases hr : splitChars '/' rest with
  | nil => exact absurd hr (by simp [splitChars_eq_splitOn, List.splitOn_ne_nil])
  | cons q qs =>
    simp only [hr, List.map_cons, List.head?_cons, Option.mem_def, Option.some.injEq] at hp
    subst hp
    rcases PathComponent.ofPiece_eq_none_iff.mp hnone with he | hdot
    · simpa using congrArg String.toList he
    · -- a first piece `.` is all of the path or is followed by a separator
      have hq : c = '.' ∧ q = [] := by simpa using congrArg String.toList hdot
      obtain ⟨rfl, rfl⟩ := hq
      rcases splitChars_eq_nil_cons hr with rfl | ⟨r, rfl⟩
      · simp [startsAtCurrent, hsl] at hcur
      · simp [startsAtCurrent, hsl] at hcur

theorem components_of_startsAtCurrent {s : String} (h : startsAtCurrent s = false) :
    components s = listed s := by
  simp [components, h]

theorem joinPath_eq_append (a b : String) : joinPath a b = joinPath a "" ++ b := by
  unfold joinPath
  split_ifs <;> simp [String.append_assoc]

/-- `joinPath` puts a separator between a base and a path unless the base is empty or already
ends with one. -/
theorem joinPath_cases (a b : String) :
    (a = "" ∧ joinPath a b = b) ∨
      ∃ a', joinPath a b = a' ++ "/" ++ b ∧ a ≠ "" ∧ (a = a' ∨ a = a' ++ "/") := by
  unfold joinPath
  by_cases he : a.isEmpty = true
  · exact .inl ⟨by simpa using he, by rw [if_pos he]⟩
  rw [if_neg he]
  have ha : a ≠ "" := by simpa using he
  by_cases hs : a.endsWith "/" = true
  · rw [if_pos hs]
    rw [String.endsWith_eq_endsWith_toSlice, String.Slice.endsWith_string_iff] at hs
    obtain ⟨a', ha'⟩ := hs
    have hdeq : a = String.ofList a' ++ "/" := by
      apply String.ext
      simpa using ha'.symm
    exact .inr ⟨String.ofList a', by rw [hdeq], ha, .inr hdeq⟩
  · exact .inr ⟨a, by rw [if_neg hs], ha, .inl rfl⟩

/-! ### Components -/

theorem listed_empty : listed "" = [] := by decide

theorem curDir_not_mem_listed (s : String) : PathComponent.curDir ∉ listed s := by
  simp only [listed, List.mem_append, List.mem_filterMap, not_or, not_exists, not_and]
  refine ⟨by split <;> simp, fun p _ h => PathComponent.ne_curDir_of_ofPiece h rfl⟩

theorem listed_append_slash (a : String) {b : String} (hb : isAbsolute b = false) :
    listed (a ++ "/" ++ b) = listed (a ++ "/") ++ listed b := by
  simp only [listed, isAbsolute_append_of_ne (append_slash_ne_empty a), hb, split_append_slash,
    split_append_slash_end, List.filterMap_append]
  simp [PathComponent.ofPiece_empty]

theorem listed_append_slash_end {a : String} (ha : a ≠ "") : listed (a ++ "/") = listed a := by
  simp [listed, isAbsolute_append_of_ne ha, split_append_slash_end, PathComponent.ofPiece_empty]

/-- A relative path joined after a base: the base's components, then its own. -/
theorem listed_joinPath (a : String) {b : String} (hb : isAbsolute b = false) :
    listed (joinPath a b) = listed a ++ listed b := by
  rcases joinPath_cases a b with ⟨rfl, hj⟩ | ⟨a', hj, ha, rfl | rfl⟩
  · rw [hj, listed_empty, List.nil_append]
  · rw [hj, listed_append_slash _ hb, listed_append_slash_end ha]
  · rw [hj, listed_append_slash _ hb]

/-- A name without separators that is neither empty, `.` nor `..`: one component. -/
theorem listed_name {n : String} (hn : PathComponent.ofPiece n = some (.normal n))
    (hslash : '/' ∉ n.toList) : listed n = [.normal n] := by
  have hsplit : split n '/' = [n] := by
    simp [split, splitChars_eq_splitOn, List.splitOn_eq_singleton hslash]
  have habs : isAbsolute n = false := by
    apply isAbsolute_eq_false
    cases h : n.toList with
    | nil => simp
    | cons c cs => exact fun hc => hslash (by simp_all)
  simp [listed, habs, hsplit, hn]

theorem fileName_of_listed {s n : String} {cs : List PathComponent}
    (h : listed s = cs ++ [.normal n]) : fileName s = some n := by
  simp [fileName, components, h]

theorem join_of_relative (base : String) {p : String} (hp : isAbsolute p = false) :
    join base p = joinPath base p := by
  simp [join, hp]

/-! ### Parents -/

theorem isPrefix_dropEmptyPieces (ps : List String) : dropEmptyPieces ps <+: ps := by
  have h := List.dropWhile_suffix (fun p => (PathComponent.ofPiece p).isNone) (l := ps.reverse)
  simpa [dropEmptyPieces] using List.reverse_prefix.mpr h

theorem filterMap_dropEmptyPieces (ps : List String) :
    (dropEmptyPieces ps).filterMap PathComponent.ofPiece = ps.filterMap PathComponent.ofPiece := by
  have hnone : ((ps.reverse.takeWhile fun p => (PathComponent.ofPiece p).isNone).filterMap
      PathComponent.ofPiece) = [] := by
    rw [List.filterMap_eq_nil_iff]
    intro p hp
    simpa using List.mem_takeWhile_imp hp
  have h := congrArg (List.filterMap PathComponent.ofPiece)
    (List.takeWhile_append_dropWhile (p := fun p => (PathComponent.ofPiece p).isNone)
      (l := ps.reverse))
  rw [List.filterMap_append, hnone, List.nil_append, List.filterMap_reverse] at h
  rw [dropEmptyPieces, List.filterMap_reverse, h, List.reverse_reverse]

/-- Either no piece stands for a component, or the pieces kept end in one that does. -/
theorem dropEmptyPieces_eq_nil_or (ps : List String) :
    dropEmptyPieces ps = [] ∨ ∃ ps' p c, dropEmptyPieces ps = ps' ++ [p] ∧
      PathComponent.ofPiece p = some c := by
  unfold dropEmptyPieces
  cases h : ps.reverse.dropWhile fun p => (PathComponent.ofPiece p).isNone with
  | nil => simp
  | cons p rest =>
    have hp := List.head_dropWhile_not (fun p => (PathComponent.ofPiece p).isNone)
      (l := ps.reverse) (by simp [h])
    simp only [h, List.head_cons, Option.isNone_eq_false_iff, Option.isSome_iff_exists] at hp
    obtain ⟨c, hc⟩ := hp
    exact .inr ⟨rest.reverse, p, c, by simp, hc⟩

/-- The pieces past a path's start stand for what all its pieces stand for: the start is an
empty piece or a `.`. -/
theorem filterMap_split_body (s : String) :
    (split s '/').filterMap PathComponent.ofPiece =
      (split (body s) '/').filterMap PathComponent.ofPiece := by
  by_cases hk : startLength s = 0
  · simp [body, hk]
  have hstart : isAbsolute s = true ∨ startsAtCurrent s = true := by
    by_contra hno
    simp only [not_or, Bool.not_eq_true] at hno
    simp [startLength, hno.1, hno.2] at hk
  have hk1 : startLength s = 1 := by simp_all [startLength]
  simp only [body, hk1, split_toList, String.toList_ofList]
  rcases hstart with habs | hcur
  · obtain ⟨rest, hr⟩ := isAbsolute_iff.mp habs
    simp [hr, splitChars, PathComponent.ofPiece_empty]
  · rcases startsAtCurrent_iff.mp hcur with hr | ⟨rest, hr⟩
    · simp [hr, splitChars, PathComponent.ofPiece_dot, PathComponent.ofPiece_empty]
    · simp [hr, splitChars, PathComponent.ofPiece_dot, PathComponent.ofPiece_empty]

theorem listed_eq_body (s : String) :
    listed s = (if isAbsolute s then [.rootDir] else []) ++
      (split (body s) '/').filterMap PathComponent.ofPiece := by
  rw [listed, filterMap_split_body]

theorem filterMap_split_intercalate {T : List String} (hT : ∀ t ∈ T, '/' ∉ t.toList) :
    (split ("/".intercalate T) '/').filterMap PathComponent.ofPiece =
      T.filterMap PathComponent.ofPiece := by
  cases T with
  | nil => simp [split_empty, PathComponent.ofPiece_empty]
  | cons t rest => rw [split_intercalate (by rfl) hT (List.cons_ne_nil t rest)]

theorem append_intercalate_empty_cons (a : String) (T : List String) :
    a ++ "/".intercalate ("" :: T) = "/".intercalate (a :: T) := by
  cases T with
  | nil => simp
  | cons t rest => simp [String.intercalate_cons_cons, String.append_assoc]

theorem parentOrEmpty_of_last {s : String} {ps' : List String} {p : String}
    (hU : dropEmptyPieces (split (body s) '/') = ps' ++ [p]) :
    parentOrEmpty s = String.ofList (s.toList.take (startLength s)) ++
      "/".intercalate (dropEmptyPieces ps') := by
  simp [parentOrEmpty, hU]

theorem slash_not_mem_of_isPrefix_split {T : List String} {b : String} (h : T <+: split b '/') :
    ∀ t ∈ T, '/' ∉ t.toList :=
  fun _ ht => (mem_split (h.subset ht)).1

theorem split_body_of_startsAtCurrent {s : String} (hcur : startsAtCurrent s = true) :
    ∃ tail, split (body s) '/' = "" :: tail := by
  have hk : startLength s = 1 := by simp [startLength, hcur]
  rcases startsAtCurrent_iff.mp hcur with hr | ⟨rest, hr⟩
  · exact ⟨[], by simp [body, hk, hr, split_empty]⟩
  · exact ⟨split (String.ofList rest) '/', by simp [body, hk, hr, split_toList, splitChars]⟩

/-- Past a leading `.`, the pieces up to the last component start with the empty piece before
the separator. -/
theorem empty_head_of_startsAtCurrent {s : String} (hcur : startsAtCurrent s = true)
    {ps' : List String} {p : String} {c : PathComponent}
    (hU : dropEmptyPieces (split (body s) '/') = ps' ++ [p])
    (hc : PathComponent.ofPiece p = some c) : ∃ ps'', ps' = "" :: ps'' := by
  obtain ⟨tail, ht⟩ := split_body_of_startsAtCurrent hcur
  have hpre := isPrefix_dropEmptyPieces (split (body s) '/')
  rw [hU, ht] at hpre
  cases ps' with
  | nil =>
    have hp : p = "" := (List.cons_prefix_cons.mp hpre).1
    simp [hp, PathComponent.ofPiece_empty] at hc
  | cons q qs => exact ⟨qs, by rw [(List.cons_prefix_cons.mp hpre).1]⟩

/-- Pieces that begin a relative path's pieces join to a relative path. -/
theorem isAbsolute_intercalate_of_isPrefix_split {b : String} (hb : isAbsolute b = false)
    {T : List String} (hT : T <+: split b '/') : isAbsolute ("/".intercalate T) = false := by
  cases T with
  | nil => rfl
  | cons t T' =>
    apply isAbsolute_eq_false
    cases hbl : b.toList with
    | nil =>
      have hsplit : split b '/' = [""] := by simp [split_toList, hbl, splitChars]
      rw [hsplit] at hT
      obtain ⟨rfl, hT'⟩ := List.cons_prefix_cons.mp hT
      rw [List.prefix_nil.mp hT']
      simp
    | cons c rest =>
      have hc : c ≠ '/' := by simpa [isAbsolute, hbl] using hb
      obtain ⟨q, qs, hsplit⟩ := splitChars_cons_of_ne hc rest
      have ht : t = String.ofList (c :: q) := by
        rw [split_toList, hbl, hsplit] at hT
        exact (List.cons_prefix_cons.mp hT).1
      cases T' with
      | nil => simp [ht, hc]
      | cons u us => simp [ht, String.intercalate_cons_cons, hc]

/-- The parent starts at the root when the path does, and its pieces stand for the components
before the last. The proof follows the path's start: a root, a leading `.`, or neither. -/
theorem parentOrEmpty_pieces {s : String} {ps' : List String} {p : String} {c : PathComponent}
    (hU : dropEmptyPieces (split (body s) '/') = ps' ++ [p])
    (hc : PathComponent.ofPiece p = some c) :
    isAbsolute (parentOrEmpty s) = isAbsolute s ∧
      (split (parentOrEmpty s) '/').filterMap PathComponent.ofPiece =
        ps'.filterMap PathComponent.ofPiece := by
  rw [parentOrEmpty_of_last hU]
  have hpre : ps' <+: split (body s) '/' :=
    (List.prefix_append ps' [p]).trans (hU ▸ isPrefix_dropEmptyPieces _)
  have hT : dropEmptyPieces ps' <+: split (body s) '/' := (isPrefix_dropEmptyPieces ps').trans hpre
  have hslash := slash_not_mem_of_isPrefix_split hT
  have hfm := filterMap_dropEmptyPieces ps'
  by_cases habs : isAbsolute s = true
  · obtain ⟨rest, hr⟩ := isAbsolute_iff.mp habs
    have hstart : String.ofList (s.toList.take (startLength s)) = "/" := by
      simp [startLength, habs, hr]
    rw [hstart, habs]
    refine ⟨by simp [isAbsolute], ?_⟩
    rw [split_slash_append, List.filterMap_cons, PathComponent.ofPiece_empty,
      filterMap_split_intercalate hslash, hfm]
  have habs' : isAbsolute s = false := by simpa using habs
  by_cases hcur : startsAtCurrent s = true
  · obtain ⟨ps'', rfl⟩ := empty_head_of_startsAtCurrent hcur hU hc
    have hstart : String.ofList (s.toList.take (startLength s)) = "." := by
      rcases startsAtCurrent_iff.mp hcur with hr | ⟨rest, hr⟩ <;> simp [startLength, hcur, hr]
    rw [hstart, habs']
    -- the pieces kept start, like the body, with the empty piece, or there are none
    cases hTe : dropEmptyPieces ("" :: ps'') with
    | nil =>
      rw [hTe] at hfm
      refine ⟨by decide, ?_⟩
      rw [← hfm]
      decide
    | cons t T' =>
      have ht : t = "" := (List.cons_prefix_cons.mp (hTe ▸ isPrefix_dropEmptyPieces _)).1
      subst ht
      rw [hTe] at hfm hslash
      have hslash' : ∀ u ∈ "." :: T', '/' ∉ u.toList := by
        intro u hu
        rcases List.mem_cons.mp hu with rfl | hu
        · decide
        · exact hslash u (List.mem_cons_of_mem _ hu)
      rw [append_intercalate_empty_cons, split_intercalate (by rfl) hslash' (List.cons_ne_nil _ _),
        ← hfm]
      refine ⟨isAbsolute_eq_false (by cases T' <;> simp [String.intercalate_cons_cons]), ?_⟩
      simp [PathComponent.ofPiece_dot, PathComponent.ofPiece_empty]
  · have hk : startLength s = 0 := by simp [startLength, habs', hcur]
    have hbody : body s = s := by simp [body, hk]
    rw [hbody] at hT
    have hstart : String.ofList (s.toList.take (startLength s)) = "" := by simp [hk]
    rw [hstart, String.empty_append, habs']
    exact ⟨isAbsolute_intercalate_of_isPrefix_split habs' hT, by
      rw [filterMap_split_intercalate hslash, hfm]⟩

/-- A path's parent has its components but the last. -/
theorem listed_parentOrEmpty (s : String) : listed (parentOrEmpty s) = (listed s).dropLast := by
  rw [listed_eq_body s]
  rcases dropEmptyPieces_eq_nil_or (split (body s) '/') with hnil | ⟨ps', p, c, hU, hc⟩
  · have hnone : (split (body s) '/').filterMap PathComponent.ofPiece = [] := by
      rw [← filterMap_dropEmptyPieces, hnil, List.filterMap_nil]
    have hpar : parentOrEmpty s = "" := by simp [parentOrEmpty, hnil]
    rw [hpar, hnone, listed_empty]
    split <;> rfl
  · obtain ⟨habs, hpieces⟩ := parentOrEmpty_pieces hU hc
    have hfm : (split (body s) '/').filterMap PathComponent.ofPiece =
        ps'.filterMap PathComponent.ofPiece ++ [c] := by
      rw [← filterMap_dropEmptyPieces, hU, List.filterMap_append]
      simp [hc]
    rw [listed, habs, hpieces, hfm, ← List.append_assoc, List.dropLast_concat]

/-- Past no start, the parent begins with the path's first piece, unless it is empty. -/
theorem head?_split_parentOrEmpty {s : String} (hk : startLength s = 0) :
    parentOrEmpty s = "" ∨ (split (parentOrEmpty s) '/').head? = (split s '/').head? := by
  have hbody : body s = s := by simp [body, hk]
  rcases dropEmptyPieces_eq_nil_or (split (body s) '/') with hnil | ⟨ps', p, c, hU, hc⟩
  · exact .inl (by simp [parentOrEmpty, hnil])
  · rw [parentOrEmpty_of_last hU, hk]
    have hpre : ps' <+: split (body s) '/' :=
      (List.prefix_append ps' [p]).trans (hU ▸ isPrefix_dropEmptyPieces _)
    rw [hbody] at hpre
    have hT : dropEmptyPieces ps' <+: split s '/' := (isPrefix_dropEmptyPieces ps').trans hpre
    cases hTe : dropEmptyPieces ps' with
    | nil => exact .inl (by simp)
    | cons t T' =>
      rw [hTe] at hT
      refine .inr ?_
      rw [List.take_zero, String.ofList_nil, String.empty_append,
        split_intercalate (by rfl) (slash_not_mem_of_isPrefix_split hT) (List.cons_ne_nil _ _)]
      obtain ⟨u, hu⟩ := hT
      rw [← hu]
      rfl

/-! ### Order -/

theorem le_total : ∀ p q : List PathComponent, le p q = true ∨ le q p = true
  | [], _ => .inl rfl
  | _ :: _, [] => .inr rfl
  | a :: as, b :: bs => by
    by_cases hab : a = b
    · subst hab
      simpa [le] using le_total as bs
    · simpa [le, hab, Ne.symm hab] using PathComponent.le_total a b

theorem le_trans : ∀ {p q r : List PathComponent}, le p q = true → le q r = true → le p r = true
  | [], _, _, _, _ => rfl
  | _ :: _, [], _, h, _ => by simp [le] at h
  | _ :: _, _ :: _, [], _, h => by simp [le] at h
  | a :: as, b :: bs, c :: cs, h₁, h₂ => by
    by_cases hab : a = b
    · subst hab
      by_cases hbc : a = c
      · subst hbc
        simp only [le, if_true] at h₁ h₂ ⊢
        exact le_trans h₁ h₂
      · simpa [le, hbc] using h₂
    · by_cases hbc : b = c
      · subst hbc
        simpa [le, hab] using h₁
      · -- two different first components cannot lie on both sides of a third
        have hac : a ≠ c := fun hac => by
          subst hac
          simp only [le, hab, hbc, if_false] at h₁ h₂
          exact hab (PathComponent.eq_of_le_of_le h₁ h₂)
        simp only [le, hab, hbc, hac, if_false] at h₁ h₂ ⊢
        exact PathComponent.le_trans h₁ h₂

end Path

/-- The head of a list sorted by a total order is its least element. -/
theorem head?_mergeSort_least {α : Type} {le : α → α → Bool}
    (trans : ∀ a b c, le a b = true → le b c = true → le a c = true)
    (total : ∀ a b, (le a b || le b a) = true) {l : List α} {x : α}
    (h : (l.mergeSort le).head? = some x) : x ∈ l ∧ ∀ y ∈ l, le x y = true := by
  have hsorted := List.pairwise_mergeSort trans total l
  obtain ⟨rest, hrest⟩ := List.head?_eq_some_iff.mp h
  rw [hrest] at hsorted
  have hmem : ∀ y, y ∈ l ↔ y ∈ x :: rest := fun y => by rw [← hrest, List.mem_mergeSort]
  refine ⟨(hmem x).mpr List.mem_cons_self, fun y hy => ?_⟩
  rcases List.mem_cons.mp ((hmem y).mp hy) with rfl | hy'
  · -- the order is total, so it is reflexive
    simpa using total y y
  · exact List.rel_of_pairwise_cons hsorted hy'

theorem head?_mergeSort_eq_none {α : Type} {le : α → α → Bool} {l : List α} :
    (l.mergeSort le).head? = none ↔ l = [] := by
  rw [List.head?_eq_none_iff, ← List.length_eq_zero_iff, List.length_mergeSort,
    List.length_eq_zero_iff]

end CrudScaffold
