import CrudScaffold.Project.Tree
import CrudScaffold.Proofs.Text

/-! Paths as lists of components. Joining a directory and a name puts the name's components
after the directory's, and a name that is neither empty nor `.` and holds no slash is a
single component. -/

namespace CrudScaffold

open Text

/-- A name that is one path component as written: not empty, not `.`, without a slash. -/
def PlainName (n : String) : Prop := n ≠ "" ∧ n ≠ "." ∧ '/' ∉ n.toList

instance (n : String) : Decidable (PlainName n) :=
  decidable_of_iff ((n != "" && n != "." && !n.toList.contains '/') = true) (by
    simp [PlainName, and_assoc])

/-- A component as the components of a path have it. -/
theorem PlainName.of_mem_pathComponents {path c : String} (h : c ∈ pathComponents path) :
    PlainName c := by
  simp only [pathComponents, List.mem_filter, Bool.and_eq_true, Bool.not_eq_true',
    String.isEmpty_eq_false_iff, bne_iff_ne, ne_eq] at h
  obtain ⟨hc, hne, hdot⟩ := h
  exact ⟨hne, hdot, (mem_split hc).1⟩

theorem split_append_slash (a b : String) :
    split (a ++ "/" ++ b) '/' = split a '/' ++ split b '/' := by
  have h : (a ++ "/" ++ b).toList = a.toList ++ '/' :: b.toList := by simp
  simp only [split, h, splitChars_eq_splitOn, List.splitOn_append_cons_self, List.map_append]

theorem pathComponents_append_slash (a b : String) :
    pathComponents (a ++ "/" ++ b) = pathComponents a ++ pathComponents b := by
  simp only [pathComponents, split_append_slash, List.filter_append]

theorem pathComponents_empty : pathComponents "" = [] := by
  decide

theorem pathComponents_plain {n : String} (h : PlainName n) : pathComponents n = [n] := by
  have hsplit : split n '/' = [n] := by
    simp [split, splitChars_eq_splitOn, List.splitOn_eq_singleton h.2.2]
  simp [pathComponents, hsplit, h.1, h.2.1]

theorem pathComponents_joinPath (d x : String) :
    pathComponents (joinPath d x) = pathComponents d ++ pathComponents x := by
  unfold joinPath
  by_cases hd : d.isEmpty = true
  · have : d = "" := by simpa using hd
    simp [this, pathComponents_empty]
  rw [if_neg hd]
  by_cases hs : d.endsWith "/" = true
  · -- the slash that ends the directory is the separator
    rw [if_pos hs]
    rw [String.endsWith_eq_endsWith_toSlice, String.Slice.endsWith_string_iff] at hs
    obtain ⟨d', hd'⟩ := hs
    have hdeq : d = String.ofList d' ++ "/" := by
      apply String.ext
      simpa using hd'.symm
    subst hdeq
    have hdir : pathComponents (String.ofList d' ++ "/") = pathComponents (String.ofList d') := by
      simpa [pathComponents_empty] using pathComponents_append_slash (String.ofList d') ""
    rw [pathComponents_append_slash, hdir]
  · rw [if_neg hs, pathComponents_append_slash]

/-- A directory and a plain name: the name is the last component. -/
theorem pathComponents_joinPath_plain (d : String) {n : String} (h : PlainName n) :
    pathComponents (joinPath d n) = pathComponents d ++ [n] := by
  rw [pathComponents_joinPath, pathComponents_plain h]

theorem pathComponents_foldl_joinPath (d : String) (segments : List String) :
    pathComponents (segments.foldl joinPath d) =
      pathComponents d ++ segments.flatMap pathComponents := by
  induction segments generalizing d with
  | nil => simp
  | cons s rest ih => simp [ih, pathComponents_joinPath]

/-- Joining plain components with slashes gives a path with exactly those components. -/
theorem pathComponents_intercalate {cs : List String} (h : ∀ c ∈ cs, PlainName c) :
    pathComponents ("/".intercalate cs) = cs := by
  induction cs with
  | nil => simp [pathComponents_empty]
  | cons c rest ih =>
    have hc := h c List.mem_cons_self
    have hrest : ∀ c ∈ rest, PlainName c := fun c' hc' => h c' (List.mem_cons_of_mem c hc')
    cases rest with
    | nil => simp [pathComponents_plain hc]
    | cons d more =>
      rw [String.intercalate_cons_cons, pathComponents_append_slash, pathComponents_plain hc,
        ih hrest, List.singleton_append]

theorem splitChars_of_not_mem {sep : Char} {m : List Char} (hm : sep ∉ m) :
    splitChars sep m = [m] := by
  rw [splitChars_eq_splitOn, List.splitOn_eq_singleton hm]

/-- Appending a text without the separator extends the last piece. -/
theorem splitChars_append_of_not_mem {sep : Char} {m : List Char} (hm : sep ∉ m) :
    ∀ l : List Char, ∃ pre last, splitChars sep l = pre ++ [last] ∧
      splitChars sep (l ++ m) = pre ++ [last ++ m]
  | [] => ⟨[], [], rfl, by simpa using splitChars_of_not_mem hm⟩
  | c :: rest => by
    obtain ⟨pre, last, h1, h2⟩ := splitChars_append_of_not_mem hm rest
    by_cases hc : c = sep
    · exact ⟨[] :: pre, last, by simp [splitChars, hc, h1], by simp [splitChars, hc, h2]⟩
    · cases pre with
      | nil => exact ⟨[], c :: last, by simp [splitChars, hc, h1], by simp [splitChars, hc, h2]⟩
      | cons p ps =>
        exact ⟨(c :: p) :: ps, last, by simp [splitChars, hc, h1], by simp [splitChars, hc, h2]⟩

/-- A path written as a text followed by a name of two or more characters without a slash
ends in a component that ends in that name. -/
theorem pathComponents_append_name (s : String) {n : String} (hn : '/' ∉ n.toList)
    (hlong : 2 ≤ n.length) : ∃ pre y, pathComponents (s ++ n) = pre ++ [y ++ n] := by
  obtain ⟨pre, last, -, h⟩ := splitChars_append_of_not_mem hn s.toList
  have hlen : 2 ≤ (String.ofList (last ++ n.toList)).length := by
    simp only [String.length_ofList, List.length_append, String.length_toList]
    omega
  -- the last piece is long enough to be neither empty nor `.`
  have hkeep : (!(String.ofList (last ++ n.toList)).isEmpty &&
      String.ofList (last ++ n.toList) != ".") = true := by
    have hne : String.ofList (last ++ n.toList) ≠ "." := fun he => by
      rw [he] at hlen
      exact absurd hlen (by decide)
    simp only [Bool.and_eq_true, Bool.not_eq_true', String.isEmpty_eq_false_iff, bne_iff_ne,
      ne_eq, hne, not_false_eq_true, and_true]
    intro he
    rw [he] at hlen
    exact absurd hlen (by decide)
  refine ⟨((pre.map String.ofList).filter fun c => !c.isEmpty && c != "."),
    String.ofList last, ?_⟩
  simp only [pathComponents, split, String.toList_append, h, List.map_append, List.map_cons,
    List.map_nil, List.filter_append, List.filter_cons, hkeep, if_true, List.filter_nil]
  simp

/-- A stub's path never ends in a `.php` name. -/
theorem stubPath_ne_php (stubs name : String) (d : List String) (y : String) :
    pathComponents stubs ++ pathComponents (name ++ ".stub") ≠ d ++ [y ++ ".php"] := by
  obtain ⟨pre, z, hz⟩ := pathComponents_append_name name (n := ".stub") (by decide) (by decide)
  intro h
  rw [hz, ← List.append_assoc] at h
  obtain ⟨-, hlast⟩ := List.append_inj' h rfl
  have := congrArg (fun s : String => s.toList.getLast?) (List.singleton_inj.mp hlast)
  simp at this

end CrudScaffold
