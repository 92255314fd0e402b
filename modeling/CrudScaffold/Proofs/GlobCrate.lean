import Mathlib
import CrudScaffold.Project.Glob
import CrudScaffold.Proofs.PathComponents

/-! What the lookup relies on of the glob crate. A pattern is read piece by piece between
separators. The lookup writes two kinds of piece: an escaped text, which stands for itself, and a
last piece of tokens, each `?` (any one character), a metacharacter between brackets or a plain
character. `GlobCrate.Lawful` states the crate's documented behaviour on such patterns:
`Pattern::escape` puts each metacharacter between brackets, and `glob` lists the present entries
of the directory that the escaped pieces lead to, whose names the last piece matches.

The crate walks to that directory from the root, or from `.` for a relative pattern. From `.` a
piece starts a fresh path, so a leading `.` is not kept, and an empty piece there names the empty
path, which is never present. A finite listing of paths is a lawful crate
(`GlobCrate.listing_lawful`), so the laws can be met. -/

namespace CrudScaffold

open Text

/-- The characters a glob pattern reads as a wildcard or a bracket. -/
def isMetachar (c : Char) : Bool :=
  c == '?' || c == '*' || c == '[' || c == ']'

/-- A token of a pattern piece as the lookup writes one. -/
inductive GlobToken where
  /-- `?`: any one character. -/
  | anyChar
  /-- One character, written between brackets when it is a metacharacter. -/
  | char (c : Char)
deriving DecidableEq, Repr

namespace GlobToken

/-- How a token is written in a pattern. -/
def render : GlobToken → List Char
  | anyChar => ['?']
  | char c => if isMetachar c then ['[', c, ']'] else [c]

/-- Whether a token matches a character. -/
def accepts : GlobToken → Char → Bool
  | anyChar, _ => true
  | char c, d => c == d

/-- Whether a piece of tokens matches a whole name, a token for each character. -/
def matchAll : List GlobToken → List Char → Bool
  | [], cs => cs.isEmpty
  | _ :: _, [] => false
  | t :: ts, c :: cs => t.accepts c && matchAll ts cs

/-- Where reading a piece back stands: between tokens, after an opening bracket, or after the
character between brackets. -/
inductive ReadState where
  | between
  | opened
  | bracketed (c : Char)

/-- Reads tokens back from how they are written, a character at a time. -/
def readFrom : ReadState → List Char → Option (List GlobToken)
  | .between, [] => some []
  | .between, c :: cs =>
    if c = '?' then (readFrom .between cs).map (anyChar :: ·)
    else if c = '[' then readFrom .opened cs
    else if isMetachar c then none
    else (readFrom .between cs).map (char c :: ·)
  | .opened, c :: cs => readFrom (.bracketed c) cs
  | .bracketed c, d :: cs => if d = ']' then (readFrom .between cs).map (char c :: ·) else none
  | .opened, [] => none
  | .bracketed _, [] => none

/-- Reads a piece of tokens back from how it is written. -/
def read (l : List Char) : Option (List GlobToken) :=
  readFrom .between l

/-- The character a token stands for, when it is no wildcard. -/
def literal : GlobToken → Option Char
  | anyChar => none
  | char c => some c

end GlobToken

/-- `Pattern::escape` as documented: each metacharacter between brackets. -/
def escapeChars (s : List Char) : List Char :=
  (s.map GlobToken.char).flatMap GlobToken.render

/-- Reads back a text written with `escapeChars`. -/
def unescapeChars (l : List Char) : Option (List Char) :=
  (GlobToken.read l).bind fun ts => ts.mapM GlobToken.literal

/-- The tokens that match a name of a shape: a wildcard where the shape has no character. -/
def shapeTokens (shape : List (Option Char)) : List GlobToken :=
  shape.map fun o => o.elim .anyChar .char

namespace Path

/-- A text escaped for a pattern. -/
def escape (s : String) : String :=
  String.ofList (escapeChars s.toList)

/-- The pieces a directory puts before a path joined after it. -/
def leadPieces (dir : String) : List String :=
  (Text.split (joinPath dir "") '/').dropLast

/-- Where `glob` stands after a step into component `c` from the path `here`: from `.` a step
starts a fresh path. -/
def descend (here : List PathComponent) (c : PathComponent) : List PathComponent :=
  if here = [.curDir] then [c] else here ++ [c]

/-- `glob`'s step through a literal piece of a pattern. A piece that stands for no component
leaves the path as it is, but an empty piece at `.` names the empty path, which is never there. -/
def globStep (here : List PathComponent) (piece : String) : Option (List PathComponent) :=
  match PathComponent.ofPiece piece with
  | some c => some (descend here c)
  | none => if piece = "" ∧ here = [.curDir] then none else some here

/-- Where `glob` stands after the literal pieces of a pattern: it starts at the root when the
first piece is empty (the pattern starts with `/`), and at `.` otherwise. -/
def globWalk (pieces : List String) : Option (List PathComponent) :=
  if pieces.head? = some "" then pieces.tail.foldlM globStep [.rootDir]
  else pieces.foldlM globStep [.curDir]

/-- A name a directory can list. -/
def IsEntryName (n : String) : Prop :=
  PathComponent.ofPiece n = some (.normal n) ∧ '/' ∉ n.toList

instance : DecidablePred IsEntryName := fun _ => inferInstanceAs (Decidable (_ ∧ _))

/-- Whether `glob` lists `Q` for a pattern whose escaped pieces lead to `base` and whose last
piece is `w`. -/
def listsEntry (base : Option (List PathComponent)) (w : List GlobToken)
    (Q : List PathComponent) : Bool :=
  match base, Q.getLast? with
  | some b, some (.normal n) =>
    Q == descend b (.normal n) && decide (IsEntryName n) && GlobToken.matchAll w n.toList
  | _, _ => false

end Path

/-- The glob crate's documented behaviour on the patterns the lookup writes. `present` holds of
the paths the process reaches, given by their components. -/
structure GlobCrate.Lawful (G : GlobCrate) (present : List PathComponent → Prop) : Prop where
  /-- `Pattern::escape` puts each metacharacter between brackets and keeps every other
  character. -/
  escape_eq : ∀ s, G.escape s = escapeChars s
  /-- A pattern made of escaped pieces and a last piece of tokens compiles, and `glob` lists the
  present entries of the directory the escaped pieces lead to whose names the last piece
  matches. -/
  glob_entries : ∀ (P : List Char) (pieces : List String) (w : List GlobToken),
    splitChars '/' P = pieces.map (fun p => escapeChars p.toList) ++ [w.flatMap GlobToken.render] →
    w ≠ [] → w.head? ≠ some (.char '.') →
    ∃ L, G.glob P = .ok L ∧ ∀ Q, Q ∈ L ↔ present Q ∧ ∃ base n, Path.globWalk pieces = some base ∧
      Q = Path.descend base (.normal n) ∧ Path.IsEntryName n ∧ GlobToken.matchAll w n.toList = true

/-- The crate on a machine whose reachable paths are `files`: a pattern is read back into its
pieces, and the files it stands for are listed. -/
def GlobCrate.listing (files : List (List PathComponent)) : GlobCrate where
  escape := escapeChars
  glob P :=
    let pieces := splitChars '/' P
    match pieces.dropLast.mapM unescapeChars, GlobToken.read (pieces.getLast?.getD []) with
    | some lits, some w =>
      .ok (files.filter (Path.listsEntry (Path.globWalk (lits.map String.ofList)) w))
    | _, _ => .error "invalid pattern"

/-! ### Tokens -/

namespace GlobToken

theorem render_ne_nil (t : GlobToken) : t.render ≠ [] := by
  cases t with
  | anyChar => simp [render]
  | char c => by_cases hm : isMetachar c = true <;> simp [render, hm]

theorem slash_not_mem_render {c : Char} (hc : c ≠ '/') : '/' ∉ (char c).render := by
  by_cases hm : isMetachar c = true <;> simp [render, hm, Ne.symm hc]

theorem getLast?_render_eq_slash {c : Char} : (char c).render.getLast? = some '/' ↔ c = '/' := by
  by_cases hm : isMetachar c = true
  · -- a bracketed character ends with `]`, and the separator is no metacharacter
    have hc : c ≠ '/' := by rintro rfl; simp [isMetachar] at hm
    simp [render, hm, hc]
  · simp [render, hm]

theorem flatMap_render_ne_nil {w : List GlobToken} (hw : w ≠ []) : w.flatMap render ≠ [] := by
  obtain ⟨t, ts, rfl⟩ := List.exists_cons_of_ne_nil hw
  simp [render_ne_nil]

theorem slash_not_mem_flatMap_render {w : List GlobToken} (hw : char '/' ∉ w) :
    '/' ∉ w.flatMap render := by
  rw [List.mem_flatMap]
  rintro ⟨t, hmem, hin⟩
  cases t with
  | anyChar => simp [render] at hin
  | char c =>
    by_cases hc : c = '/'
    · exact hw (hc ▸ hmem)
    · exact slash_not_mem_render hc hin

/-- Reading a token back off the front of a piece. -/
theorem read_render_append (t : GlobToken) (l : List Char) :
    read (t.render ++ l) = (read l).map (t :: ·) := by
  cases t with
  | anyChar => simp [render, read, readFrom]
  | char c =>
    by_cases hc : isMetachar c = true
    · simp [render, read, readFrom, hc]
    · have hq : c ≠ '?' := fun h => by simp [h, isMetachar] at hc
      have hb : c ≠ '[' := fun h => by simp [h, isMetachar] at hc
      simp [render, read, readFrom, hc, hq, hb]

theorem read_flatMap_render (w : List GlobToken) : read (w.flatMap render) = some w := by
  induction w with
  | nil => rfl
  | cons t ts ih => rw [List.flatMap_cons, read_render_append, ih]; rfl

theorem mapM_literal_char (s : List Char) : (s.map char).mapM literal = some s := by
  induction s with
  | nil => rfl
  | cons c cs ih => simp [literal, ih]

theorem matchAll_map_char (s l : List Char) : matchAll (s.map char) l = true ↔ l = s := by
  induction s generalizing l with
  | nil => simp [matchAll]
  | cons c cs ih =>
    cases l with
    | nil => simp [matchAll]
    | cons d ds =>
      simp only [List.map_cons, matchAll, accepts, Bool.and_eq_true, beq_iff_eq, ih,
        List.cons.injEq]
      exact ⟨fun ⟨h₁, h₂⟩ => ⟨h₁.symm, h₂⟩, fun ⟨h₁, h₂⟩ => ⟨h₁.symm, h₂⟩⟩

/-- A piece of shape tokens followed by a literal suffix matches the names of that shape that
end with the suffix. -/
theorem matchAll_shapeTokens (shape : List (Option Char)) (suffix l : List Char) :
    matchAll (shapeTokens shape ++ suffix.map char) l =
      (fitsShape shape l && l.drop shape.length == suffix) := by
  induction shape generalizing l with
  | nil =>
    rw [Bool.eq_iff_iff]
    simp [shapeTokens, fitsShape, matchAll_map_char]
  | cons o os ih =>
    cases l with
    | nil => cases o <;> rfl
    | cons d ds =>
      have ih' := ih ds
      simp only [shapeTokens] at ih'
      cases o with
      | none => simp [shapeTokens, matchAll, accepts, fitsShape, ih']
      | some c =>
        by_cases h : d = c
        · subst h
          simp [shapeTokens, matchAll, accepts, fitsShape, ih']
        · have hcd : (c == d) = false := beq_false_of_ne (Ne.symm h)
          have hdc : (d == c) = false := beq_false_of_ne h
          simp [shapeTokens, matchAll, accepts, fitsShape, hcd, hdc]

end GlobToken

theorem stampPattern_eq : stampPattern = (shapeTokens stampShape).flatMap GlobToken.render := by
  decide

theorem matchAll_stamp (suffix : List Char) (n : String) :
    GlobToken.matchAll (shapeTokens stampShape ++ suffix.map GlobToken.char) n.toList =
      stampedWith suffix n := by
  rw [GlobToken.matchAll_shapeTokens, stampedWith]

/-! ### Escaping -/

theorem unescapeChars_escapeChars (s : List Char) : unescapeChars (escapeChars s) = some s := by
  simp only [unescapeChars, escapeChars, GlobToken.read_flatMap_render, Option.bind_some,
    GlobToken.mapM_literal_char]

@[simp] theorem escapeChars_nil : escapeChars [] = [] := rfl

theorem escapeChars_slash : escapeChars ['/'] = ['/'] := by decide

theorem escapeChars_cons (c : Char) (cs : List Char) :
    escapeChars (c :: cs) = (GlobToken.char c).render ++ escapeChars cs := by
  simp [escapeChars]

theorem escapeChars_append (a b : List Char) :
    escapeChars (a ++ b) = escapeChars a ++ escapeChars b := by
  simp [escapeChars]

theorem escapeChars_eq_nil {s : List Char} : escapeChars s = [] ↔ s = [] := by
  cases s with
  | nil => simp
  | cons c cs => simp [escapeChars_cons, GlobToken.render_ne_nil]

theorem slash_not_mem_escapeChars {s : List Char} (h : '/' ∉ s) : '/' ∉ escapeChars s :=
  GlobToken.slash_not_mem_flatMap_render (by simpa using h)

theorem escapeChars_intercalate (ps : List (List Char)) :
    escapeChars (['/'].intercalate ps) = ['/'].intercalate (ps.map escapeChars) := by
  induction ps with
  | nil => rfl
  | cons p rest ih =>
    cases rest with
    | nil => simp
    | cons q rest =>
      rw [List.intercalate_cons_cons, escapeChars_append, escapeChars_append, ih]
      simp [List.intercalate_cons_cons, escapeChars_slash]

/-- The separator is no metacharacter, so escaping a path escapes each of its pieces. -/
theorem splitChars_escapeChars (s : List Char) :
    splitChars '/' (escapeChars s) = (splitChars '/' s).map escapeChars := by
  have hpieces : ∀ l ∈ (s.splitOn '/').map escapeChars, '/' ∉ l := by
    simp only [List.mem_map]
    rintro l ⟨p, hp, rfl⟩
    exact slash_not_mem_escapeChars (mem_splitChars (by rwa [splitChars_eq_splitOn])).1
  have hne : (s.splitOn '/').map escapeChars ≠ [] := by simp [List.splitOn_ne_nil]
  rw [splitChars_eq_splitOn, splitChars_eq_splitOn]
  conv_lhs => rw [← @List.intercalate_splitOn Char s _ _ '/']
  rw [escapeChars_intercalate, List.splitOn_intercalate '/' hpieces hne]

theorem getLast?_escapeChars_eq_slash (s : List Char) :
    (escapeChars s).getLast? = some '/' ↔ s.getLast? = some '/' := by
  induction s with
  | nil => simp
  | cons c cs ih =>
    rw [escapeChars_cons, List.getLast?_append]
    cases cs with
    | nil => simp [GlobToken.getLast?_render_eq_slash]
    | cons d ds =>
      obtain ⟨x, hx⟩ := Option.ne_none_iff_exists'.mp
        (mt List.getLast?_eq_none_iff.mp (mt escapeChars_eq_nil.mp (List.cons_ne_nil d ds)))
      rw [List.getLast?_cons_cons, ← ih, hx]
      rfl

namespace Path

@[simp] theorem toList_escape (s : String) : (escape s).toList = escapeChars s.toList := by
  simp [escape]

theorem escape_append (a b : String) : escape (a ++ b) = escape a ++ escape b := by
  simp [escape, escapeChars_append]

theorem escape_eq_empty {s : String} : escape s = "" ↔ s = "" := by
  rw [← String.toList_inj, toList_escape, String.toList_empty, escapeChars_eq_nil,
    ← String.toList_empty, String.toList_inj]

theorem escape_slash : escape "/" = "/" := by decide

theorem split_escape (s : String) : split (escape s) '/' = (split s '/').map escape := by
  simp [split, splitChars_escapeChars, escape]

theorem endsWith_slash_iff (s : String) : s.endsWith "/" = true ↔ s.toList.getLast? = some '/' := by
  rw [String.endsWith_eq_endsWith_toSlice, String.Slice.endsWith_string_iff]
  simpa using List.singleton_suffix_iff_getLast?_eq_some

theorem endsWith_escape (s : String) : (escape s).endsWith "/" = s.endsWith "/" := by
  rw [Bool.eq_iff_iff, endsWith_slash_iff, endsWith_slash_iff, toList_escape,
    getLast?_escapeChars_eq_slash]

/-- Escaping a path joined after a directory escapes both. -/
theorem escape_joinPath (a b : String) : escape (joinPath a b) = joinPath (escape a) (escape b) := by
  have hempty : (escape a).isEmpty = a.isEmpty := by
    rw [Bool.eq_iff_iff, String.isEmpty_iff, String.isEmpty_iff, escape_eq_empty]
  unfold joinPath
  rw [hempty, endsWith_escape]
  split_ifs <;> simp [escape_append, escape_slash]

/-! ### The pieces before a joined path -/

theorem leadPieces_empty : leadPieces "" = [] := by decide

theorem leadPieces_dot : leadPieces "." = ["."] := by decide +kernel

theorem leadPieces_cases (a : String) :
    (a = "" ∧ leadPieces a = []) ∨
      ∃ a', leadPieces a = split a' '/' ∧ a ≠ "" ∧ (a = a' ∨ a = a' ++ "/") := by
  rcases joinPath_cases a "" with ⟨rfl, -⟩ | ⟨a', h, ha, ha'⟩
  · exact .inl ⟨rfl, leadPieces_empty⟩
  · refine .inr ⟨a', ?_, ha, ha'⟩
    rw [leadPieces, h, String.append_empty, split_append_slash_end, List.dropLast_concat]

/-- A path joined after a directory has the directory's pieces before its own. -/
theorem split_joinPath (a b : String) : split (joinPath a b) '/' = leadPieces a ++ split b '/' := by
  rw [joinPath_eq_append, leadPieces]
  rcases joinPath_cases a "" with ⟨-, h⟩ | ⟨a', h, -, -⟩
  · rw [h, String.empty_append, split_empty]
    rfl
  · rw [h, String.append_empty, split_append_slash, split_append_slash_end,
      List.dropLast_concat]

theorem filterMap_leadPieces (a : String) :
    (leadPieces a).filterMap PathComponent.ofPiece = (split a '/').filterMap PathComponent.ofPiece := by
  rcases leadPieces_cases a with ⟨rfl, h⟩ | ⟨a', h, -, rfl | rfl⟩
  · rw [h, split_empty]
    simp [PathComponent.ofPiece_empty]
  · rw [h]
  · rw [h, split_append_slash_end]
    simp [PathComponent.ofPiece_empty]

theorem head?_leadPieces {a : String} (ha : a ≠ "") :
    (leadPieces a).head? = (split a '/').head? := by
  rcases leadPieces_cases a with ⟨rfl, -⟩ | ⟨a', h, -, rfl | rfl⟩
  · exact absurd rfl ha
  · rw [h]
  · rw [h, split_append_slash_end]
    cases hs : split a' '/' with
    | nil => exact absurd hs (split_ne_nil a')
    | cons p ps => rfl

/-- Past a directory that is not empty, pieces start with the directory's first piece. -/
theorem head?_leadPieces_append {a : String} (ha : a ≠ "") (l : List String) :
    (leadPieces a ++ l).head? = (split a '/').head? := by
  rw [List.head?_append, head?_leadPieces ha]
  cases hs : (split a '/').head? with
  | none => exact absurd (List.head?_eq_none_iff.mp hs) (split_ne_nil a)
  | some q => rfl

theorem leadPieces_escape (a : String) : leadPieces (escape a) = (leadPieces a).map escape := by
  have hempty : escape "" = "" := escape_eq_empty.mpr rfl
  rw [leadPieces, leadPieces, ← hempty, ← escape_joinPath, hempty, split_escape, List.map_dropLast]

/-! ### The walk -/

@[simp] theorem descend_curDir (c : PathComponent) : descend [.curDir] c = [c] := by
  simp [descend]

theorem descend_of_ne {here : List PathComponent} (h : here ≠ [.curDir]) (c : PathComponent) :
    descend here c = here ++ [c] := by
  simp [descend, h]

theorem getLast?_descend (here : List PathComponent) (c : PathComponent) :
    (descend here c).getLast? = some c := by
  unfold descend
  split <;> simp

/-- Away from `.`, the walk keeps every component the pieces stand for. -/
theorem foldlM_globStep_of_ne (ps : List String) {here : List PathComponent}
    (h : here ≠ [.curDir]) :
    ps.foldlM globStep here = some (here ++ ps.filterMap PathComponent.ofPiece) := by
  induction ps generalizing here with
  | nil => simp
  | cons p ps ih =>
    rw [List.foldlM_cons]
    cases hp : PathComponent.ofPiece p with
    | none =>
      have hstep : globStep here p = some here := by simp [globStep, hp, h]
      simp [hstep, ih h, hp]
    | some c =>
      -- the path stepped into is not `.` again: no piece stands for `.`
      have hne : here ++ [c] ≠ [.curDir] := fun he => by
        obtain ⟨-, hc⟩ | ⟨-, hnil⟩ := List.append_eq_singleton_iff.mp he
        · exact PathComponent.ne_curDir_of_ofPiece hp (List.singleton_inj.mp hc)
        · simp at hnil
      have hstep : globStep here p = some (here ++ [c]) := by simp [globStep, hp, descend, h]
      simp [hstep, ih hne, hp]

theorem foldlM_globStep_dot (ps : List String) :
    ("." :: ps).foldlM globStep [.curDir] = ps.foldlM globStep [.curDir] := by
  simp [List.foldlM_cons, globStep, PathComponent.ofPiece_dot]

/-- From `.`, a walk whose first piece stands for a component keeps every component the pieces
stand for, and so does its last step. -/
theorem foldlM_globStep_start {ps : List String}
    (hps : ∀ p ∈ ps.head?, PathComponent.ofPiece p ≠ none) :
    ∃ base, ps.foldlM globStep [.curDir] = some base ∧
      ∀ c, c ≠ .curDir → descend base c = ps.filterMap PathComponent.ofPiece ++ [c] := by
  cases ps with
  | nil => exact ⟨[.curDir], rfl, fun c _ => by simp⟩
  | cons p ps =>
    obtain ⟨c₀, hc₀⟩ := Option.ne_none_iff_exists'.mp (hps p rfl)
    have hne : c₀ :: ps.filterMap PathComponent.ofPiece ≠ [.curDir] := fun he =>
      PathComponent.ne_curDir_of_ofPiece hc₀ (List.cons.inj he).1
    have hstep : globStep [.curDir] p = some [c₀] := by simp [globStep, hc₀]
    refine ⟨c₀ :: ps.filterMap PathComponent.ofPiece, ?_, fun c _ => ?_⟩
    · have hne₀ : [c₀] ≠ [.curDir] := fun he =>
        PathComponent.ne_curDir_of_ofPiece hc₀ (List.cons.inj he).1
      rw [List.foldlM_cons, hstep]
      simpa using foldlM_globStep_of_ne ps hne₀
    · rw [descend_of_ne hne]
      simp [hc₀]

/-- The crate lists `Q` exactly when the escaped pieces lead somewhere and `Q` is an entry
there whose name the last piece matches. -/
theorem listsEntry_iff {base : Option (List PathComponent)} {w : List GlobToken}
    {Q : List PathComponent} :
    listsEntry base w Q = true ↔ ∃ b n, base = some b ∧ Q = descend b (.normal n) ∧
      IsEntryName n ∧ GlobToken.matchAll w n.toList = true := by
  constructor
  · intro h
    unfold listsEntry at h
    split at h
    · rename_i b n hlast
      simp only [Bool.and_eq_true, beq_iff_eq, decide_eq_true_eq] at h
      exact ⟨b, n, rfl, h.1.1, h.1.2, h.2⟩
    · simp at h
  · rintro ⟨b, n, rfl, rfl, hn, hw⟩
    simp [listsEntry, getLast?_descend, hn, hw]

end Path

/-- A text escaped by a lawful crate. -/
theorem GlobCrate.Lawful.escape_text {G : GlobCrate} {present : List PathComponent → Prop}
    (hG : G.Lawful present) (s : String) : String.ofList (G.escape s.toList) = Path.escape s := by
  rw [hG.escape_eq]
  rfl

/-- A finite listing of paths is a lawful crate. -/
theorem GlobCrate.listing_lawful (files : List (List PathComponent)) :
    (GlobCrate.listing files).Lawful (· ∈ files) where
  escape_eq _ := rfl
  glob_entries P pieces w hP _ _ := by
    have hlits : ((splitChars '/' P).dropLast.mapM unescapeChars) =
        some (pieces.map String.toList) := by
      rw [hP, List.dropLast_concat]
      clear hP
      induction pieces with
      | nil => rfl
      | cons p ps ih => simp [List.mapM_cons, unescapeChars_escapeChars, ih]
    have hw : GlobToken.read (((splitChars '/' P).getLast?).getD []) = some w := by
      rw [hP, List.getLast?_concat, Option.getD_some, GlobToken.read_flatMap_render]
    have hpieces : (pieces.map String.toList).map String.ofList = pieces := by simp
    refine ⟨files.filter (Path.listsEntry (Path.globWalk pieces) w), ?_, fun Q => ?_⟩
    · simp only [GlobCrate.listing, hlits, hw, hpieces]
    · rw [List.mem_filter, Path.listsEntry_iff]

end CrudScaffold
