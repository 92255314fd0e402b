import Mathlib
import CrudScaffold.Proofs.GlobCrate
import CrudScaffold.Proofs.Artifacts

/-! The lookup of an earlier migration through the glob crate. The root and the migration's
directory are escaped, so they are matched literally whatever characters they hold, and the stamp
is written with wildcards that stand for one character each. Under the crate's documented
behaviour the lookup never fails on its pattern: it answers with the least present entry `d/x`
of the migration's directory `d` whose name `x` is a stamp followed by the rest of the
migration's name, or with none when there is no such entry (`existingMigration_least`).

The directory has to be written without a leading `./`: the crate starts a relative pattern at
`.` and keeps no `.` when it steps into the directory, so the entry comes back without it
(`existingMigration_drops_leading_dot`). -/

namespace CrudScaffold

open Text

/-! ### Names -/

/-- A text of at least `n` bytes has at least `n / 4` characters, and what follows byte `n` is
a suffix of it. -/
theorem dropBytes_spec : ∀ {n : Nat} {cs r : List Char}, dropBytes n cs = some r →
    n ≤ 4 * cs.length ∧ r <:+ cs
  | 0, cs, r, h => by
    simp only [dropBytes, Option.some.injEq] at h
    exact ⟨Nat.zero_le _, h ▸ List.suffix_refl cs⟩
  | _ + 1, [], _, h => by simp [dropBytes] at h
  | n + 1, c :: cs, r, h => by
    simp only [dropBytes] at h
    split_ifs at h with hc
    obtain ⟨hlen, hsuf⟩ := dropBytes_spec h
    have hfour := Char.utf8Size_le_four c
    exact ⟨by simp only [List.length_cons]; omega, hsuf.trans (List.suffix_cons c cs)⟩

theorem ofPiece_of_length {x : String} (h : 3 ≤ x.length) :
    PathComponent.ofPiece x = some (.normal x) := by
  have h0 : x ≠ "" := by rintro rfl; exact absurd h (by decide)
  have h1 : x ≠ "." := by rintro rfl; exact absurd h (by decide)
  have h2 : x ≠ ".." := by rintro rfl; exact absurd h (by decide)
  simp [PathComponent.ofPiece, h0, h1, h2]

theorem isEntryName_of_length {x : String} (h : 3 ≤ x.length) (hslash : '/' ∉ x.toList) :
    Path.IsEntryName x :=
  ⟨ofPiece_of_length h, hslash⟩

/-- A migration's name holds at least the eighteen bytes of its stamp. -/
theorem isEntryName_of_dropBytes {name : String} {suffix : List Char}
    (h : dropBytes migrationPrefixLength name.toList = some suffix) (hslash : '/' ∉ name.toList) :
    Path.IsEntryName name := by
  have hlen := (dropBytes_spec h).1
  simp only [migrationPrefixLength, String.length_toList] at hlen
  exact isEntryName_of_length (by omega) hslash

/-- A name of the stamp shape has its eighteen characters. -/
theorem isEntryName_of_stampedWith {x : String} {suffix : List Char}
    (h : stampedWith suffix x = true) (hslash : '/' ∉ x.toList) : Path.IsEntryName x := by
  have hlen := length_le_of_fitsShape (stampedWith_iff.mp h).1
  rw [String.length_toList] at hlen
  exact isEntryName_of_length (by simp [stampShape] at hlen; omega) hslash

namespace Path

theorem split_of_slash_not_mem {x : String} (h : '/' ∉ x.toList) : split x '/' = [x] := by
  simpa using @split_intercalate '/' "/" rfl [x] (by simpa using h) (by simp)

theorem splitChars_toList (s : String) : splitChars '/' s.toList = (split s '/').map String.toList := by
  simp [split, List.map_map, Function.comp_def]

theorem isAbsolute_of_entryName {x : String} (hx : IsEntryName x) : isAbsolute x = false :=
  isAbsolute_eq_false fun h => hx.2 (List.mem_of_mem_head? h)

theorem isAbsolute_of_head {s : String} (h : (split s '/').head? ≠ some "") :
    isAbsolute s = false := by
  by_contra hne
  exact h (head?_split_of_isAbsolute (by simpa using hne))

/-! ### The migration's path and directory -/

/-- A directory given as relative and not starting at `.`: empty, or starting with a
component. -/
theorem empty_or_startsWithComponent {d : String} (hd : isAbsolute d = false)
    (hdot : startsAtCurrent d = false) : d = "" ∨ StartsWithComponent d := by
  by_cases he : d = ""
  · exact .inl he
  · exact .inr (startsWithComponent_of he hd hdot)

theorem startsWithComponent_joinPath {d x : String} (hd : d = "" ∨ StartsWithComponent d)
    (hx : IsEntryName x) : StartsWithComponent (joinPath d x) := by
  intro p hp
  rw [split_joinPath, split_of_slash_not_mem hx.2] at hp
  rcases hd with rfl | hd
  · rw [leadPieces_empty, List.nil_append, List.head?_cons, Option.mem_def,
      Option.some.injEq] at hp
    rw [← hp, hx.1]
    simp
  · rw [head?_leadPieces_append hd.ne_empty] at hp
    exact hd p hp

/-- An entry `d/x` of a directory given as relative and not starting at `.`: the directory's
components, then `x`. -/
theorem components_join_entry {d x : String} (hd : isAbsolute d = false)
    (hdot : startsAtCurrent d = false) (hx : IsEntryName x) :
    components (join d x) = listed d ++ [.normal x] := by
  have hjoin : join d x = joinPath d x := join_of_relative d (isAbsolute_of_entryName hx)
  have hstart := startsWithComponent_joinPath (empty_or_startsWithComponent hd hdot) hx
  rw [hjoin, components_of_startsAtCurrent hstart.startsAtCurrent,
    listed_joinPath d (isAbsolute_of_entryName hx), listed_name hx.1 hx.2]

/-- The directory a migration path stands in is, past its start, the migration's directory, and
is empty or starts with a component. -/
theorem parentOrEmpty_joinPath {d x : String} (hd : isAbsolute d = false)
    (hdot : startsAtCurrent d = false) (hx : IsEntryName x) :
    listed (parentOrEmpty (joinPath d x)) = listed d ∧
      (parentOrEmpty (joinPath d x) = "" ∨ StartsWithComponent (parentOrEmpty (joinPath d x))) := by
  have hstart := startsWithComponent_joinPath (empty_or_startsWithComponent hd hdot) hx
  refine ⟨?_, ?_⟩
  · rw [listed_parentOrEmpty, listed_joinPath d (isAbsolute_of_entryName hx),
      listed_name hx.1 hx.2, List.dropLast_concat]
  · rcases head?_split_parentOrEmpty hstart.startLength with he | hhead
    · exact .inl he
    · exact .inr (fun p hp => hstart p (hhead ▸ hp))

/-! ### The pattern -/

/-- The pieces of the pattern: the root's and the directory's, escaped, then the last piece. -/
theorem split_pattern (R : String) {dir t : String} (hdir : dir = "" ∨ StartsWithComponent dir)
    (ht : t ≠ "") (hslash : '/' ∉ t.toList) :
    split (join (escape R) (join (escape dir) t)) '/' =
      (leadPieces R ++ leadPieces dir).map escape ++ [t] := by
  have htabs : isAbsolute t = false :=
    isAbsolute_eq_false fun h => hslash (List.mem_of_mem_head? h)
  have hinner : split (joinPath (escape dir) t) '/' = (leadPieces dir).map escape ++ [t] := by
    rw [split_joinPath, leadPieces_escape, split_of_slash_not_mem hslash]
  -- the directory's first piece, escaped, is not empty, so the inner pattern is relative
  have hinnerAbs : isAbsolute (joinPath (escape dir) t) = false := by
    apply isAbsolute_of_head
    rw [hinner]
    rcases hdir with rfl | hdir
    · simpa [leadPieces_empty] using ht
    · cases hl : leadPieces dir with
      | nil => simpa using ht
      | cons p ps =>
        have hp : PathComponent.ofPiece p ≠ none :=
          hdir p (by rw [← head?_leadPieces hdir.ne_empty, hl]; rfl)
        have hpe : p ≠ "" := fun he => hp (he ▸ PathComponent.ofPiece_empty)
        simpa [escape_eq_empty] using hpe
  rw [join_of_relative _ htabs, join_of_relative _ hinnerAbs, split_joinPath, leadPieces_escape,
    hinner, List.map_append, List.append_assoc]

end Path

/-- A present entry `d/x` of the directory `d` under the root, whose name `x` is a stamp
followed by `suffix`. -/
def LocalFilesystem.StampedEntry (fs : LocalFilesystem) (present : List PathComponent → Prop)
    (d : String) (suffix : List Char) (q : List PathComponent) : Prop :=
  ∃ x : String, '/' ∉ x.toList ∧ stampedWith suffix x = true ∧
    q = Path.components (Path.join d x) ∧ present (Path.listed fs.root ++ q)

section Lookup

variable {G : GlobCrate} {present : List PathComponent → Prop}

namespace Path

/-- Where the crate stands after the root's and the directory's pieces: at their components,
with a step from there leading to their components and the step's. A root written `.` or empty
leaves the crate at `.`, from which the first component starts a fresh path. -/
theorem globWalk_leadPieces {R dir : String} (hR : startsAtCurrent R = false ∨ R = ".")
    (hdir : dir = "" ∨ StartsWithComponent dir) :
    ∃ base, globWalk (leadPieces R ++ leadPieces dir) = some base ∧
      ∀ c, c ≠ .curDir → descend base c = listed R ++ listed dir ++ [c] := by
  have hdirAbs : isAbsolute dir = false := by
    rcases hdir with rfl | hdir
    · rfl
    · exact hdir.isAbsolute
  have hdirHead : ∀ p ∈ (leadPieces dir).head?, PathComponent.ofPiece p ≠ none := by
    rcases hdir with rfl | hdir
    · simp [leadPieces_empty]
    · rw [head?_leadPieces hdir.ne_empty]
      exact hdir
  have hlistedDir : listed dir = (leadPieces dir).filterMap PathComponent.ofPiece := by
    rw [filterMap_leadPieces, listed, hdirAbs]
    rfl
  by_cases habs : isAbsolute R = true
  · -- a root that starts at `/`: its first piece is empty, and the walk never stands at `.`
    have hne : R ≠ "" := by rintro rfl; simp [isAbsolute] at habs
    obtain ⟨rest, hrest⟩ : ∃ rest, leadPieces R = "" :: rest := by
      have hh := head?_leadPieces hne
      rw [head?_split_of_isAbsolute habs] at hh
      obtain ⟨rest, hr⟩ := List.head?_eq_some_iff.mp hh
      exact ⟨rest, hr⟩
    have hlistedR : listed R = [.rootDir] ++ rest.filterMap PathComponent.ofPiece := by
      rw [listed, habs, if_pos rfl, ← filterMap_leadPieces, hrest]
      simp [PathComponent.ofPiece_empty]
    have hroot : [PathComponent.rootDir] ≠ [.curDir] := by simp
    refine ⟨[.rootDir] ++ (rest ++ leadPieces dir).filterMap PathComponent.ofPiece, ?_,
      fun c _ => ?_⟩
    · rw [globWalk, hrest, List.cons_append, List.head?_cons, if_pos rfl, List.tail_cons]
      exact foldlM_globStep_of_ne _ hroot
    · rw [descend_of_ne (by simp), hlistedR, hlistedDir, List.filterMap_append]
      simp
  have habs' : isAbsolute R = false := by simpa using habs
  have hlistedR : listed R = (leadPieces R).filterMap PathComponent.ofPiece := by
    rw [filterMap_leadPieces, listed, habs']
    rfl
  rcases hR with hcur | rfl
  · -- a relative root not starting at `.`: the walk starts with its first component, or with
    -- the directory's when the root is empty
    have hhead : ∀ p ∈ (leadPieces R ++ leadPieces dir).head?,
        PathComponent.ofPiece p ≠ none := by
      by_cases hRe : R = ""
      · subst hRe
        rw [leadPieces_empty, List.nil_append]
        exact hdirHead
      · rw [head?_leadPieces_append hRe]
        exact startsWithComponent_of hRe habs' hcur
    have hwalk : globWalk (leadPieces R ++ leadPieces dir) =
        (leadPieces R ++ leadPieces dir).foldlM globStep [.curDir] := by
      rw [globWalk, if_neg]
      intro he
      exact hhead "" he PathComponent.ofPiece_empty
    obtain ⟨base, hb, hdesc⟩ := foldlM_globStep_start hhead
    refine ⟨base, hwalk ▸ hb, fun c hc => ?_⟩
    rw [hdesc c hc, List.filterMap_append, hlistedR, hlistedDir]
  · -- the root `.`: the walk stays at `.` through it
    have hwalk : globWalk (leadPieces "." ++ leadPieces dir) =
        (leadPieces dir).foldlM globStep [.curDir] := by
      rw [leadPieces_dot, globWalk, if_neg (by simp), List.singleton_append,
        foldlM_globStep_dot]
    obtain ⟨base, hb, hdesc⟩ := foldlM_globStep_start hdirHead
    refine ⟨base, hwalk ▸ hb, fun c hc => ?_⟩
    rw [hdesc c hc, hlistedDir, show listed "." = [] by decide, List.nil_append]

/-- A path listed under the root comes back relative to it. Under the root `.` nothing is
stripped, as a listed path keeps no `.`. -/
theorem stripPrefix_listed {R : String} (hR : startsAtCurrent R = false ∨ R = ".")
    {q : List PathComponent} (hq : .curDir ∉ q) :
    (stripPrefix (components R) (listed R ++ q)).getD (listed R ++ q) = q := by
  rcases hR with hcur | rfl
  · have hp : (listed R).isPrefixOf (listed R ++ q) = true :=
      List.isPrefixOf_iff_prefix.mpr (List.prefix_append _ _)
    rw [components_of_startsAtCurrent hcur, stripPrefix, if_pos hp]
    simp
  · have hdot : listed "." = [] := by decide
    have hcomp : components "." = [.curDir] := by decide
    rw [hdot, List.nil_append, hcomp, stripPrefix, if_neg]
    · rfl
    · intro hp
      cases q with
      | nil => simp at hp
      | cons c q =>
        simp only [List.isPrefixOf, Bool.and_true, beq_iff_eq] at hp
        exact hq (hp ▸ List.mem_cons_self)

end Path

/-- The file system's `glob` on an escaped directory followed by a piece of tokens lists,
relative to the root, the present entries of the directory whose names the piece matches. -/
theorem LocalFilesystem.glob_escaped (hG : G.Lawful present) {R dir : String}
    (hR : Path.startsAtCurrent R = false ∨ R = ".")
    (hdir : dir = "" ∨ Path.StartsWithComponent dir) {w : List GlobToken} (hw : w ≠ [])
    (hhead : w.head? ≠ some (.char '.')) (hslash : GlobToken.char '/' ∉ w) :
    ∃ found, (LocalFilesystem.mk R).glob G
        (Path.join (Path.escape dir) (String.ofList (w.flatMap GlobToken.render))) = .ok found ∧
      ∀ q, q ∈ found ↔ ∃ n, q = Path.listed dir ++ [.normal n] ∧ Path.IsEntryName n ∧
        GlobToken.matchAll w n.toList = true ∧ present (Path.listed R ++ q) := by
  set t := String.ofList (w.flatMap GlobToken.render) with ht
  have htne : t ≠ "" := by
    rw [ht, Ne, ← String.toList_inj, String.toList_ofList, String.toList_empty]
    exact GlobToken.flatMap_render_ne_nil hw
  have htslash : '/' ∉ t.toList := by
    rw [ht, String.toList_ofList]
    exact GlobToken.slash_not_mem_flatMap_render hslash
  have hpieces := Path.split_pattern R hdir htne htslash
  have hsplit : splitChars '/' (Path.join (Path.escape R) (Path.join (Path.escape dir) t)).toList =
      (Path.leadPieces R ++ Path.leadPieces dir).map (fun p => escapeChars p.toList) ++
        [w.flatMap GlobToken.render] := by
    rw [Path.splitChars_toList, hpieces]
    simp only [List.map_append, List.map_map, Function.comp_def, Path.toList_escape, List.map_cons,
      List.map_nil, ht, String.toList_ofList]
  obtain ⟨L, hL, hmem⟩ := hG.glob_entries _ _ w hsplit hw hhead
  obtain ⟨base, hbase, hdesc⟩ := Path.globWalk_leadPieces hR hdir
  refine ⟨L.map fun p => (Path.stripPrefix (Path.components R) p).getD p, ?_, fun q => ?_⟩
  · simp only [LocalFilesystem.glob, hG.escape_text, hL]
  · simp only [List.mem_map, hmem, hbase, Option.some.injEq]
    constructor
    · rintro ⟨Q, ⟨hQ, b, n, rfl, rfl, hn, hm⟩, rfl⟩
      rw [hdesc _ (by simp), List.append_assoc,
        Path.stripPrefix_listed hR (by simp [Path.curDir_not_mem_listed])]
      exact ⟨n, rfl, hn, hm, by rw [← List.append_assoc, ← hdesc _ (by simp)]; exact hQ⟩
    · rintro ⟨n, rfl, hn, hm, hQ⟩
      have hQ' : Path.descend base (.normal n) = Path.listed R ++ (Path.listed dir ++ [.normal n]) := by
        rw [hdesc _ (by simp), List.append_assoc]
      refine ⟨_, ⟨by rw [hQ']; exact hQ, base, n, rfl, rfl, hn, hm⟩, ?_⟩
      rw [hQ', Path.stripPrefix_listed hR (by simp [Path.curDir_not_mem_listed])]

/-- The lookup sorts what `glob` finds for the migration's directory and the rest of its name,
and what it finds are the stamped entries of that directory. -/
theorem LocalFilesystem.existingMigration_found (hG : G.Lawful present) {R d name : String}
    {suffix : List Char} (hR : Path.startsAtCurrent R = false ∨ R = ".")
    (hd : Path.isAbsolute d = false) (hdot : Path.startsAtCurrent d = false)
    (hname : '/' ∉ name.toList)
    (hsuffix : dropBytes migrationPrefixLength name.toList = some suffix) :
    ∃ found : List (List PathComponent),
      (LocalFilesystem.mk R).existingMigration G (Path.join d name) =
        .ok (found.mergeSort Path.le).head? ∧
      ∀ q, q ∈ found ↔ (LocalFilesystem.mk R).StampedEntry present d suffix q := by
  have hn : Path.IsEntryName name := isEntryName_of_dropBytes hsuffix hname
  have hjoin : Path.join d name = joinPath d name :=
    Path.join_of_relative d (Path.isAbsolute_of_entryName hn)
  have hfile : Path.fileName (joinPath d name) = some name :=
    Path.fileName_of_listed (by rw [Path.listed_joinPath d (Path.isAbsolute_of_entryName hn),
      Path.listed_name hn.1 hn.2])
  obtain ⟨hlistedDir, hdir⟩ := Path.parentOrEmpty_joinPath hd hdot hn
  -- the last piece of the pattern: a wildcard for each character of the stamp, then the rest
  -- of the name, escaped
  have hwText : stampPattern ++ G.escape suffix =
      (shapeTokens stampShape ++ suffix.map GlobToken.char).flatMap GlobToken.render := by
    rw [hG.escape_eq, stampPattern_eq, List.flatMap_append, escapeChars]
  have hsuffixSlash : '/' ∉ suffix := fun h => hname ((dropBytes_spec hsuffix).2.subset h)
  have hwne : shapeTokens stampShape ++ suffix.map GlobToken.char ≠ [] := by
    simp [shapeTokens, stampShape]
  have hwhead : (shapeTokens stampShape ++ suffix.map GlobToken.char).head? ≠
      some (.char '.') := by
    simp [shapeTokens, stampShape]
  have hwslash : GlobToken.char '/' ∉ shapeTokens stampShape ++ suffix.map GlobToken.char := by
    simpa [shapeTokens, stampShape] using hsuffixSlash
  obtain ⟨found, hglob, hmem⟩ := LocalFilesystem.glob_escaped hG hR hdir hwne hwhead hwslash
  refine ⟨found, ?_, fun q => ?_⟩
  · simp only [LocalFilesystem.existingMigration, hjoin, hfile, hsuffix, hG.escape_text, hwText,
      hglob]
  · rw [hmem]
    constructor
    · intro h
      obtain ⟨n, hq, hn', hm, hp⟩ := h
      rw [matchAll_stamp] at hm
      refine ⟨n, hn'.2, hm, ?_, hp⟩
      rw [hq, Path.components_join_entry hd hdot hn', hlistedDir]
    · rintro ⟨x, hx, hs, rfl, hp⟩
      have hx' := isEntryName_of_stampedWith hs hx
      exact ⟨x, by rw [Path.components_join_entry hd hdot hx', hlistedDir], hx',
        by rw [matchAll_stamp]; exact hs, hp⟩

/-- The lookup of an earlier migration is literal and total. For a root that is `.` or not
written with a leading `./`, a relative directory `d` not written with a leading `./`, and a
migration name whose eighteenth byte ends a character, the lookup never fails on its pattern; it
answers with the least, in path order, of the present entries `d/x` whose name `x` is a stamp
followed by the rest of the migration's name, and with none when there is none. -/
theorem existingMigration_least (hG : G.Lawful present) {R d name : String} {suffix : List Char}
    (hR : Path.startsAtCurrent R = false ∨ R = ".")
    (hd : Path.isAbsolute d = false) (hdot : Path.startsAtCurrent d = false)
    (hname : '/' ∉ name.toList)
    (hsuffix : dropBytes migrationPrefixLength name.toList = some suffix) :
    ∃ r, (LocalFilesystem.mk R).existingMigration G (Path.join d name) = .ok r ∧
      (r = none ↔ ∀ q, ¬ (LocalFilesystem.mk R).StampedEntry present d suffix q) ∧
      ∀ q, r = some q → (LocalFilesystem.mk R).StampedEntry present d suffix q ∧
        ∀ q', (LocalFilesystem.mk R).StampedEntry present d suffix q' → Path.le q q' = true := by
  obtain ⟨found, hlookup, hmem⟩ :=
    LocalFilesystem.existingMigration_found hG hR hd hdot hname hsuffix
  refine ⟨_, hlookup, ?_, fun q hq => ?_⟩
  · rw [head?_mergeSort_eq_none, List.eq_nil_iff_forall_not_mem]
    exact forall_congr' fun q => not_congr (hmem q)
  · obtain ⟨hfound, hleast⟩ := @head?_mergeSort_least _ Path.le
      (fun _ _ _ h₁ h₂ => Path.le_trans h₁ h₂) (fun a b => by simpa using Path.le_total a b) _ _ hq
    exact ⟨(hmem q).mp hfound, fun q' hq' => hleast q' ((hmem q').mpr hq')⟩

end Lookup

/-- The files of a site under `/srv/site` whose migrations directory holds one migration. -/
def postsSite : List (List PathComponent) :=
  [[.rootDir, .normal "srv", .normal "site", .normal "database", .normal "migrations",
    .normal "2023_01_01_000000_create_posts_table.php"]]

theorem existingMigration_least_postsSite :
    (GlobCrate.listing postsSite).Lawful (· ∈ postsSite) ∧
    (Path.startsAtCurrent "/srv/site" = false ∨ "/srv/site" = ".") ∧
    Path.isAbsolute "database/migrations" = false ∧
    Path.startsAtCurrent "database/migrations" = false ∧
    '/' ∉ "2024_01_15_103000_create_posts_table.php".toList ∧
    dropBytes migrationPrefixLength "2024_01_15_103000_create_posts_table.php".toList =
      some "create_posts_table.php".toList ∧
    ∃ r, (LocalFilesystem.mk "/srv/site").existingMigration (GlobCrate.listing postsSite)
        (Path.join "database/migrations" "2024_01_15_103000_create_posts_table.php") = .ok r ∧
      (r = none ↔ ∀ q, ¬ (LocalFilesystem.mk "/srv/site").StampedEntry (· ∈ postsSite)
        "database/migrations" "create_posts_table.php".toList q) ∧
      ∀ q, r = some q → (LocalFilesystem.mk "/srv/site").StampedEntry (· ∈ postsSite)
          "database/migrations" "create_posts_table.php".toList q ∧
        ∀ q', (LocalFilesystem.mk "/srv/site").StampedEntry (· ∈ postsSite)
          "database/migrations" "create_posts_table.php".toList q' → Path.le q q' = true :=
  ⟨GlobCrate.listing_lawful _, by decide +kernel, by decide +kernel, by decide +kernel,
    by decide +kernel, by decide +kernel,
    existingMigration_least (GlobCrate.listing_lawful _) (by decide +kernel) (by decide +kernel)
      (by decide +kernel) (by decide +kernel) (by decide +kernel)⟩

/-- A path joined after a directory written with a leading `./` starts at `.`, or at the root
when the path joined is absolute: never with a name. -/
theorem head?_components_join_of_startsAtCurrent {d : String} (hd : Path.startsAtCurrent d = true)
    (x : String) : ∀ c ∈ (Path.components (Path.join d x)).head?, c = .curDir ∨ c = .rootDir := by
  intro c hc
  by_cases hx : Path.isAbsolute x = true
  · obtain ⟨rest, hr⟩ := Path.isAbsolute_iff.mp hx
    have hcur : Path.startsAtCurrent x = false := by simp [Path.startsAtCurrent, hr]
    simp [Path.join, hx, Path.components_of_startsAtCurrent hcur, Path.listed] at hc
    exact .inr hc.symm
  · have hstart : Path.startsAtCurrent (Path.join d x) = true := by
      rw [Path.join, if_neg hx, Path.joinPath_eq_append]
      obtain ⟨rest, hr⟩ : ∃ rest, (joinPath d "").toList = '.' :: '/' :: rest := by
        unfold joinPath
        rcases Path.startsAtCurrent_iff.mp hd with hr | ⟨rest, hr⟩
        · have hne : d.isEmpty = false := by simp [← String.toList_inj, hr]
          have hend : d.endsWith "/" = false := by
            rw [Bool.eq_false_iff, Ne, Path.endsWith_slash_iff, hr]
            simp
          exact ⟨[], by simp [hne, hend, hr]⟩
        · have hne : d.isEmpty = false := by simp [← String.toList_inj, hr]
          rw [if_neg (by simp [hne])]
          split_ifs
          · exact ⟨rest, by simp [hr]⟩
          · exact ⟨rest ++ ['/'], by simp [hr]⟩
      simp [Path.startsAtCurrent, hr]
    simp [Path.components, hstart] at hc
    exact .inl hc.symm

/-- A migration directory written with a leading `./`: the entry the lookup finds comes back
without the `.`, so it is the path `d/x` of no name `x`. -/
theorem existingMigration_drops_leading_dot :
    (GlobCrate.listing postsSite).Lawful (· ∈ postsSite) ∧
    (LocalFilesystem.mk "/srv/site").existingMigration (GlobCrate.listing postsSite)
        (Path.join "./database/migrations" "2024_01_15_103000_create_posts_table.php") =
      .ok (some [.normal "database", .normal "migrations",
        .normal "2023_01_01_000000_create_posts_table.php"]) ∧
    ∀ x, Path.components (Path.join "./database/migrations" x) ≠
      [.normal "database", .normal "migrations",
        .normal "2023_01_01_000000_create_posts_table.php"] := by
  refine ⟨GlobCrate.listing_lawful _, by decide +kernel, fun x hx => ?_⟩
  have hhead := head?_components_join_of_startsAtCurrent (d := "./database/migrations")
    (by decide +kernel) x
  rw [hx] at hhead
  simpa using hhead _ rfl

end CrudScaffold
