import Mathlib
import CrudScaffold.Proofs.NameChars
import CrudScaffold.Proofs.Text

/-! Which class names Pascal casing leaves as they are, and what follows for the names a
model is known by. A built request's model name is the Pascal form of the name it was given,
and every name of the model is derived from the Pascal form of that, so the model's class
and the class other artifacts name agree exactly when Pascal casing leaves the model name
alone.

For ASCII names that is a plain condition on the letters. Pascal casing starts a word at a
capital only at the first character, after a number, or when the last letter it lowered was
lowercase; that letter is never reset between words. So a capital standing right after
another capital before any lowercase letter has been read is lowered: `XY` becomes `Xy`,
while `BlogPost` and `Httprequest` stay. -/

namespace CrudScaffold.Naming

open Text

/-- An ASCII word that Pascal casing leaves alone: no lowercase letter opens it or follows a
number, and no two capitals stand side by side before its first lowercase letter. -/
def PascalStable (l : List Char) : Prop :=
  (∀ c ∈ l.head?, isLowercase c = false) ∧
    l.IsChain (fun a b => isLowercase b = true → isNumeric a = false) ∧
    (l.takeWhile fun c => !isLowercase c).IsChain
      (fun a b => ¬(isUppercase a = true ∧ isUppercase b = true))

-- decided through a boolean test of the first character, as the bounded quantifier over an
-- option does not reduce in the kernel
instance (l : List Char) : Decidable (PascalStable l) :=
  decidable_of_iff ((l.head?.all fun c => !isLowercase c) = true ∧
      l.IsChain (fun a b => isLowercase b = true → isNumeric a = false) ∧
      (l.takeWhile fun c => !isLowercase c).IsChain
        (fun a b => ¬(isUppercase a = true ∧ isUppercase b = true))) (by
    cases h : l.head? <;> simp [PascalStable, h])

/-- What Pascal casing checks of an ASCII word, read left to right: `start` at the first
character and after a number, `lower` once a lowercase letter has been read. -/
def pascalScan : Bool → Bool → List Char → Bool
  | _, _, [] => true
  | start, lower, c :: rest =>
    if isNumeric c then pascalScan true lower rest
    else if isLowercase c then !start && pascalScan false true rest
    else (start || lower) && pascalScan false lower rest

/-- The characters of an ASCII word. -/
def AsciiWord (l : List Char) : Prop := ∀ c ∈ l, c.toNat < 128 ∧ isAlphanumeric c = true

-- decided through a boolean test, as the bounded quantifier over a list does not reduce
-- in the kernel
instance (l : List Char) : Decidable (AsciiWord l) :=
  decidable_of_iff ((l.all fun c => decide (c.toNat < 128) && isAlphanumeric c) = true) (by
    simp [AsciiWord])

theorem AsciiWord.tail {c : Char} {l : List Char} (h : AsciiWord (c :: l)) : AsciiWord l :=
  fun x hx => h x (List.mem_cons_of_mem c hx)

/-- An ASCII letter or number is a number, a lowercase letter or a capital, and of exactly
one kind; a letter's own case function keeps it and the other one changes it. -/
theorem ascii_alphanumeric_cases {c : Char} (hc : c.toNat < 128)
    (ha : isAlphanumeric c = true) :
    isNumeric c = true ∧ isLowercase c = false ∧ isUppercase c = false ∨
      isNumeric c = false ∧ isLowercase c = true ∧ isUppercase c = false ∧
        c.toLower = c ∧ c.toUpper ≠ c ∨
      isNumeric c = false ∧ isLowercase c = false ∧ isUppercase c = true ∧
        c.toUpper = c ∧ c.toLower ≠ c :=
  ascii_of_forall_lt (p := fun c => isAlphanumeric c = true →
    isNumeric c = true ∧ isLowercase c = false ∧ isUppercase c = false ∨
      isNumeric c = false ∧ isLowercase c = true ∧ isUppercase c = false ∧
        c.toLower = c ∧ c.toUpper ≠ c ∨
      isNumeric c = false ∧ isLowercase c = false ∧ isUppercase c = true ∧
        c.toUpper = c ∧ c.toLower ≠ c) (by decide) hc ha

theorem AsciiWord.upper_of_lower {l : List Char} (hl : AsciiWord l) {y : Char} (hy : y ∈ l)
    (h : isLowercase y = true) : isUppercase y = false := by
  rcases ascii_alphanumeric_cases (hl y hy).1 (hl y hy).2 with
    ⟨-, hlo, -⟩ | ⟨-, -, hup, -⟩ | ⟨-, hlo, -⟩
  · simp [hlo] at h
  · exact hup
  · simp [hlo] at h

/-- One letter or number of Pascal casing: a number is written as it is, a letter is raised
at a word start and lowered inside a word. -/
theorem joinedFrom_pascal_cons {c : Char} (ha : isAlphanumeric c = true) {rest : List Char}
    {newWord first seen : Bool} {last : Char} :
    joinedFrom ⟨true, false, false, false⟩ newWord first seen last (c :: rest) =
      if isNumeric c then c :: joinedFrom ⟨true, false, false, false⟩ true first true last rest
      else if newWord || (isLowercase last && isUppercase c && last != ' ') then
        c.toUpper :: joinedFrom ⟨true, false, false, false⟩ false false true last rest
      else c.toLower :: joinedFrom ⟨true, false, false, false⟩ newWord first true c rest := by
  simp [joinedFrom, ha]

/-- Pascal casing writes an ASCII word back unchanged exactly when the scan accepts it. The
induction carries the letter `last` the casing compares against: the blank it starts with,
or the lowercase letter last read, which is what `lower` records. -/
theorem joinedFrom_pascal_eq_self_iff {l : List Char} (hl : AsciiWord l)
    {newWord first seen lower : Bool} {last : Char}
    (hlast : last = ' ' ∧ lower = false ∨ isLowercase last = true ∧ lower = true) :
    joinedFrom ⟨true, false, false, false⟩ newWord first seen last l = l ↔
      pascalScan newWord lower l = true := by
  induction l generalizing newWord first seen last lower with
  | nil => simp [joinedFrom, pascalScan]
  | cons c rest ih =>
    obtain ⟨hc, ha⟩ := hl c List.mem_cons_self
    have hstart : (isLowercase last && isUppercase c && last != ' ') =
        (lower && isUppercase c) := by
      rcases hlast with ⟨rfl, rfl⟩ | ⟨hlo, rfl⟩
      · simp [show isLowercase ' ' = false by decide]
      · have : last ≠ ' ' := fun h => absurd (h ▸ hlo) (by decide)
        simp [hlo, this]
    rw [joinedFrom_pascal_cons ha, hstart, pascalScan]
    rcases ascii_alphanumeric_cases hc ha with
      ⟨hn, -, -⟩ | ⟨hn, hlo, hup, hkeep, hmove⟩ | ⟨hn, hlo, hup, hkeep, hmove⟩
    · -- a number is written as it is and opens the next word
      simp only [hn, if_true, List.cons.injEq, true_and]
      exact ih hl.tail hlast
    · -- a lowercase letter is kept inside a word and raised at a word start
      cases newWord
      · simp only [hn, hlo, hup, Bool.and_false, Bool.or_false, Bool.false_eq_true, if_false,
          if_true, List.cons.injEq, hkeep, true_and, Bool.not_false, Bool.true_and]
        exact ih hl.tail (.inr ⟨hlo, rfl⟩)
      · simp [hn, hlo, hmove]
    · -- a capital is kept at a word start and lowered inside a word
      simp only [hn, hlo, hup, Bool.and_true, Bool.false_eq_true, if_false, Bool.and_eq_true]
      cases h : newWord || lower
      · simp [hmove]
      · simp only [if_true, List.cons.injEq, hkeep, true_and]
        exact ih hl.tail hlast

/-- Once a lowercase letter has been read, the scan only stops at a lowercase letter that
opens a word. -/
theorem pascalScan_true_iff {l : List Char} (hl : AsciiWord l) {start : Bool} :
    pascalScan start true l = true ↔
      (start = true → ∀ c ∈ l.head?, isLowercase c = false) ∧
        l.IsChain (fun a b => isLowercase b = true → isNumeric a = false) := by
  induction l generalizing start with
  | nil => simp [pascalScan]
  | cons c rest ih =>
    obtain ⟨hc, ha⟩ := hl c List.mem_cons_self
    rcases ascii_alphanumeric_cases hc ha with
      ⟨hn, hlo, -⟩ | ⟨hn, hlo, -⟩ | ⟨hn, hlo, -⟩
    · rw [pascalScan, if_pos hn, ih hl.tail, List.isChain_cons]
      simp [hlo, hn]
    · rw [pascalScan, if_neg (by simp [hn]), if_pos hlo, Bool.and_eq_true, ih hl.tail,
        List.isChain_cons]
      cases start <;> simp [hlo, hn]
    · rw [pascalScan, if_neg (by simp [hn]), if_neg (by simp [hlo]), Bool.and_eq_true,
        ih hl.tail, List.isChain_cons]
      simp [hlo, hn]

/-- Before any lowercase letter the scan also stops at a capital that follows a capital,
which is what a word start other than the first character looks like there. -/
theorem pascalScan_false_iff {l : List Char} (hl : AsciiWord l) {start : Bool} :
    pascalScan start false l = true ↔
      (∀ c ∈ l.head?, if start then isLowercase c = false else isUppercase c = false) ∧
        l.IsChain (fun a b => isLowercase b = true → isNumeric a = false) ∧
        (l.takeWhile fun c => !isLowercase c).IsChain
          (fun a b => ¬(isUppercase a = true ∧ isUppercase b = true)) := by
  induction l generalizing start with
  | nil => simp [pascalScan]
  | cons c rest ih =>
    obtain ⟨hc, ha⟩ := hl c List.mem_cons_self
    rcases ascii_alphanumeric_cases hc ha with
      ⟨hn, hlo, hup⟩ | ⟨hn, hlo, hup, -⟩ | ⟨hn, hlo, hup, -⟩
    · rw [pascalScan, if_pos hn, ih hl.tail, List.isChain_cons,
        List.takeWhile_cons_of_pos (by simp [hlo]), List.isChain_cons]
      simp [hlo, hn, hup, and_assoc]
    · rw [pascalScan, if_neg (by simp [hn]), if_pos hlo, Bool.and_eq_true,
        pascalScan_true_iff hl.tail, List.isChain_cons, List.takeWhile_cons_of_neg (by simp [hlo])]
      cases start <;> simp [hlo, hn, hup]
    · rw [pascalScan, if_neg (by simp [hn]), if_neg (by simp [hlo]), Bool.and_eq_true,
        ih hl.tail, List.isChain_cons, List.takeWhile_cons_of_pos (by simp [hlo]),
        List.isChain_cons, List.head?_takeWhile]
      -- the capital may open the word only if the next character is no capital; a lowercase
      -- next character is no capital either
      have hnext : (∀ y, rest.head? = some y → isLowercase y = false → isUppercase y = false) ↔
          ∀ y, rest.head? = some y → isUppercase y = false :=
        forall_congr' fun y => imp_congr_right fun hy =>
          ⟨fun h => (Bool.eq_false_or_eq_true (isLowercase y)).elim
            (hl.tail.upper_of_lower (List.mem_of_mem_head? hy)) h, fun h _ => h⟩
      cases start <;> simp [hlo, hn, hup, hnext, and_left_comm]

theorem pascalStable_iff_scan {l : List Char} (hl : AsciiWord l) :
    PascalStable l ↔ pascalScan true false l = true := by
  simp [pascalScan_false_iff hl, PascalStable]

theorem trimTail_of_alphanumeric {l : List Char} (h : ∀ c ∈ l, isAlphanumeric c = true) :
    trimTail l = l := by
  unfold trimTail
  rw [List.dropWhile_eq_self_iff.mpr, List.reverse_reverse]
  intro hpos
  rw [h _ (List.mem_reverse.mp (List.getElem_mem hpos))]
  decide

/-- Pascal casing leaves an ASCII word as it is exactly when the word is Pascal-stable. -/
theorem pascalCase_eq_self_iff {p : String} (hp : AsciiWord p.toList) :
    pascalCase p = p ↔ PascalStable p.toList := by
  rw [pascalStable_iff_scan hp, ← joinedFrom_pascal_eq_self_iff hp (.inl ⟨rfl, rfl⟩)]
  unfold pascalCase joined
  rw [trimTail_of_alphanumeric fun c hc => (hp c hc).2]
  constructor
  · intro h
    simpa using congrArg String.toList h
  · intro h
    rw [h, String.ofList_toList]

example : PascalStable "BlogPost".toList ∧ PascalStable "Httprequest".toList ∧
    ¬PascalStable "XY".toList ∧ ¬PascalStable "iPhone".toList := by decide +kernel

end CrudScaffold.Naming

namespace CrudScaffold

open Naming Text

theorem Except.eq_ok_of_toOption {ε α : Type} {e : Except ε α} {a : α}
    (h : e.toOption = some a) : e = .ok a := by
  cases e <;> simp_all [Except.toOption]

theorem splitWhere_of_forall {p : Char → Bool} {l : List Char} (h : ∀ c ∈ l, p c = false) :
    splitWhere p l = [l] := by
  induction l with
  | nil => rfl
  | cons c rest ih =>
    rw [splitWhere, if_neg (by simp [h c List.mem_cons_self]),
      ih fun x hx => h x (List.mem_cons_of_mem c hx)]

/-- A name of ASCII letters and numbers is one segment: it names the model by its Pascal
form, in no sub-namespace. -/
theorem parseModelPath_of_asciiWord {m model : String} {sub : List String}
    (hm : AsciiWord m.toList) (h : parseModelPath m = .ok (model, sub)) :
    model = pascalCase m ∧ sub = [] := by
  have hsep : ∀ c ∈ m.toList, (c = '/' || c = '\\') = false := by
    intro c hc
    have hword := (hm c hc).2
    have : c ≠ '/' ∧ c ≠ '\\' := ⟨fun e => absurd (e ▸ hword) (by decide),
      fun e => absurd (e ▸ hword) (by decide)⟩
    simp [this.1, this.2]
  have hblank : ∀ c ∈ m.toList, isWhiteSpace c = false := fun c hc =>
    ascii_of_forall_lt (p := fun c => isAlphanumeric c = true → isWhiteSpace c = false)
      (by decide +kernel) (hm c hc).1 (hm c hc).2
  have htrim : trim m = m := trim_of_trimmed
    ⟨fun c hc => hblank c (List.mem_of_mem_head? hc),
      fun c hc => hblank c (List.mem_of_mem_getLast? hc)⟩
  unfold parseModelPath at h
  simp only [splitWhere_of_forall hsep, List.map_cons, List.map_nil, String.ofList_toList,
    htrim] at h
  by_cases he : m.isEmpty
  · simp [he] at h
  · simp only [he, Bool.not_false, List.filter_cons_of_pos, List.filter_nil, List.map_cons,
      List.map_nil, List.getLast?_singleton] at h
    split at h
    · split at h
      · simp only [Except.ok.injEq, Prod.mk.injEq] at h
        exact ⟨h.1.symm, by simp [← h.2]⟩
      · cases h
    · cases h

end CrudScaffold

namespace CrudScaffold

open Naming Text

/-- A pivot table does not depend on which side of the pair names it: its two names are
sorted. -/
theorem pivotPair_comm (first second : String) :
    pivotPair first second = pivotPair second first := by
  unfold pivotPair
  dsimp only
  rcases lt_trichotomy (snakeCase first) (snakeCase second) with h | h | h
  · rw [if_neg (lt_asymm h), if_pos h]
  · rw [h, if_neg (lt_irrefl _)]
  · rw [if_pos h, if_neg (lt_asymm h)]

/-- A built request's model keeps its class among its own names exactly when its model
name is Pascal-stable. -/
theorem ofModel_model_eq_iff_pascalStable {b : RequestBuilder} {c : Config} {r : Request}
    (hb : b.build c = .ok r) (hascii : ∀ x ∈ r.modelName.toList, x.toNat < 128) :
    (NameSet.ofModel r.modelName).model = r.modelName ↔ PascalStable r.modelName.toList :=
  pascalCase_eq_self_iff fun x hx => ⟨hascii x hx, (RequestBuilder.isWord_of_build hb).1 x hx⟩

theorem blog_post_keeps_its_class :
    (NameSet.ofModel "BlogPost").model = "BlogPost" ↔ PascalStable "BlogPost".toList := by
  have hpath : parseModelPath "blog_post" = .ok ("BlogPost", []) :=
    Except.eq_ok_of_toOption (by decide +kernel)
  exact ofModel_model_eq_iff_pascalStable (b := { name := "blog_post" }) (c := {})
    (r := { modelName := "BlogPost", modelNamespace := "App\\Models", subNamespace := [],
            fields := [], relations := [], forceOverwrite := false, apiOnly := false,
            switches := default })
    (by simp only [RequestBuilder.build, hpath]; rfl)
    fun x hx => ((by decide +kernel : AsciiWord "BlogPost".toList) x hx).1

/-- The name `x_y` is built into the model `XY`, whose own names are those of `Xy`. -/
theorem x_y_model_names_another_class :
    ((RequestBuilder.build { name := "x_y" } {}).toOption.map (·.modelName)) = some "XY" ∧
      (NameSet.ofModel "XY").model = "Xy" := by
  decide +kernel

/-- How the relations of other models refer to a model written `target`: by its class, by
the table a foreign key to it is constrained to, and by the name of that foreign key. -/
structure RefersTo (target : String) (names : NameSet) : Prop where
  modelClass : ∀ rel : Relation, rel.target = target → rel.modelClass = names.model
  table : tableName target = names.table
  foreignKey : foreignKeyFor target = names.snake ++ "_id"

/-- A Pascal-stable ASCII name is built into itself as the model name. -/
theorem RequestBuilder.modelName_of_pascalStable {m : String} {c : Config} {r : Request}
    (hm : AsciiWord m.toList) (hs : PascalStable m.toList)
    (hb : ({ name := m } : RequestBuilder).build c = .ok r) : r.modelName = m := by
  unfold RequestBuilder.build at hb
  split at hb
  · cases hb
  · rename_i model sub hparse
    cases hb
    exact (parseModelPath_of_asciiWord hm hparse).1.trans ((pascalCase_eq_self_iff hm).mpr hs)

/-- The relations of other models refer to a model written as its Pascal-stable name by its
own class, table and foreign key. -/
theorem refersTo_of_pascalStable {m : String} {c : Config} {r : Request}
    (hm : AsciiWord m.toList) (hs : PascalStable m.toList)
    (hb : ({ name := m } : RequestBuilder).build c = .ok r) :
    RefersTo m (NameSet.ofModel r.modelName) := by
  have hpascal : pascalCase m = m := (pascalCase_eq_self_iff hm).mpr hs
  rw [RequestBuilder.modelName_of_pascalStable hm hs hb]
  -- the names are read off the literal first: matching them as they stand would unfold the
  -- plural's tables
  refine ⟨fun rel hrel => ?_, ?_, ?_⟩ <;>
    dsimp only [NameSet.ofModel, Relation.modelClass, foreignKeyFor]
  · rw [hrel]
  · rw [hpascal]
  · rw [hpascal]

/-- Two models with Pascal-stable ASCII names agree on each other: references to the second
use its own names, and the pivot table of the pair, with its key columns, is the same from
either side. -/
theorem references_agree_of_pascalStable {a b : String} {c : Config} {ra rb : Request}
    (ha : AsciiWord a.toList) (hsa : PascalStable a.toList)
    (hba : ({ name := a } : RequestBuilder).build c = .ok ra)
    (hb : AsciiWord b.toList) (hsb : PascalStable b.toList)
    (hbb : ({ name := b } : RequestBuilder).build c = .ok rb) :
    RefersTo b (NameSet.ofModel rb.modelName) ∧
      pivotPair (NameSet.ofModel ra.modelName).model b =
        pivotPair (NameSet.ofModel rb.modelName).model a := by
  refine ⟨refersTo_of_pascalStable hb hsb hbb, ?_⟩
  have hmodel : ∀ {m : String} {r : Request}, AsciiWord m.toList → PascalStable m.toList →
      ({ name := m } : RequestBuilder).build c = .ok r → (NameSet.ofModel r.modelName).model = m :=
    fun hm hs hr => by
      rw [RequestBuilder.modelName_of_pascalStable hm hs hr]
      exact (pascalCase_eq_self_iff hm).mpr hs
  rw [hmodel ha hsa hba, hmodel hb hsb hbb]
  exact pivotPair_comm a b

theorem post_and_tag_agree :
    RefersTo "Tag" (NameSet.ofModel "Tag") ∧
      pivotPair (NameSet.ofModel "Post").model "Tag" =
        pivotPair (NameSet.ofModel "Tag").model "Post" := by
  have hpost : parseModelPath "Post" = .ok ("Post", []) :=
    Except.eq_ok_of_toOption (by decide +kernel)
  have htag : parseModelPath "Tag" = .ok ("Tag", []) :=
    Except.eq_ok_of_toOption (by decide +kernel)
  exact @references_agree_of_pascalStable "Post" "Tag" {}
    { modelName := "Post", modelNamespace := "App\\Models", subNamespace := [], fields := [],
      relations := [], forceOverwrite := false, apiOnly := false, switches := default }
    { modelName := "Tag", modelNamespace := "App\\Models", subNamespace := [], fields := [],
      relations := [], forceOverwrite := false, apiOnly := false, switches := default }
    (by decide +kernel) (by decide +kernel) (by simp only [RequestBuilder.build, hpost]; rfl)
    (by decide +kernel) (by decide +kernel) (by simp only [RequestBuilder.build, htag]; rfl)

/-- A relation to `HTTPRequest` names the table `http_requests` and, with `Tag`, the pivot
`http_request_tag`, while the model built from that name has the table `httprequests` and
the pivot `httprequest_tag`. -/
theorem acronym_target_names_other_tables :
    ((RequestBuilder.build { name := "HTTPRequest" } {}).toOption.map
        fun r => (NameSet.ofModel r.modelName).table) = some "httprequests" ∧
      tableName "HTTPRequest" = "http_requests" ∧
      pivotTableName (NameSet.ofModel "Httprequest").model "Tag" = "httprequest_tag" ∧
      pivotTableName (NameSet.ofModel "Tag").model "HTTPRequest" = "http_request_tag" := by
  decide +kernel

end CrudScaffold
