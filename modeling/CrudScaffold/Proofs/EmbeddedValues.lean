import Mathlib
import CrudScaffold.Proofs.Text
import CrudScaffold.Schema.Validation
import CrudScaffold.Schema.Column

/-! Values written into generated code, and reading them back. A field's enum values and
default values reach three writers that join or quote them as they are: the rule string of a
form request joins the rules with `|` and the values of an `in:` rule with `,`, and the column
line of a migration and `quotedList` put each value between single quotes. Nothing is escaped,
so a value reads back only when it holds nothing its writer treats as syntax: no `|` in a rule
string, no `,` among the values of an `in:` rule, and between single quotes no quote, no two
backslashes in a row and no backslash at the end (PHP reads `\\` as one backslash and `\'` as
a quote).

Main statement: `embedded_values_read_back`. -/

namespace CrudScaffold

open Text

/-! ### Single-quoted literals of PHP -/

/-- Whether a text reads back as written between single quotes in PHP: it holds no quote, and
each backslash in it is followed by a character other than a backslash. -/
def readsAsWritten : List Char → Bool
  | [] => true
  | c :: rest => c != '\'' && (c != '\\' || rest.head?.any (· != '\\')) && readsAsWritten rest

/-- Where a reader of PHP text stands: in code, inside a single-quoted literal holding what it
read of it (reversed), or inside one right after a backslash. -/
inductive QuoteState where
  | code
  | literal (read : List Char)
  | escape (read : List Char)

/-- The characters read of the literal the reader is in, the pending backslash included. -/
def QuoteState.pending : QuoteState → Nat
  | .code => 0
  | .literal read => read.length
  | .escape read => read.length + 1

/-- The single-quoted literals of PHP text, in order and decoded, the code between them passed
over. Inside a literal `\\` stands for a backslash, `\'` for a quote and any other backslash
for itself, and a quote ends the literal; a literal left open gives `none`. -/
def literalsFrom : QuoteState → List Char → Option (List (List Char))
  | .code, [] => some []
  | .literal _, [] => none
  | .escape _, [] => none
  | .code, c :: rest =>
    if c = '\'' then literalsFrom (.literal []) rest else literalsFrom .code rest
  | .literal read, c :: rest =>
    if c = '\'' then (literalsFrom .code rest).map (read.reverse :: ·)
    else if c = '\\' then literalsFrom (.escape read) rest
    else literalsFrom (.literal (c :: read)) rest
  | .escape read, c :: rest =>
    if c = '\\' ∨ c = '\'' then literalsFrom (.literal (c :: read)) rest
    else literalsFrom (.literal (c :: '\\' :: read)) rest

/-- The single-quoted literals of a PHP text, decoded. -/
def phpLiterals (s : String) : Option (List String) :=
  (literalsFrom .code s.toList).map (·.map String.ofList)

/-- Code without a quote is passed over. -/
theorem literalsFrom_code {a : List Char} (ha : '\'' ∉ a) (rest : List Char) :
    literalsFrom .code (a ++ rest) = literalsFrom .code rest := by
  induction a with
  | nil => rfl
  | cons c a ih =>
    have hc : c ≠ '\'' := fun h => ha (h ▸ List.mem_cons_self)
    rw [List.cons_append, literalsFrom, if_neg hc, ih (fun h => ha (List.mem_cons_of_mem c h))]

/-- A value that reads as written, then the closing quote, end the literal with the value; so
does a value after a backslash when the two read as written. -/
theorem literalsFrom_value_escape :
    ∀ v : List Char,
      (∀ read rest, readsAsWritten v = true → literalsFrom (.literal read) (v ++ '\'' :: rest) =
        (literalsFrom .code rest).map ((read.reverse ++ v) :: ·)) ∧
      (∀ read rest, readsAsWritten ('\\' :: v) = true →
        literalsFrom (.escape read) (v ++ '\'' :: rest) =
          (literalsFrom .code rest).map ((read.reverse ++ '\\' :: v) :: ·))
  | [] =>
    ⟨fun read rest _ => by simp [literalsFrom], fun _ _ h => by simp [readsAsWritten] at h⟩
  | c :: w => by
    obtain ⟨ihl, ihe⟩ := literalsFrom_value_escape w
    refine ⟨fun read rest hv => ?_, fun read rest hv => ?_⟩
    · have hq : c ≠ '\'' := by simp_all [readsAsWritten]
      rw [List.cons_append, literalsFrom, if_neg hq]
      by_cases hb : c = '\\'
      · -- the backslash and what follows it are read in the escape state
        subst hb
        rw [if_pos rfl, ihe read rest hv]
      · have hw : readsAsWritten w = true := by simp_all [readsAsWritten]
        rw [if_neg hb, ihl (c :: read) rest hw]
        simp
    · -- after a backslash comes a character that is neither a backslash nor a quote
      simp only [readsAsWritten, Bool.and_eq_true, bne_iff_ne, ne_eq] at hv
      obtain ⟨⟨-, hd⟩, ⟨hcq, -⟩, hw⟩ := hv
      have hcb : c ≠ '\\' := by simpa using hd
      rw [List.cons_append, literalsFrom, if_neg (by simp [hcb, hcq]), ihl _ rest hw]
      simp

theorem literalsFrom_value {v : List Char} (hv : readsAsWritten v = true) (read rest : List Char) :
    literalsFrom (.literal read) (v ++ '\'' :: rest) =
      (literalsFrom .code rest).map ((read.reverse ++ v) :: ·) :=
  (literalsFrom_value_escape v).1 read rest hv

/-- A value between quotes is read as the value. -/
theorem literalsFrom_quoted {v : List Char} (hv : readsAsWritten v = true) (rest : List Char) :
    literalsFrom .code ('\'' :: (v ++ '\'' :: rest)) = (literalsFrom .code rest).map (v :: ·) := by
  rw [literalsFrom, if_pos rfl, literalsFrom_value hv]
  rfl

/-- The first literal read has fewer characters than those read of it so far and the text
still to read together. -/
theorem length_lt_of_literalsFrom {q : QuoteState} {s x : List Char} {xs : List (List Char)}
    (h : literalsFrom q s = some (x :: xs)) : x.length < q.pending + s.length := by
  fun_induction literalsFrom q s generalizing x xs with
  | case1 | case2 | case3 => cases h
  | case4 rest ih | case5 c rest hc ih | case7 read rest hne ih | case8 read c rest hq hb ih
  | case9 read c rest hs ih | case10 read c rest hs ih =>
    have := ih h
    simp only [QuoteState.pending, List.length_cons, List.length_nil] at this ⊢
    omega
  | case6 read rest ih =>
    -- the closing quote gives the literal read so far
    obtain ⟨ys, -, hys⟩ := Option.map_eq_some_iff.mp h
    obtain ⟨rfl, -⟩ := List.cons.inj hys
    simp [QuoteState.pending]

/-- A literal that reads back as its whole value with nothing after it holds a value that
reads as written; so does one read from a backslash on. -/
theorem readsAsWritten_of_literalsFrom_escape :
    ∀ v : List Char,
      (∀ read, literalsFrom (.literal read) (v ++ ['\'']) = some [read.reverse ++ v] →
        readsAsWritten v = true) ∧
      (∀ read, literalsFrom (.escape read) (v ++ ['\'']) = some [read.reverse ++ '\\' :: v] →
        readsAsWritten ('\\' :: v) = true)
  | [] => ⟨fun _ _ => rfl, fun _ h => by simp [literalsFrom] at h⟩
  | c :: w => by
    obtain ⟨ihl, ihe⟩ := readsAsWritten_of_literalsFrom_escape w
    refine ⟨fun read h => ?_, fun read h => ?_⟩
    · rw [List.cons_append, literalsFrom] at h
      by_cases hq : c = '\''
      · -- the literal would end at the quote, short of the value
        rw [if_pos hq] at h
        obtain ⟨ys, -, hys⟩ := Option.map_eq_some_iff.mp h
        have := congrArg List.length (List.cons.inj hys).1
        simp at this
      rw [if_neg hq] at h
      by_cases hb : c = '\\'
      · subst hb
        rw [if_pos rfl] at h
        exact ihe read h
      · rw [if_neg hb] at h
        have hw := ihl (c :: read) (by simpa using h)
        simp [readsAsWritten, hq, hb, hw]
    · rw [List.cons_append, literalsFrom] at h
      by_cases hs : c = '\\' ∨ c = '\''
      · -- an escape reads two characters as one, so the value cannot come back whole
        rw [if_pos hs] at h
        have := length_lt_of_literalsFrom h
        simp [QuoteState.pending] at this
        omega
      · rw [if_neg hs] at h
        have hw := ihl (c :: '\\' :: read) (by simpa using h)
        simp only [not_or] at hs
        simp [readsAsWritten, hs.1, hs.2, hw]

/-- A value between single quotes reads back as the value exactly when it reads as
written. -/
theorem phpLiterals_quoted_iff (v : String) :
    phpLiterals ("'" ++ v ++ "'") = some [v] ↔ readsAsWritten v.toList = true := by
  have htext : ("'" ++ v ++ "'").toList = '\'' :: (v.toList ++ ['\'']) := by simp
  constructor
  · intro h
    rw [phpLiterals, htext, literalsFrom, if_pos rfl] at h
    obtain ⟨ls, hls, heq⟩ := Option.map_eq_some_iff.mp h
    obtain ⟨x, rfl, hx⟩ : ∃ x, ls = [x] ∧ String.ofList x = v := by
      rcases ls with _ | ⟨x, _ | ⟨y, ys⟩⟩ <;> simp_all
    exact (readsAsWritten_of_literalsFrom_escape _).1 [] (by simpa [← hx] using hls)
  · intro hv
    rw [phpLiterals, htext, literalsFrom_quoted hv]
    simp [literalsFrom]

/-! ### Quoted lists and column lines -/

/-- Values that read as written, quoted and joined by `, `, are read back in order. -/
theorem literalsFrom_quotedList {vs : List String}
    (h : ∀ v ∈ vs, readsAsWritten v.toList = true) (rest : List Char) :
    literalsFrom .code ((quotedList vs).toList ++ rest) =
      (literalsFrom .code rest).map (vs.map String.toList ++ ·) := by
  induction vs with
  | nil => simp [quotedList]
  | cons v more ih =>
    have hv := h v List.mem_cons_self
    have hmore := ih fun w hw => h w (List.mem_cons_of_mem v hw)
    cases more with
    | nil =>
      have : (quotedList [v]).toList ++ rest = '\'' :: (v.toList ++ '\'' :: rest) := by
        simp [quotedList]
      rw [this, literalsFrom_quoted hv]
      simp
    | cons w more =>
      have : (quotedList (v :: w :: more)).toList ++ rest =
          '\'' :: (v.toList ++
            '\'' :: (", ".toList ++ ((quotedList (w :: more)).toList ++ rest))) := by
        simp [quotedList, String.intercalate_cons_cons]
      rw [this, literalsFrom_quoted hv, literalsFrom_code (by decide), hmore]
      simp [Option.map_map, Function.comp_def]

/-- The value of a `default` call. -/
def ColumnModifier.defaultValue? : ColumnModifier → Option String
  | .default v => some v
  | _ => none

/-- The value of a `default` modifier. -/
def Modifier.defaultValue? : Modifier → Option String
  | .default v => some v
  | _ => none

theorem Modifier.defaultValue?_toColumn (m : Modifier) :
    (m.toColumn?).bind ColumnModifier.defaultValue? = m.defaultValue? := by
  cases m <;> rfl

/-- The calls after a column hold the default values between quotes and nothing else
quoted. -/
theorem literalsFrom_modifiers {ms : List ColumnModifier}
    (h : ∀ v ∈ ms.filterMap ColumnModifier.defaultValue?, readsAsWritten v.toList = true)
    (rest : List Char) :
    literalsFrom .code ((String.join (ms.map ColumnModifier.render)).toList ++ rest) =
      (literalsFrom .code rest).map
        ((ms.filterMap ColumnModifier.defaultValue?).map String.toList ++ ·) := by
  induction ms with
  | nil => simp
  | cons m ms ih =>
    cases m with
    | default v =>
      have hv := h v (by simp [ColumnModifier.defaultValue?])
      have hms := ih fun w hw => h w (by simp [ColumnModifier.defaultValue?, hw])
      have : (String.join ((ColumnModifier.default v :: ms).map ColumnModifier.render)).toList ++
          rest = "->default(".toList ++ '\'' :: (v.toList ++ '\'' ::
            (")".toList ++ ((String.join (ms.map ColumnModifier.render)).toList ++ rest))) := by
        simp [ColumnModifier.render]
      rw [this, literalsFrom_code (by decide), literalsFrom_quoted hv,
        literalsFrom_code (by decide), hms]
      simp [ColumnModifier.defaultValue?, Option.map_map, Function.comp_def]
    | _ =>
      have hms := ih fun w hw => h w (by simpa [ColumnModifier.defaultValue?] using hw)
      rw [List.map_cons, String.join_cons, String.toList_append, List.append_assoc,
        literalsFrom_code (by decide), hms]
      rfl

/-- Values that read as written, quoted and joined by `, `, read back as the list. -/
theorem phpLiterals_quotedList {vs : List String}
    (h : ∀ v ∈ vs, readsAsWritten v.toList = true) : phpLiterals (quotedList vs) = some vs := by
  have hread := literalsFrom_quotedList h []
  rw [List.append_nil] at hread
  simp [phpLiterals, hread, literalsFrom, Function.comp_def]

theorem not_mem_toDigits_of_not_isDigit {c : Char} (hc : c.isDigit = false) (n : Nat) :
    c ∉ Nat.toDigits 10 n := fun h => by
  simp [Nat.isDigit_of_mem_toDigits (by decide) (by decide) h] at hc

theorem quote_not_mem_columnKind (t : FieldType) : '\'' ∉ t.columnKind.toList := by
  cases t <;> simp [FieldType.columnKind]

/-- The values a column line writes between single quotes: the column's name, its values when
it is an enum column, and the values of its `default` calls. -/
def ColumnSpec.quotedValues (c : ColumnSpec) : List String :=
  c.name :: ((if c.kind = "enum" then c.enumValues else []) ++
    c.modifiers.filterMap ColumnModifier.defaultValue?)

/-- A column line with its precision, written in digits, as a text without quotes. -/
theorem ColumnSpec.render_eq (c : ColumnSpec) : ∃ prec : String, '\'' ∉ prec.toList ∧
    c.render = "$table->" ++ c.kind ++ "('" ++ c.name ++ "'" ++ prec ++
      (if c.kind = "enum" then ", [" ++ quotedList c.enumValues ++ "]" else "") ++ ")" ++
      String.join (c.modifiers.map ColumnModifier.render) ++ ";" := by
  rcases hp : c.precision with _ | ⟨p, s⟩
  · exact ⟨"", by simp, by unfold ColumnSpec.render; simp [hp]⟩
  · refine ⟨", " ++ toString p ++ ", " ++ toString s, ?_, by unfold ColumnSpec.render; simp [hp]⟩
    simp [not_mem_toDigits_of_not_isDigit]

/-- The list of an enum column holds its values between quotes; other columns have none. -/
theorem literalsFrom_enumList (c : ColumnSpec)
    (h : c.kind = "enum" → ∀ v ∈ c.enumValues, readsAsWritten v.toList = true)
    (rest : List Char) :
    literalsFrom .code
      ((if c.kind = "enum" then ", [" ++ quotedList c.enumValues ++ "]" else "").toList ++ rest) =
        (literalsFrom .code rest).map
          ((if c.kind = "enum" then c.enumValues else []).map String.toList ++ ·) := by
  split
  · rename_i hkind
    simp only [String.toList_append, List.append_assoc]
    rw [literalsFrom_code (by decide), literalsFrom_quotedList (h hkind),
      literalsFrom_code (by decide)]
  · simp

/-- A column line whose quoted values read as written gives them back, in order. -/
theorem phpLiterals_render {c : ColumnSpec} (hk : '\'' ∉ c.kind.toList)
    (h : ∀ v ∈ c.quotedValues, readsAsWritten v.toList = true) :
    phpLiterals c.render = some c.quotedValues := by
  have hname := h c.name List.mem_cons_self
  have hvalues : c.kind = "enum" → ∀ v ∈ c.enumValues, readsAsWritten v.toList = true :=
    fun hkind v hv => h v (by simp [ColumnSpec.quotedValues, hkind, hv])
  have hdefaults : ∀ v ∈ c.modifiers.filterMap ColumnModifier.defaultValue?,
      readsAsWritten v.toList = true :=
    fun v hv => h v (by simp only [ColumnSpec.quotedValues, List.mem_cons, List.mem_append]; tauto)
  obtain ⟨prec, hprec, hrender⟩ := c.render_eq
  -- the line cut where its quoted parts start and end
  have htext : c.render.toList = ("$table->" ++ c.kind ++ "(").toList ++ '\'' ::
      (c.name.toList ++ '\'' :: (prec.toList ++
        ((if c.kind = "enum" then ", [" ++ quotedList c.enumValues ++ "]" else "").toList ++
          (")".toList ++ ((String.join (c.modifiers.map ColumnModifier.render)).toList ++
            ";".toList))))) := by
    rw [hrender]
    simp
  rw [phpLiterals, htext, literalsFrom_code (by simp [hk]), literalsFrom_quoted hname,
    literalsFrom_code hprec, literalsFrom_enumList c hvalues, literalsFrom_code (by decide),
    literalsFrom_modifiers hdefaults]
  simp [literalsFrom, ColumnSpec.quotedValues, Function.comp_def]

/-- The values a field's column line quotes: its name, its effective values when it is an
enum field, and the values of its `default` modifiers. -/
def Field.quotedValues (f : Field) : List String :=
  f.name :: ((if f.type = .enum then f.effectiveEnumValues else []) ++
    f.modifiers.filterMap Modifier.defaultValue?)

theorem storageColumn_quotedValues (f : Field) :
    (storageColumn f).quotedValues = f.quotedValues := by
  have hkind : f.type.columnKind = "enum" ↔ f.type = .enum := by
    cases f.type <;> simp [FieldType.columnKind]
  simp only [ColumnSpec.quotedValues, storageColumn, hkind, List.filterMap_filterMap,
    Modifier.defaultValue?_toColumn, Field.quotedValues]
  split_ifs <;> rfl

/-! ### Rule strings -/

theorem mem_intercalate_of_not_mem {α : Type} {a : α} {sep : List α} (ha : a ∉ sep) :
    ∀ {ls : List (List α)}, a ∈ sep.intercalate ls ↔ ∃ l ∈ ls, a ∈ l
  | [] => by simp
  | [l] => by simp
  | l :: m :: ls => by
    rw [List.intercalate_cons_cons, List.mem_append, List.mem_append,
      mem_intercalate_of_not_mem ha]
    simp [ha]

/-- The rules that check a field's type write a `|` only inside the values of an enum
field. -/
theorem pipe_mem_typeRules {f : Field} {table : String} :
    (∃ r ∈ typeRules f, '|' ∈ (r.render table).toList) ↔
      f.type = .enum ∧ ∃ v ∈ f.effectiveEnumValues, '|' ∈ v.toList := by
  unfold typeRules
  split <;>
    simp [ValidationRule.render, mem_intercalate_of_not_mem, not_mem_toDigits_of_not_isDigit, *]

/-- Besides the rules of its type, a field has only a presence rule and the rules for unique,
e-mail and URL values. -/
theorem exists_mem_validationRules {P : ValidationRule → Prop} (f : Field) (isUpdate : Bool)
    (hP : ∀ r ∈ [.nullable, .sometimes, .required, .unique, .email, .url], ¬P r) :
    (∃ r ∈ validationRules f isUpdate, P r) ↔ ∃ r ∈ typeRules f, P r := by
  rw [validationRules]
  generalize typeRules f = ts
  simp only [List.forall_mem_cons, List.not_mem_nil, IsEmpty.forall_iff, implies_true,
    and_true] at hP
  split_ifs <;> simp [hP, or_and_right, exists_or]

/-- The other rules write fixed words and the table. -/
theorem pipe_mem_validationRules {table : String} (ht : '|' ∉ table.toList) (f : Field)
    (isUpdate : Bool) :
    (∃ r ∈ validationRules f isUpdate, '|' ∈ (r.render table).toList) ↔
      f.type = .enum ∧ ∃ v ∈ f.effectiveEnumValues, '|' ∈ v.toList := by
  rw [exists_mem_validationRules f isUpdate (by simp [ValidationRule.render, ht]),
    pipe_mem_typeRules]

theorem inList_mem_typeRules {f : Field} {vs : List String} :
    .inList vs ∈ typeRules f ↔ f.type = .enum ∧ vs = f.effectiveEnumValues := by
  unfold typeRules
  split <;> simp [*, eq_comm]

/-- A field has an `in:` rule exactly when it is an enum field, for its effective values. -/
theorem inList_mem_validationRules {f : Field} {isUpdate : Bool} {vs : List String} :
    .inList vs ∈ validationRules f isUpdate ↔
      f.type = .enum ∧ vs = f.effectiveEnumValues := by
  have h := exists_mem_validationRules (P := (· = ValidationRule.inList vs)) f isUpdate (by simp)
  simp only [exists_eq_right] at h
  rw [h, inList_mem_typeRules]

theorem Field.effectiveEnumValues_ne_nil (f : Field) : f.effectiveEnumValues ≠ [] := by
  unfold Field.effectiveEnumValues
  split
  · simp [fallbackEnumValues]
  · rename_i hne
    simpa using hne

/-! ### Reading the values back -/

/-- What the generated code gives back of a field's values. The rule string of its form request
splits at `|` into its rules unless one of its enum values holds a `|`; the values of
its `in:` rule split at `,` into its effective values unless one of them holds a
`,`; and its column line reads back as the values it quotes when each reads as written. -/
structure ValuesReadBack (f : Field) (isUpdate : Bool) (table : String) : Prop where
  rules : split (ruleString (validationRules f isUpdate) table) '|' =
      (validationRules f isUpdate).map (ValidationRule.render table) ↔
    (f.type = .enum → ∀ v ∈ f.effectiveEnumValues, '|' ∉ v.toList)
  inValues : ∀ vs, .inList vs ∈ validationRules f isUpdate →
    (split (",".intercalate vs) ',' = f.effectiveEnumValues ↔
      ∀ v ∈ f.effectiveEnumValues, ',' ∉ v.toList)
  columnLine : (∀ v ∈ f.quotedValues, readsAsWritten v.toList = true) →
    phpLiterals (storageColumn f).render = some f.quotedValues

/-- Values written into generated code read back when they hold none of the syntax of their
writer: a field's rules and `in:` values as `ValuesReadBack` says, for a table without
`|`, and a quoted value exactly when it reads as written. -/
theorem embedded_values_read_back (f : Field) (isUpdate : Bool) {table : String}
    (ht : '|' ∉ table.toList) :
    ValuesReadBack f isUpdate table ∧
      (∀ v, phpLiterals (quotedList [v]) = some [v] ↔ readsAsWritten v.toList = true) ∧
      ∀ vs, (∀ v ∈ vs, readsAsWritten v.toList = true) →
        phpLiterals (quotedList vs) = some vs := by
  refine ⟨⟨?_, fun vs hvs => ?_, fun h => ?_⟩, fun v => ?_, fun _ => phpLiterals_quotedList⟩
  · rw [ruleString, split_intercalate_iff (by simp) (by simp [validationRules]),
      List.forall_mem_map]
    simpa using not_congr (pipe_mem_validationRules ht f isUpdate)
  · obtain ⟨-, rfl⟩ := inList_mem_validationRules.mp hvs
    exact split_intercalate_iff (by simp) f.effectiveEnumValues_ne_nil
  · rw [← storageColumn_quotedValues] at h ⊢
    exact phpLiterals_render (quote_not_mem_columnKind f.type) h
  · rw [show quotedList [v] = "'" ++ v ++ "'" by simp [quotedList]]
    exact phpLiterals_quoted_iff v

/-- An enum field whose second value holds a `|`. -/
theorem status_values_read_back :
    '|' ∉ "posts".toList ∧
      ValuesReadBack ⟨"status", .enum, [], ["draft", "in|review"]⟩ false "posts" :=
  ⟨by decide, (embedded_values_read_back _ false (by decide)).1⟩

/-- A default value holding a quote ends its literal early: the column line leaves a literal
open and reads back as nothing. -/
theorem quoted_default_leaves_literal_open :
    ∃ f ∈ parseFields "x:string:default:it's", .default "it's" ∈ f.modifiers ∧
      phpLiterals (storageColumn f).render = none := by
  refine ⟨⟨"x", .string, [.default "it's"], []⟩, ?_, by decide, ?_⟩
  · decide +kernel
  · decide +kernel

end CrudScaffold
