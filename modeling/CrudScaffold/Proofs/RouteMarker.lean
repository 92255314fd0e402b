import Mathlib
import CrudScaffold.Proofs.RouteBlock
import CrudScaffold.Proofs.NameChars

/-! Where a route marker can stand in a registration block. A marker is the resource call,
a quote, a route prefix and a quote, and a route prefix holds letters, numbers and hyphens
only: the two quotes of a marker are two neighbouring quotes of the text, with the prefix
between them. Cut at its quotes, a text holds a marker where one piece ends with the call
and the next piece is the prefix.

In a block whose configured parts hold no quote, every other pair of neighbouring pieces
ends in something no writing before it turns into the call, or goes on with a character no
prefix has: the block holds the marker of its own prefix at one place, and no other
marker. -/

namespace CrudScaffold

open Naming Text

/-! ### Texts cut at their quotes -/

/-- Pieces joined by quotes. -/
def quoteJoin : List (List Char) → List Char
  | [] => []
  | [x] => x
  | x :: y :: rest => x ++ '\'' :: quoteJoin (y :: rest)

/-- In `t`, `pre` is followed by `call`, then `p` between quotes. -/
def MarkedAt (call p t pre : List Char) : Prop :=
  ∃ u, t = pre ++ call ++ '\'' :: (p ++ '\'' :: u)

/-- The characters of a route prefix: letters, numbers and hyphens. -/
def PrefixChars (l : List Char) : Prop := ∀ c ∈ l, isAlphanumeric c = true ∨ c = '-'

/-- Neither of `x` and `call` ends the other, so no text written before `x` ends with
`call`. -/
def EndsApart (call x : List Char) : Prop := ¬x <:+ call ∧ ¬call <:+ x

/-- Two neighbouring pieces that hold no marker: the first cannot end with the call, or the
second is no route prefix. -/
def Apart (call x y : List Char) : Prop := EndsApart call x ∨ ¬PrefixChars y

theorem EndsApart.append_left {call x : List Char} (h : EndsApart call x) (w : List Char) :
    EndsApart call (w ++ x) := by
  refine ⟨fun hs => h.1 ((List.suffix_append w x).trans hs), fun hs => ?_⟩
  rcases List.suffix_or_suffix_of_suffix hs (List.suffix_append w x) with h' | h'
  · exact h.2 h'
  · exact h.1 h'

theorem not_prefixChars_append {y : List Char} (h : ¬PrefixChars y) (z : List Char) :
    ¬PrefixChars (y ++ z) :=
  fun hz => h fun c hc => hz c (List.mem_append_left z hc)

theorem Apart.append_left {call x y : List Char} (h : Apart call x y) (w : List Char) :
    Apart call (w ++ x) y :=
  h.imp (·.append_left w) id

theorem Apart.append_right {call x y : List Char} (h : Apart call x y) (z : List Char) :
    Apart call x (y ++ z) :=
  h.imp id (not_prefixChars_append · z)

/-- Cut at the first of a character that neither side holds before it, two texts agree on
both sides. -/
theorem append_cons_inj_of_not_mem {α : Type} {a : α} :
    ∀ {x y u v : List α}, a ∉ x → a ∉ y → x ++ a :: u = y ++ a :: v → x = y ∧ u = v
  | [], [], _, _, _, _, h => ⟨rfl, (List.cons.inj h).2⟩
  | [], b :: _, _, _, _, hy, h => absurd ((List.cons.inj h).1 ▸ List.mem_cons_self) hy
  | b :: _, [], _, _, hx, _, h => absurd ((List.cons.inj h).1.symm ▸ List.mem_cons_self) hx
  | b :: x, c :: y, u, v, hx, hy, h => by
    simp only [List.cons_append, List.cons.injEq] at h
    obtain ⟨rfl, h'⟩ := h
    obtain ⟨rfl, rfl⟩ := append_cons_inj_of_not_mem (fun m => hx (List.mem_cons_of_mem b m))
      (fun m => hy (List.mem_cons_of_mem b m)) h'
    exact ⟨rfl, rfl⟩

/-- A marker in a text whose first quote closes `x` either starts at that quote, `x` then
ending with the call, or lies wholly after it. -/
theorem markedAt_cons_quote {call p x t pre : List Char} (hcall : call ≠ [])
    (hcq : '\'' ∉ call) (hx : '\'' ∉ x) (h : MarkedAt call p (x ++ '\'' :: t) pre) :
    (x = pre ++ call ∧ ∃ u, t = p ++ '\'' :: u) ∨
      ∃ pre', pre = x ++ '\'' :: pre' ∧ MarkedAt call p t pre' := by
  obtain ⟨u, hu⟩ := h
  rw [List.append_assoc] at hu
  rcases List.append_eq_append_iff.mp hu with ⟨a, rfl, ha⟩ | ⟨c, rfl, hc⟩
  · cases a with
    | nil =>
      -- the call would open with the quote
      obtain ⟨d, call', rfl⟩ := List.exists_cons_of_ne_nil hcall
      obtain ⟨rfl, -⟩ := List.cons.inj ha
      exact absurd List.mem_cons_self hcq
    | cons d a =>
      simp only [List.cons_append, List.cons.injEq] at ha
      obtain ⟨rfl, ht⟩ := ha
      exact .inr ⟨a, rfl, u, by rw [ht, List.append_assoc]⟩
  · -- the marker starts inside `x`, so its first quote is the one closing `x`
    have hc' : '\'' ∉ c := fun m => hx (List.mem_append_right pre m)
    obtain ⟨rfl, rfl⟩ := append_cons_inj_of_not_mem hcq hc' hc
    exact .inl ⟨rfl, u, rfl⟩

/-- The first piece of a quoted text that starts with `p` and a quote is `p`. -/
theorem head_of_quoteJoin {p y u : List Char} {rest : List (List Char)} (hp : '\'' ∉ p)
    (hy : '\'' ∉ y) (h : quoteJoin (y :: rest) = p ++ '\'' :: u) : y = p := by
  cases rest with
  | nil =>
    rw [quoteJoin] at h
    exact absurd (h ▸ List.mem_append_right p List.mem_cons_self) hy
  | cons z rest => exact (append_cons_inj_of_not_mem hy hp h).1

theorem quoteJoin_cons_of_ne_nil (x : List Char) {rest : List (List Char)} (h : rest ≠ []) :
    quoteJoin (x :: rest) = x ++ '\'' :: quoteJoin rest := by
  obtain ⟨y, rest, rfl⟩ := List.exists_cons_of_ne_nil h
  rfl

/-- A marker in quoted pieces: one piece ends with the call, the next is the prefix, and
the marker starts where the call does. -/
theorem markedAt_quoteJoin {call p : List Char} (hcall : call ≠ []) (hcq : '\'' ∉ call)
    (hpq : '\'' ∉ p) :
    ∀ {pieces : List (List Char)}, (∀ s ∈ pieces, '\'' ∉ s) → ∀ {pre : List Char},
      MarkedAt call p (quoteJoin pieces) pre →
      ∃ before x after, pieces = before ++ x :: p :: after ∧ call <:+ x ∧
        pre ++ call = quoteJoin (before ++ [x])
  | [], _, pre, ⟨u, hu⟩ => by simp [quoteJoin] at hu
  | [x], hq, pre, ⟨u, hu⟩ => by
    rw [quoteJoin] at hu
    exact absurd (hu ▸ by simp) (hq x List.mem_cons_self)
  | x :: y :: rest, hq, pre, h => by
    rw [quoteJoin] at h
    rcases markedAt_cons_quote hcall hcq (hq x List.mem_cons_self) h with
      ⟨rfl, u, hu⟩ | ⟨pre', rfl, h'⟩
    · -- the marker opens at the first quote: the next piece is the prefix
      have hy := head_of_quoteJoin hpq (hq y (by simp)) hu
      subst hy
      exact ⟨[], pre ++ call, rest, rfl, List.suffix_append _ _, rfl⟩
    · obtain ⟨before, x', after, hsplit, hx', hpre⟩ :=
        markedAt_quoteJoin hcall hcq hpq (fun s hs => hq s (List.mem_cons_of_mem x hs)) h'
      refine ⟨x :: before, x', after, by rw [hsplit, List.cons_append], hx', ?_⟩
      rw [List.cons_append, quoteJoin_cons_of_ne_nil x (by simp), ← hpre]
      simp

/-! ### Pieces that hold one marker -/

/-- Neighbours in a chain stand in its relation. -/
theorem IsChain.rel_of_mem_split {α : Type} {R : α → α → Prop} {a b : List α} {x y : α}
    (h : (a ++ x :: y :: b).IsChain R) : R x y :=
  (List.isChain_append.mp h).2.1.rel

/-- Pieces split into a part whose neighbours are apart, ending with the call, then the prefix
`q` and pieces whose neighbours are apart: a marker of any prefix there is the marker of `q`,
standing right after the first part. -/
theorem marker_split {call q x p : List Char} {L₁ L₂ before after : List (List Char)}
    (h₁ : L₁.IsChain (Apart call)) (h₂ : (q :: L₂).IsChain (Apart call))
    (hsplit : L₁ ++ q :: L₂ = before ++ x :: p :: after) (hx : call <:+ x)
    (hp : PrefixChars p) : before ++ [x] = L₁ ∧ p = q := by
  have hnot : ¬Apart call x p := by
    rintro (h | h)
    · exact h.2 hx
    · exact h hp
  rcases List.append_eq_append_iff.mp hsplit with ⟨a, rfl, ha⟩ | ⟨c, rfl, hc⟩
  · -- the pair lies in the second part
    cases a with
    | nil =>
      obtain ⟨rfl, rfl⟩ := List.cons.inj ha
      exact absurd h₂.rel hnot
    | cons d a =>
      simp only [List.cons_append, List.cons.injEq] at ha
      obtain ⟨rfl, rfl⟩ := ha
      rw [← List.cons_append] at h₂
      exact absurd (IsChain.rel_of_mem_split h₂) hnot
  · match c, hc with
    | [], hc =>
      simp only [List.nil_append, List.cons.injEq] at hc
      obtain ⟨rfl, rfl⟩ := hc
      exact absurd h₂.rel hnot
    | [d], hc =>
      simp only [List.cons_append, List.nil_append, List.cons.injEq] at hc
      obtain ⟨rfl, rfl, -⟩ := hc
      exact ⟨rfl, rfl⟩
    | d :: e :: c, hc =>
      -- the pair lies in the first part
      simp only [List.cons_append, List.cons.injEq] at hc
      obtain ⟨rfl, rfl, -⟩ := hc
      exact absurd (IsChain.rel_of_mem_split h₁) hnot

theorem quoteJoin_append {L₁ L₂ : List (List Char)} (h₁ : L₁ ≠ []) (h₂ : L₂ ≠ []) :
    quoteJoin (L₁ ++ L₂) = quoteJoin L₁ ++ '\'' :: quoteJoin L₂ := by
  induction L₁ with
  | nil => exact absurd rfl h₁
  | cons x rest ih =>
    cases rest with
    | nil => exact quoteJoin_cons_of_ne_nil x h₂
    | cons y rest =>
      rw [List.cons_append, quoteJoin_cons_of_ne_nil x (by simp), ih (by simp),
        quoteJoin_cons_of_ne_nil x (by simp)]
      simp

/-- In such pieces the marker of a prefix stands only after the first part, and only for
`q`. -/
theorem markedAt_split {call q p pre : List Char} {L₁ L₂ : List (List Char)}
    (hcall : call ≠ []) (hcq : '\'' ∉ call)
    (h₁ : L₁.IsChain (Apart call)) (h₂ : (q :: L₂).IsChain (Apart call))
    (hq : ∀ s ∈ L₁ ++ q :: L₂, '\'' ∉ s) (hp : PrefixChars p) (hpq : '\'' ∉ p)
    (h : MarkedAt call p (quoteJoin (L₁ ++ q :: L₂)) pre) :
    p = q ∧ pre ++ call = quoteJoin L₁ := by
  obtain ⟨before, x, after, hsplit, hx, hpre⟩ := markedAt_quoteJoin hcall hcq hpq hq h
  obtain ⟨hL₁, rfl⟩ := marker_split h₁ h₂ hsplit hx hp
  exact ⟨rfl, hL₁ ▸ hpre⟩

/-! ### Gluing texts cut at their quotes -/

/-- Pieces of two texts, the last piece of the first joined to the first of the second: the
pieces of the two texts written one after the other. -/
def glue : List (List Char) → List (List Char) → List (List Char)
  | [], ys => ys
  | [x], [] => [x]
  | [x], y :: ys => (x ++ y) :: ys
  | x :: x' :: xs, ys => x :: glue (x' :: xs) ys

theorem glue_cons_cons (x x' : List Char) (xs ys : List (List Char)) :
    glue (x :: x' :: xs) ys = x :: glue (x' :: xs) ys := rfl

/-- Glued onto a nonempty text, the first piece only grows. -/
theorem glue_cons_eq (x : List Char) (xs ys : List (List Char)) :
    ∃ w rest, glue (x :: xs) ys = (x ++ w) :: rest := by
  match xs, ys with
  | [], [] => exact ⟨[], [], by simp [glue]⟩
  | [], y :: ys => exact ⟨y, ys, rfl⟩
  | x' :: xs, ys => exact ⟨[], glue (x' :: xs) ys, by simp [glue]⟩

@[simp]
theorem quoteJoin_glue :
    ∀ xs ys : List (List Char), quoteJoin (glue xs ys) = quoteJoin xs ++ quoteJoin ys
  | [], ys => rfl
  | [x], [] => by simp [glue, quoteJoin]
  | [x], [y] => rfl
  | [x], y :: y' :: ys => by simp [glue, quoteJoin]
  | x :: x' :: xs, ys => by
    obtain ⟨w, rest, hg⟩ := glue_cons_eq x' xs ys
    rw [glue_cons_cons, quoteJoin_cons_of_ne_nil x (by simp [hg]), quoteJoin_glue (x' :: xs) ys,
      quoteJoin_cons_of_ne_nil x (by simp)]
    simp

theorem glue_ne_nil {xs : List (List Char)} (h : xs ≠ []) (ys : List (List Char)) :
    glue xs ys ≠ [] := by
  obtain ⟨x, xs, rfl⟩ := List.exists_cons_of_ne_nil h
  obtain ⟨w, rest, hg⟩ := glue_cons_eq x xs ys
  simp [hg]

theorem quoteFree_glue : ∀ {xs ys : List (List Char)}, (∀ s ∈ xs, '\'' ∉ s) →
    (∀ s ∈ ys, '\'' ∉ s) → ∀ s ∈ glue xs ys, '\'' ∉ s
  | [], _, _, hy => hy
  | [x], [], hx, _ => hx
  | [x], y :: ys, hx, hy => by
    simp only [glue, List.mem_cons, forall_eq_or_imp, List.mem_append, not_or] at hx hy ⊢
    exact ⟨⟨hx.1, hy.1⟩, hy.2⟩
  | x :: x' :: xs, ys, hx, hy => by
    rw [glue_cons_cons]
    rintro s (_ | ⟨_, hs⟩)
    · exact hx x List.mem_cons_self
    · exact quoteFree_glue (fun s hs => hx s (List.mem_cons_of_mem x hs)) hy s hs

/-- Glued pieces keep their neighbours apart. -/
theorem isChain_glue {call : List Char} : ∀ {xs ys : List (List Char)},
    xs.IsChain (Apart call) → ys.IsChain (Apart call) → (glue xs ys).IsChain (Apart call)
  | [], _, _, hy => hy
  | [x], [], hx, _ => hx
  | [x], [y], _, _ => .singleton _
  | [x], y :: z :: ys, _, hy => by
    rw [glue, List.isChain_cons_cons] at *
    exact ⟨hy.1.append_left x, hy.2⟩
  | x :: x' :: xs, ys, hx, hy => by
    rw [List.isChain_cons_cons] at hx
    obtain ⟨w, rest, hg⟩ := glue_cons_eq x' xs ys
    have htail := isChain_glue hx.2 hy
    rw [glue_cons_cons, hg] at *
    exact List.IsChain.cons_cons (hx.1.append_right w) htail

/-! ### Markers in texts made of blocks -/

/-- A marker in a text followed by a block that opens with a line break, which no marker
holds, lies in the text or in the block. -/
theorem markedAt_append {call p x b pre : List Char} (hcall : '\n' ∉ call) (hp : '\n' ∉ p)
    (hb : b.head? = some '\n') (h : MarkedAt call p (x ++ b) pre) :
    MarkedAt call p x pre ∨ ∃ pre', pre = x ++ pre' ∧ MarkedAt call p b pre' := by
  obtain ⟨u, hu⟩ := h
  have hm : '\n' ∉ call ++ '\'' :: (p ++ ['\'']) := by simp [hcall, hp]
  rw [show pre ++ call ++ '\'' :: (p ++ '\'' :: u) = pre ++ (call ++ '\'' :: (p ++ ['\''])) ++ u
    by simp] at hu
  rw [List.append_assoc] at hu
  rcases List.append_eq_append_iff.mp hu with ⟨a, rfl, ha⟩ | ⟨c, rfl, hc⟩
  · exact .inr ⟨a, rfl, u, by rw [ha]; simp⟩
  · rcases List.append_eq_append_iff.mp hc.symm with ⟨d, hd, rfl⟩ | ⟨a, rfl, -⟩
    · cases d with
      | nil =>
        rw [List.append_nil] at hd
        exact .inl ⟨[], by rw [← hd]; simp⟩
      | cons e d =>
        -- the marker would run on into the line break that opens the block
        rw [List.cons_append, List.head?_cons, Option.some.injEq] at hb
        subst hb
        exact absurd (hd ▸ List.mem_append_right c List.mem_cons_self) hm
    · exact .inl ⟨a, by simp⟩

/-- A marker in a text followed by blocks that each open with a line break lies in the text
or in one of the blocks. -/
theorem markedAt_flatten {α : Type} {f : α → List Char} {call p : List Char}
    (hcall : '\n' ∉ call) (hp : '\n' ∉ p) :
    ∀ {l : List α}, (∀ a ∈ l, (f a).head? = some '\n') → ∀ {x pre : List Char},
      MarkedAt call p (x ++ (l.map f).flatten) pre →
      MarkedAt call p x pre ∨ ∃ before a after pre', l = before ++ a :: after ∧
        pre = x ++ (before.map f).flatten ++ pre' ∧ MarkedAt call p (f a) pre'
  | [], _, x, pre, h => .inl (by simpa using h)
  | a :: l, hl, x, pre, h => by
    rw [List.map_cons, List.flatten_cons, ← List.append_assoc] at h
    rcases markedAt_flatten hcall hp (fun b hb => hl b (List.mem_cons_of_mem a hb)) h with
      h | ⟨before, b, after, pre', rfl, rfl, hb⟩
    · rcases markedAt_append hcall hp (hl a List.mem_cons_self) h with hx | ⟨pre', rfl, ha⟩
      · exact .inl hx
      · exact .inr ⟨[], a, l, pre', rfl, by simp, ha⟩
    · exact .inr ⟨a :: before, b, after, pre', rfl, by simp, hb⟩

/-- In a list whose images are distinct, an element with a given image stands at one
place. -/
theorem eq_of_nodup_map {α β : Type} {g : α → β} :
    ∀ {before before' after after' : List α} {a a' : α},
      ((before ++ a :: after).map g).Nodup → before ++ a :: after = before' ++ a' :: after' →
      g a = g a' → before = before'
  | [], [], _, _, _, _, _, _, _ => rfl
  | [], b :: before', after, after', a, a', hn, h, hg => by
    simp only [List.nil_append, List.cons_append, List.cons.injEq] at h
    obtain ⟨rfl, rfl⟩ := h
    simp only [List.nil_append, List.map_cons, List.nodup_cons, List.mem_map] at hn
    exact absurd ⟨a', by simp, hg.symm⟩ hn.1
  | b :: before, [], after, after', a, a', hn, h, hg => by
    simp only [List.nil_append, List.cons_append, List.cons.injEq] at h
    obtain ⟨rfl, rfl⟩ := h
    simp only [List.cons_append, List.map_cons, List.nodup_cons, List.mem_map] at hn
    exact absurd ⟨a, by simp, hg⟩ hn.1
  | b :: before, b' :: before', after, after', a, a', hn, h, hg => by
    simp only [List.cons_append, List.cons.injEq] at h
    obtain ⟨rfl, h⟩ := h
    rw [List.cons_append, List.map_cons, List.nodup_cons] at hn
    rw [eq_of_nodup_map hn.2 h hg]

/-! ### The pieces of a registration block -/

/-- The resource call a marker opens with. -/
def resourceCall (api : Bool) : List Char :=
  (if api then "Route::apiResource(" else "Route::resource(").toList

instance (call x : List Char) : Decidable (EndsApart call x) :=
  inferInstanceAs (Decidable (¬_ ∧ ¬_))

instance (l : List Char) : Decidable (PrefixChars l) :=
  decidable_of_iff (l.all fun c => isAlphanumeric c || c == '-') (by simp [PrefixChars])

theorem routeMarker_toList (api : Bool) (p : String) :
    (routeMarker api p).toList = resourceCall api ++ '\'' :: (p.toList ++ ['\'']) := by
  cases api <;> simp [routeMarker, resourceCall, singleQuoted]

/-- A text holds the marker of a prefix where the call stands before the prefix in quotes. -/
theorem routeMarker_infix_iff (api : Bool) (p : String) (t : List Char) :
    (routeMarker api p).toList <:+: t ↔ ∃ pre, MarkedAt (resourceCall api) p.toList t pre := by
  rw [routeMarker_toList]
  constructor
  · rintro ⟨pre, u, rfl⟩
    exact ⟨pre, u, by simp⟩
  · rintro ⟨pre, u, rfl⟩
    exact ⟨pre, u, by simp⟩

theorem PrefixChars.quote_not_mem {p : List Char} (h : PrefixChars p) : '\'' ∉ p := fun hq => by
  rcases h _ hq with h | h <;> revert h <;> decide

theorem resourceCall_ne_nil (api : Bool) : resourceCall api ≠ [] := by
  cases api <;> decide

theorem quote_not_mem_resourceCall (api : Bool) : '\'' ∉ resourceCall api := by
  cases api <;> decide

theorem intersperse_cons_ne_nil {α : Type} (sep x : α) (l : List α) :
    (x :: l).intersperse sep ≠ [] := by
  cases l <;> simp [List.intersperse_cons_cons]

/-- Pieces that start with the middleware call, end with its closing bracket, and hold the
quoted names between them. -/
theorem isChain_intersperse {call sep t : List Char} (hsep : EndsApart call sep)
    (hsep' : ¬PrefixChars sep) (ht : ¬PrefixChars t) :
    ∀ {h : List Char} {items : List (List Char)}, EndsApart call h → items ≠ [] →
      (h :: items.intersperse sep ++ [t]).IsChain (Apart call)
  | h, [a], hh, _ => by
    simp only [List.intersperse_singleton, List.cons_append, List.nil_append,
      List.isChain_cons_cons, List.isChain_singleton, and_true]
    exact ⟨.inl hh, .inr ht⟩
  | h, a :: b :: rest, hh, _ => by
    have ih := isChain_intersperse hsep hsep' ht hsep (List.cons_ne_nil b rest)
    rw [List.cons_append] at ih
    simp only [List.intersperse_cons_cons, List.cons_append, List.isChain_cons_cons]
    exact ⟨.inl hh, .inr hsep', ih⟩

/-- Names quoted and separated by commas, as a middleware list writes them. -/
theorem intercalate_singleQuoted : ∀ {items : List String}, items ≠ [] →
    (", ".intercalate (items.map singleQuoted)).toList =
      '\'' :: (quoteJoin ((items.map String.toList).intersperse ", ".toList) ++ ['\''])
  | [a], _ => by simp [singleQuoted, quoteJoin]
  | a :: b :: rest, _ => by
    have ih := intercalate_singleQuoted (List.cons_ne_nil b rest)
    simp only [List.map_cons] at ih ⊢
    rw [String.intercalate_cons_cons, String.toList_append, String.toList_append, ih,
      List.intersperse_cons_cons, quoteJoin_cons_of_ne_nil _ (by simp),
      quoteJoin_cons_of_ne_nil _ (intersperse_cons_ne_nil _ _ _)]
    simp [singleQuoted]

theorem quoteFree_intersperse {sep : List Char} (hsep : '\'' ∉ sep) :
    ∀ {items : List (List Char)}, (∀ s ∈ items, '\'' ∉ s) →
      ∀ s ∈ items.intersperse sep, '\'' ∉ s
  | [], _ => by simp
  | [a], h => by simpa using h
  | a :: b :: rest, h => by
    rw [List.intersperse_cons_cons]
    intro s hs
    simp only [List.mem_cons] at hs
    rcases hs with rfl | rfl | hs
    · exact h _ List.mem_cons_self
    · exact hsep
    · exact quoteFree_intersperse hsep (fun s hs => h s (List.mem_cons_of_mem a hs)) s hs

/-- A call with one quoted argument, cut at its quotes: an opening that ends apart from the
call, the argument, and a closing that no prefix starts. -/
theorem oneArgument_pieces {call o x e : List Char} (ho : EndsApart call o)
    (he : ¬PrefixChars e) (hoq : '\'' ∉ o) (hx : '\'' ∉ x) (heq : '\'' ∉ e) :
    [o, x, e].IsChain (Apart call) ∧ ∀ s ∈ [o, x, e], '\'' ∉ s := by
  refine ⟨?_, ?_⟩
  · simp only [List.isChain_cons_cons, List.isChain_singleton, and_true]
    exact ⟨.inl ho, .inr he⟩
  · simp only [List.mem_cons, List.not_mem_nil, or_false]
    rintro s (rfl | rfl | rfl)
    · exact hoq
    · exact hx
    · exact heq

/-- The middleware call, cut at its quotes. -/
theorem middleware_pieces (api : Bool) {items : List String}
    (hitems : ∀ m ∈ items, '\'' ∉ m.toList) :
    ∃ P : List (List Char), P ≠ [] ∧
      ("Route::middleware(" ++ middlewareText items ++ ")").toList = quoteJoin P ∧
      P.IsChain (Apart (resourceCall api)) ∧ ∀ s ∈ P, '\'' ∉ s := by
  match items, hitems with
  | [m], hitems =>
    exact ⟨["Route::middleware(".toList, m.toList, ")".toList], by simp,
      by simp [middlewareText, singleQuoted, quoteJoin],
      oneArgument_pieces (by cases api <;> decide) (by decide) (by decide)
        (hitems m List.mem_cons_self) (by decide)⟩
  | [], _ =>
    exact ⟨["Route::middleware([])".toList], by simp, by simp [middlewareText, quoteJoin],
      List.isChain_singleton _, by simp only [List.mem_singleton]; rintro s rfl; decide⟩
  | a :: b :: rest, hitems =>
    have hne : (a :: b :: rest).map String.toList ≠ [] := by simp
    have hI : ((a :: b :: rest).map String.toList).intersperse ", ".toList ≠ [] := by
      simp only [List.map_cons]
      exact intersperse_cons_ne_nil _ _ _
    refine ⟨"Route::middleware([".toList ::
        ((a :: b :: rest).map String.toList).intersperse ", ".toList ++ ["])".toList], by simp,
      ?_, isChain_intersperse (by cases api <;> decide) (by decide) (by decide)
        (by cases api <;> decide) hne, ?_⟩
    · have hmw : middlewareText (a :: b :: rest) =
          "[" ++ ", ".intercalate ((a :: b :: rest).map singleQuoted) ++ "]" := rfl
      rw [quoteJoin_append (by simp) (by simp), quoteJoin_cons_of_ne_nil _ hI, hmw,
        String.toList_append, String.toList_append, String.toList_append, String.toList_append,
        intercalate_singleQuoted (by simp)]
      simp [quoteJoin]
    · have hq : ∀ s ∈ ((a :: b :: rest).map String.toList).intersperse ", ".toList, '\'' ∉ s :=
        quoteFree_intersperse (by decide) (by simpa using hitems)
      intro s hs
      rw [List.mem_append, List.mem_cons, List.mem_singleton] at hs
      rcases hs with (rfl | hs) | rfl
      · decide
      · exact hq s hs
      · decide

/-- How the web group is put under the URL prefix: not at all, or by a prefix call with the
prefix in quotes. -/
def PrefixCall (pc : String) : Prop :=
  pc = "" ∨ ∃ u : String, '\'' ∉ u.toList ∧ pc = "->prefix(" ++ singleQuoted u ++ ")"

/-- The prefix call, cut at its quotes. -/
theorem prefixCall_pieces (api : Bool) {pc : String} (h : PrefixCall pc) :
    ∃ P : List (List Char), P ≠ [] ∧ pc.toList = quoteJoin P ∧
      P.IsChain (Apart (resourceCall api)) ∧ ∀ s ∈ P, '\'' ∉ s := by
  rcases h with rfl | ⟨u, hu, rfl⟩
  · exact ⟨[[]], by simp, by simp [quoteJoin], List.isChain_singleton _, by simp⟩
  · exact ⟨["->prefix(".toList, u.toList, ")".toList], by simp,
      by simp [singleQuoted, quoteJoin],
      oneArgument_pieces (by cases api <;> decide) (by decide) (by decide) hu (by decide)⟩

/-- A registration block as the texts around its quotes: the comment, the middleware call and
the prefix call, the resource call, the quoted route prefix, then the controller class and the
quoted route name. -/
theorem routeBlock_toList (api : Bool) (model middleware prefixCall routePrefix controllerClass
    routeName : String) :
    (routeBlock api model middleware prefixCall routePrefix controllerClass routeName).toList =
      ("\n\n// " ++ model ++ (if api then " API Routes\n" else " Routes\n")).toList ++
        ("Route::middleware(" ++ middleware ++ ")").toList ++
        (if api then "->prefix('v1')" else prefixCall).toList ++
        "->group(function () \x7b\n    ".toList ++ resourceCall api ++
        '\'' :: (routePrefix.toList ++ '\'' :: ((", " ++ controllerClass ++ "::class)->names(").toList ++
          '\'' :: (routeName.toList ++ '\'' :: ");\n\x7d);\n".toList))) := by
  cases api <;> simp [routeBlock, resourceCall]

/-- A registration block, cut at its quotes: pieces whose neighbours are apart up to the
resource call, the route prefix, and pieces whose neighbours are apart after it. -/
theorem routeBlock_pieces (api : Bool) {model prefixCall routePrefix controllerClass
    routeName : String} {items : List String} (hmodel : '\'' ∉ model.toList)
    (hitems : ∀ m ∈ items, '\'' ∉ m.toList) (hpc : PrefixCall prefixCall)
    (hq : '\'' ∉ routePrefix.toList) (hcc : '\'' ∉ controllerClass.toList)
    (hrn : '\'' ∉ routeName.toList) :
    ∃ L₁ L₂ : List (List Char),
      (routeBlock api model (middlewareText items) prefixCall routePrefix controllerClass
        routeName).toList = quoteJoin (L₁ ++ routePrefix.toList :: L₂) ∧
      L₁.IsChain (Apart (resourceCall api)) ∧
      (routePrefix.toList :: L₂).IsChain (Apart (resourceCall api)) ∧
      ∀ s ∈ L₁ ++ routePrefix.toList :: L₂, '\'' ∉ s := by
  obtain ⟨M, hM, hMt, hMc, hMq⟩ := middleware_pieces api hitems
  have hpc' : PrefixCall (if api then "->prefix('v1')" else prefixCall) := by
    cases api
    · exact hpc
    · exact .inr ⟨"v1", by decide, by rw [if_pos rfl]; decide⟩
  obtain ⟨G, hG, hGt, hGc, hGq⟩ := prefixCall_pieces api hpc'
  have hZ : '\'' ∉ "->group(function () \x7b\n    ".toList ++ resourceCall api := by
    cases api <;> decide
  have hA : '\'' ∉ ("\n\n// " ++ model ++ (if api then " API Routes\n" else " Routes\n")).toList := by
    cases api <;> simp [hmodel]
  -- the controller class is followed by the call of its route name
  have hcc' : (", " ++ controllerClass ++ "::class)->names(").toList =
      (", ".toList ++ controllerClass.toList) ++ "::class)->names(".toList := by simp
  refine ⟨glue (glue [("\n\n// " ++ model ++ (if api then " API Routes\n" else " Routes\n")).toList] M)
      (glue G ["->group(function () \x7b\n    ".toList ++ resourceCall api]),
    [(", " ++ controllerClass ++ "::class)->names(").toList, routeName.toList, ");\n\x7d);\n".toList],
    ?_, isChain_glue (isChain_glue (List.isChain_singleton _) hMc)
      (isChain_glue hGc (List.isChain_singleton _)), ?_, ?_⟩
  · rw [routeBlock_toList, quoteJoin_append (glue_ne_nil (glue_ne_nil (by simp) _) _) (by simp),
      quoteJoin_glue, quoteJoin_glue, quoteJoin_glue, ← hMt, ← hGt]
    simp [quoteJoin]
  · simp only [List.isChain_cons_cons, List.isChain_singleton, and_true]
    refine ⟨.inr ?_, .inl ?_, .inr (by decide)⟩
    · rw [hcc', List.append_assoc]
      exact not_prefixChars_append (not_prefixChars_append (by decide : ¬PrefixChars ", ".toList) _) _
    · rw [hcc']
      exact EndsApart.append_left (by cases api <;> decide) _
  · intro s hs
    rcases List.mem_append.mp hs with hs | hs
    · refine quoteFree_glue (quoteFree_glue ?_ hMq) (quoteFree_glue hGq ?_) s hs
      · simpa using hA
      · simpa using hZ
    · simp only [List.mem_cons, List.not_mem_nil, or_false] at hs
      rcases hs with rfl | rfl | rfl | rfl
      · exact hq
      · simp [hcc]
      · exact hrn
      · decide

/-- A registration block holds markers of its own route prefix only, and all of them at one
place. -/
theorem markedAt_routeBlock (api : Bool) {model prefixCall routePrefix controllerClass
    routeName : String} {items : List String} (hmodel : '\'' ∉ model.toList)
    (hitems : ∀ m ∈ items, '\'' ∉ m.toList) (hpc : PrefixCall prefixCall)
    (hq : '\'' ∉ routePrefix.toList) (hcc : '\'' ∉ controllerClass.toList)
    (hrn : '\'' ∉ routeName.toList) :
    ∃ front, ∀ {p pre : List Char}, PrefixChars p →
      MarkedAt (resourceCall api) p (routeBlock api model (middlewareText items) prefixCall
        routePrefix controllerClass routeName).toList pre →
      p = routePrefix.toList ∧ pre ++ resourceCall api = front := by
  obtain ⟨L₁, L₂, htext, h₁, h₂, hfree⟩ := routeBlock_pieces api hmodel hitems hpc hq hcc hrn
  refine ⟨quoteJoin L₁, fun hp h => ?_⟩
  rw [htext] at h
  exact markedAt_split (resourceCall_ne_nil api) (quote_not_mem_resourceCall api) h₁ h₂ hfree hp
    hp.quote_not_mem h

/-! ### The block a request registers -/

/-- A configuration whose texts spliced into registration blocks hold no quote: the root
namespace, the URL prefix and the names of both middleware lists. -/
structure Config.QuoteFree (c : Config) : Prop where
  rootNamespace : '\'' ∉ c.rootNamespace.toList
  urlPrefix : '\'' ∉ c.routes.urlPrefix.toList
  middleware : ∀ m ∈ c.routes.middleware, '\'' ∉ m.toList
  apiMiddleware : ∀ m ∈ c.routes.apiMiddleware, '\'' ∉ m.toList

/-- The block of a request whose names are written as generated, under a configuration and a
sub-namespace that hold no quote, holds markers of the request's route prefix only, all at one
place. -/
theorem RenderContext.markedAt_routeBlock (ctx : RenderContext) (hc : ctx.config.QuoteFree)
    (hn : ctx.names.WellWritten) (hsub : ∀ s ∈ ctx.request.subNamespace, '\'' ∉ s.toList) :
    ∃ front, ∀ {p pre : List Char}, PrefixChars p →
      MarkedAt (resourceCall ctx.request.apiOnly) p ctx.routeBlock.toList pre →
      p = ctx.names.routePrefix.toList ∧ pre ++ resourceCall ctx.request.apiOnly = front := by
  have hquote : isAlphanumeric '\'' = false := by decide
  have hroute : '\'' ∉ ctx.names.routePrefix.toList := hn.routePrefix.not_mem hquote (by decide)
  have hitems : ∀ m ∈ (if ctx.request.apiOnly then ctx.config.routes.apiMiddleware
      else ctx.config.routes.middleware), '\'' ∉ m.toList := by
    split
    · exact hc.apiMiddleware
    · exact hc.middleware
  have hpc : PrefixCall (if ctx.config.routes.urlPrefix.isEmpty || ctx.request.apiOnly then ""
      else "->prefix(" ++ singleQuoted ctx.config.routes.urlPrefix ++ ")") := by
    split
    · exact .inl rfl
    · exact .inr ⟨_, hc.urlPrefix, rfl⟩
  have hcc : '\'' ∉ ("\\" ++ controllerNamespace ctx ++ "\\" ++ ctx.names.controller).toList := by
    simp [controllerNamespace, RenderContext.namespaceUnder, RenderContext.appNamespace,
      hc.rootNamespace, hn.controller.not_mem hquote]
    exact hsub
  have hrn : '\'' ∉ (if ctx.request.apiOnly then "api." ++ ctx.names.routePrefix
      else ctx.names.routePrefix).toList := by
    split <;> simp [hroute]
  exact CrudScaffold.markedAt_routeBlock _ (hn.model.not_mem hquote) hitems hpc hroute hcc hrn

end CrudScaffold
