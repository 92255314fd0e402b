import CrudScaffold.Text.Basic

/-! Word patterns: the small pattern language that inflection rules are written in. A
pattern is matched the leftmost-first way: the match starts at the first position where
one exists, and among the matches from there the one preferred by greedy runs and by
earlier alternatives wins. Numbered groups capture the text they matched.

The matcher passes the rest of the work to a continuation, so a greedy run can give back
characters until the rest of the pattern matches. It recurses on the pattern, and a run
recurses on the input. -/

namespace CrudScaffold.Naming

open Text

/-- Patterns over characters. -/
inductive Pattern where
  /-- Exactly these characters. -/
  | text (s : List Char)
  /-- One character among these. -/
  | anyOf (cs : List Char)
  /-- One character not among these. -/
  | noneOf (cs : List Char)
  /-- The longest run of word characters that lets the rest match. -/
  | wordRun
  /-- The first alternative that lets the rest match. -/
  | alt (ps : List Pattern)
  /-- The patterns one after the other. -/
  | seq (ps : List Pattern)
  /-- The pattern if it lets the rest match, else nothing. -/
  | opt (p : Pattern)
  /-- The pattern, recording what it matched as group `n`. -/
  | group (n : Nat) (p : Pattern)
  /-- The start of the input. -/
  | atStart
  /-- The end of the input. -/
  | atEnd

/-- Spans `(group, start, stop)` recorded so far, the latest first. -/
abbrev Spans := List (Nat × Nat × Nat)

/-- What is left to match after a pattern: the position reached, the input from there and
the spans recorded. -/
abbrev Rest := Nat → List Char → Spans → Option Spans

/-- Greedy run of word characters from position `pos`, then `k`. -/
def wordRunThen (k : Rest) (spans : Spans) : Nat → List Char → Option Spans
  | pos, [] => k pos [] spans
  | pos, c :: rest =>
    if isWordChar c then
      match wordRunThen k spans (pos + 1) rest with
      | some r => some r
      | none => k pos (c :: rest) spans
    else k pos (c :: rest) spans

mutual

/-- Matches `p` at position `pos` of the input `s`, then the rest `k`. -/
def Pattern.run : Pattern → Nat → List Char → Spans → Rest → Option Spans
  | .text t, pos, s, spans, k =>
    if t.isPrefixOf s then k (pos + t.length) (s.drop t.length) spans else none
  | .anyOf cs, pos, s, spans, k =>
    match s with
    | c :: rest => if cs.contains c then k (pos + 1) rest spans else none
    | [] => none
  | .noneOf cs, pos, s, spans, k =>
    match s with
    | c :: rest => if cs.contains c then none else k (pos + 1) rest spans
    | [] => none
  | .wordRun, pos, s, spans, k => wordRunThen k spans pos s
  | .alt ps, pos, s, spans, k => Pattern.runAlt ps pos s spans k
  | .seq ps, pos, s, spans, k => Pattern.runSeq ps pos s spans k
  | .opt p, pos, s, spans, k =>
    match p.run pos s spans k with
    | some r => some r
    | none => k pos s spans
  | .group n p, pos, s, spans, k =>
    p.run pos s spans fun pos' s' spans' => k pos' s' ((n, pos, pos') :: spans')
  | .atStart, pos, s, spans, k => if pos = 0 then k pos s spans else none
  | .atEnd, pos, s, spans, k => if s.isEmpty then k pos s spans else none

/-- Matches the first of the alternatives that lets the rest match. -/
def Pattern.runAlt : List Pattern → Nat → List Char → Spans → Rest → Option Spans
  | [], _, _, _, _ => none
  | p :: ps, pos, s, spans, k =>
    match p.run pos s spans k with
    | some r => some r
    | none => Pattern.runAlt ps pos s spans k

/-- Matches the patterns one after the other. -/
def Pattern.runSeq : List Pattern → Nat → List Char → Spans → Rest → Option Spans
  | [], pos, s, spans, k => k pos s spans
  | p :: ps, pos, s, spans, k =>
    p.run pos s spans fun pos' s' spans' => Pattern.runSeq ps pos' s' spans' k

end

/-- Whether every match of the pattern begins with a greedy run of word characters. -/
def Pattern.leadsWithRun : Pattern → Bool
  | .wordRun => true
  | .group _ p => p.leadsWithRun
  | .seq (p :: _) => p.leadsWithRun
  | _ => false

/-- The spans of the leftmost match at position `pos` or later. When `known` holds, the
pattern is known not to match at `pos`: a pattern that leads with a word run and fails
just before a word character fails just after it too, because the run could have taken
that character and reached the same place. So such positions are not tried again. -/
def Pattern.scan (p : Pattern) (lead : Bool) : Bool → Nat → List Char → Option Spans
  | known, pos, s =>
    let here := if known then none else p.run pos s [] fun _ _ spans => some spans
    match here with
    | some r => some r
    | none =>
      match s with
      | [] => none
      | c :: rest => p.scan lead (lead && isWordChar c) (pos + 1) rest

/-- The spans of the leftmost match in `s`, if there is one. -/
def Pattern.search (p : Pattern) (s : List Char) : Option Spans :=
  p.scan p.leadsWithRun false 0 s

/-- The text captured by group `n`, if the group took part in the match. -/
def captured (s : List Char) (spans : Spans) (n : Nat) : Option (List Char) :=
  match spans.find? (fun sp => sp.1 == n) with
  | some (_, start, stop) => some ((s.drop start).take (stop - start))
  | none => none

end CrudScaffold.Naming
