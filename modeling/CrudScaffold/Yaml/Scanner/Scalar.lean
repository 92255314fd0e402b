import CrudScaffold.Yaml.Scanner.State

/-! Scanning scalars: plain, quoted and block.

A plain or quoted scalar may run over several lines. Its line breaks are folded: a single
break between two pieces of text becomes a space, and each further break (an empty line)
stays a line feed. Blanks at the ends of lines are dropped. A plain scalar ends at `: `, at
` #`, at a flow indicator inside a flow collection, or at a line indented no deeper than its
block collection. A block scalar keeps its lines (`|`) or folds them (`>`), its indentation
fixed by its first non-empty line or by an explicit indicator, and its final line breaks
clipped, stripped (`-`) or kept (`+`). -/

namespace CrudScaffold.Yaml

/-- The text of a scalar so far, with the breaks and blanks read since its last
character. -/
structure Folding where
  text : String := ""
  /-- The first line break after the text. -/
  leadingBreak : String := ""
  /-- The line breaks of the empty lines after it. -/
  trailingBreaks : String := ""
  /-- Blanks after the text on its own line. -/
  whitespaces : String := ""
  /-- Whether a line break was read since the text. -/
  leadingBlanks : Bool := false
deriving Inhabited

/-- Adds the pending breaks or blanks to the text, before more text: a single line break
becomes a space, the breaks of empty lines stay, blanks inside a line stay. -/
def Folding.join (f : Folding) : Folding :=
  if f.leadingBlanks then
    if f.leadingBreak.startsWith "\n" then
      let text := if f.trailingBreaks.isEmpty then f.text.push ' ' else f.text ++ f.trailingBreaks
      { f with text, leadingBreak := "", trailingBreaks := "", leadingBlanks := false }
    else
      { f with text := f.text ++ f.leadingBreak ++ f.trailingBreaks, leadingBreak := "",
               trailingBreaks := "", leadingBlanks := false }
  else { f with text := f.text ++ f.whitespaces, whitespaces := "" }

/-- Reads the blanks and line breaks after a piece of a scalar. Blanks on the line of the
text are kept aside, later blanks dropped; the first break and the following ones are kept
apart. In a plain scalar a tab in the indentation of a continuation line is an error. -/
def readGap (plain : Bool) (start : Mark) (indent : Int) : Nat → Folding → Scan Folding
  | 0, f => pure f
  | fuel + 1, f => do
    let s ← get
    let c := s.ahead 0
    if isBlank c then
      if plain && f.leadingBlanks && (s.mark.column : Int) < indent && c == '\t' then
        scanError "while scanning a plain scalar" start
          "found a tab character that violates indentation"
      advance
      if f.leadingBlanks then readGap plain start indent fuel f
      else readGap plain start indent fuel { f with whitespaces := f.whitespaces.push c }
    else if isBreak c then
      let br ← readLine
      if f.leadingBlanks then
        readGap plain start indent fuel { f with trailingBreaks := f.trailingBreaks ++ br }
      else
        readGap plain start indent fuel
          { f with whitespaces := "", leadingBreak := br, leadingBlanks := true }
    else pure f

/-- Whether a document marker, `---` or `...` followed by a blank, starts at this column-0
position. -/
def Scanner.atDocumentMarker (s : Scanner) : Bool :=
  s.mark.column == 0 &&
    ((s.ahead 0 == '-' && s.ahead 1 == '-' && s.ahead 2 == '-') ||
      (s.ahead 0 == '.' && s.ahead 1 == '.' && s.ahead 2 == '.')) &&
    isBlankZ (s.ahead 3)

/-- The flow indicators that end a plain scalar inside a flow collection. -/
def isFlowIndicator (c : Char) : Bool :=
  c == ',' || c == '[' || c == ']' || c == '\x7b' || c == '\x7d'

/-- Reads the characters of one line of a plain scalar, up to a blank or an indicator that
ends it. The mark after the last character read is kept as the scalar's end. -/
def plainRun (start : Mark) : Nat → Folding × Mark → Scan (Folding × Mark)
  | 0, acc => pure acc
  | fuel + 1, (f, stop) => do
    let s ← get
    let c := s.ahead 0
    if isBlankZ c then return (f, stop)
    let next := s.ahead 1
    if s.flowLevel > 0 && c == ':' && (isFlowIndicator next || next == '?') then
      scanError "while scanning a plain scalar" start "found unexpected ':'"
    if (c == ':' && isBlankZ next) || (s.flowLevel > 0 && isFlowIndicator c) then
      return (f, stop)
    let f := if f.leadingBlanks || !f.whitespaces.isEmpty then f.join else f
    let c ← readChar
    plainRun start fuel ({ f with text := f.text.push c }, ← here)

/-- Reads a plain scalar line by line. -/
def plainLines (start : Mark) (indent : Int) : Nat → Folding × Mark → Scan (Folding × Mark)
  | 0, acc => pure acc
  | fuel + 1, (f, stop) => do
    let s ← get
    if s.atDocumentMarker || s.ahead 0 == '#' then return (f, stop)
    let (f, stop) ← plainRun start (s.input.size + 1) (f, stop)
    let c ← current
    if !(isBlank c || isBreak c) then return (f, stop)
    let f ← readGap true start indent ((← get).input.size + 1) f
    let s ← get
    if s.flowLevel == 0 && (s.mark.column : Int) < indent then return (f, stop)
    plainLines start indent fuel (f, stop)

/-- Scans a plain scalar. A scalar that ran over a line break may be followed by a simple
key. -/
def scanPlainScalar : Scan Token := do
  let s ← get
  let start := s.mark
  let (f, stop) ← plainLines start (s.indent + 1) (s.input.size + 1) ({}, start)
  if f.leadingBlanks then modify fun s => { s with simpleKeyAllowed := true }
  return ⟨.scalar f.text .plain, start, stop⟩

/-- The character a one-letter escape of a double-quoted scalar stands for. -/
def simpleEscape (c : Char) : Option Char :=
  match c with
  | '0' => some '\x00'
  | 'a' => some '\x07'
  | 'b' => some '\x08'
  | 't' | '\t' => some '\t'
  | 'n' => some '\n'
  | 'v' => some '\x0b'
  | 'f' => some '\x0c'
  | 'r' => some '\r'
  | 'e' => some '\x1b'
  | ' ' => some ' '
  | '"' => some '"'
  | '/' => some '/'
  | '\\' => some '\\'
  | 'N' => some '\u0085'
  | '_' => some '\u00a0'
  | 'L' => some '\u2028'
  | 'P' => some '\u2029'
  | _ => none

/-- Reads an escape sequence of a double-quoted scalar at its backslash. -/
def readEscape (start : Mark) : Scan Char := do
  let code ← peekAt 1
  match simpleEscape code with
  | some c => advance; advance; return c
  | none =>
    let width := if code == 'x' then 2 else if code == 'u' then 4 else if code == 'U' then 8 else 0
    if width == 0 then
      scanError "while parsing a quoted scalar" start "found unknown escape character"
    advance
    advance
    let s ← get
    let digits := (List.range width).map s.ahead
    if !digits.all isHex then
      scanError "while parsing a quoted scalar" start "did not find expected hexadecimal number"
    let value := digits.foldl (fun v d => 16 * v + hexValue d) 0
    if (0xD800 ≤ value && value ≤ 0xDFFF) || value > 0x10FFFF then
      scanError "while parsing a quoted scalar" start "found invalid Unicode character escape code"
    modify (·.forward width)
    return Char.ofNat value

/-- Reads the characters of one line of a quoted scalar, up to a blank or the closing quote.
An escaped line break ends the line and continues the scalar on the next one. -/
def quotedRun (start : Mark) (single : Bool) : Nat → Folding → Scan Folding
  | 0, f => pure f
  | fuel + 1, f => do
    let s ← get
    let c := s.ahead 0
    if isBlankZ c then return f
    if single && c == '\'' && s.ahead 1 == '\'' then
      advance
      advance
      quotedRun start single fuel { f with text := f.text.push '\'' }
    else if c == (if single then '\'' else '"') then return f
    else if !single && c == '\\' && isBreak (s.ahead 1) then
      advance
      skipLine
      return { f with leadingBlanks := true }
    else if !single && c == '\\' then
      let e ← readEscape start
      quotedRun start single fuel { f with text := f.text.push e }
    else
      let c ← readChar
      quotedRun start single fuel { f with text := f.text.push c }

/-- Reads a quoted scalar line by line, up to its closing quote. -/
def quotedLines (start : Mark) (single : Bool) : Nat → Folding → Scan Folding
  | 0, f => pure f
  | fuel + 1, f => do
    let s ← get
    if s.atDocumentMarker then
      scanError "while scanning a quoted scalar" start "found unexpected document indicator"
    if s.ahead 0 == '\x00' then
      scanError "while scanning a quoted scalar" start "found unexpected end of stream"
    let f ← quotedRun start single (s.input.size + 1) { f with leadingBlanks := false }
    if (← current) == (if single then '\'' else '"') then return f
    let f ← readGap false start 0 ((← get).input.size + 1) f
    quotedLines start single fuel f.join

/-- Scans a single- or double-quoted scalar. -/
def scanFlowScalar (single : Bool) : Scan Token := do
  let start ← here
  advance
  let f ← quotedLines start single ((← get).input.size + 1) {}
  advance
  return ⟨.scalar f.text (if single then .singleQuoted else .doubleQuoted), start, ← here⟩

/-- Reads the indentation and the empty lines before a line of a block scalar, given its
indentation (zero while unknown). Gives the breaks read, the position after the last one and
the deepest column reached. -/
def blockGap (start : Mark) (indent : Nat) : Nat → String × Mark × Nat → Scan (String × Mark × Nat)
  | 0, acc => pure acc
  | fuel + 1, (breaks, stop, deepest) => do
    let s ← get
    let spaces := s.spanWhile (· == ' ')
    let spaces := if indent == 0 then spaces else min spaces (indent - s.mark.column)
    modify (·.forward spaces)
    let s ← get
    let deepest := max deepest s.mark.column
    if (indent == 0 || s.mark.column < indent) && s.ahead 0 == '\t' then
      scanError "while scanning a block scalar" start
        "found a tab character where an indentation space is expected"
    if !isBreak (s.ahead 0) then return (breaks, stop, deepest)
    let br ← readLine
    blockGap start indent fuel (breaks ++ br, ← here, deepest)

/-- Reads the gap before a line of a block scalar and settles its indentation when unknown:
the deepest column of the empty lines read, at least one deeper than the enclosing block. -/
def blockBreaks (start : Mark) (indent : Nat) : Scan (Nat × String × Mark) := do
  let s ← get
  let (breaks, stop, deepest) ← blockGap start indent (s.input.size + 1) ("", s.mark, 0)
  let indent := if indent == 0 then max 1 (max deepest (s.indent + 1).toNat) else indent
  return (indent, breaks, stop)

/-- The lines of a block scalar read so far. -/
structure BlockText where
  text : String := ""
  leadingBreak : String := ""
  trailingBreaks : String := ""
  /-- Whether the last line read started with a blank. -/
  leadingBlank : Bool := false
  stop : Mark := {}

/-- Reads the lines of a block scalar at its indentation. Folding joins two lines by a space
when neither starts with a blank. -/
def blockLines (literal : Bool) (start : Mark) (indent : Nat) : Nat → BlockText → Scan BlockText
  | 0, b => pure b
  | fuel + 1, b => do
    let s ← get
    if !(s.mark.column == indent && s.ahead 0 != '\x00') then return b
    let trailingBlank := isBlank (s.ahead 0)
    let b :=
      if !literal && b.leadingBreak.startsWith "\n" && !b.leadingBlank && !trailingBlank then
        { b with text := if b.trailingBreaks.isEmpty then b.text.push ' ' else b.text,
                 leadingBreak := "" }
      else { b with text := b.text ++ b.leadingBreak, leadingBreak := "" }
    let b := { b with text := b.text ++ b.trailingBreaks, trailingBreaks := "" }
    let leadingBlank := isBlank (s.ahead 0)
    let line ← readWhile fun _ => true
    let br ← readLine
    let (_, breaks, stop) ← blockBreaks start indent
    blockLines literal start indent fuel
      { b with text := b.text ++ line, leadingBreak := br, trailingBreaks := breaks,
               leadingBlank, stop }

/-- Scans a literal (`|`) or folded (`>`) block scalar with its header. -/
def scanBlockScalar (literal : Bool) : Scan Token := do
  let start ← here
  advance
  let zeroIndent : Scan Unit :=
    scanError "while scanning a block scalar" start "found an indentation indicator equal to 0"
  let mut chomping : Int := 0
  let mut increment : Nat := 0
  let c ← current
  if c == '+' || c == '-' then
    chomping := if c == '+' then 1 else -1
    advance
    let d ← current
    if isDecimal d then
      if d == '0' then zeroIndent
      increment := d.toNat - '0'.toNat
      advance
  else if isDecimal c then
    if c == '0' then zeroIndent
    increment := c.toNat - '0'.toNat
    advance
    let d ← current
    if d == '+' || d == '-' then
      chomping := if d == '+' then 1 else -1
      advance
  skipWhile isBlank
  if (← current) == '#' then skipWhile fun c => !isBreakZ c
  if !isBreakZ (← current) then
    scanError "while scanning a block scalar" start "did not find expected comment or line break"
  if isBreak (← current) then skipLine
  let s ← get
  let indent : Nat :=
    if increment == 0 then 0
    else if s.indent ≥ 0 then (s.indent + increment).toNat else increment
  let (indent, breaks, stop) ← blockBreaks start indent
  let b ← blockLines literal start indent ((← get).input.size + 1)
    { trailingBreaks := breaks, stop }
  let text := b.text ++ (if chomping != -1 then b.leadingBreak else "") ++
    (if chomping == 1 then b.trailingBreaks else "")
  return ⟨.scalar text (if literal then .literal else .folded), start, b.stop⟩

end CrudScaffold.Yaml
