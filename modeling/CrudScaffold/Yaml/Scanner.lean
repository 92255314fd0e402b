import CrudScaffold.Yaml.Scanner.Scalar
import CrudScaffold.Yaml.Scanner.Property

/-! The YAML scanner: turns a character stream into tokens on demand.

Each step skips blanks, comments and line breaks, closes the block collections that the new
line's column leaves, and reads one token by its first character. A token is handed to the
parser only once no earlier possible simple key could still claim it, so the scanner may read
ahead to the next `:` on the line. -/

namespace CrudScaffold.Yaml

/-- Skips blanks, comments and line breaks up to the next token. Tabs are skipped inside flow
collections and where no simple key may start; a new line in block context allows one. -/
def scanToNextToken : Nat → Scan Unit
  | 0 => pure ()
  | fuel + 1 => do
    let s ← get
    if s.mark.column == 0 && s.ahead 0 == '\uFEFF' then advance
    let s ← get
    let tabs := s.flowLevel > 0 || !s.simpleKeyAllowed
    skipWhile fun c => c == ' ' || (tabs && c == '\t')
    if (← current) == '#' then skipWhile fun c => !isBreakZ c
    if isBreak (← current) then
      skipLine
      if (← get).flowLevel == 0 then modify fun s => { s with simpleKeyAllowed := true }
      scanToNextToken fuel

/-- Sets whether a simple key may start at the next token. -/
def allowSimpleKey (allowed : Bool) : Scan Unit :=
  modify fun s => { s with simpleKeyAllowed := allowed }

/-- Queues a token for the indicator character here, moving over `width` characters. -/
def indicator (kind : TokenKind) (width : Nat := 1) : Scan Unit := do
  let start ← here
  modify (·.forward width)
  enqueue ⟨kind, start, ← here⟩

/-- The start of the stream: no block is open and a simple key may follow. -/
def fetchStreamStart : Scan Unit := do
  modify fun s => { s with indent := -1, simpleKeys := {} :: s.simpleKeys, simpleKeyAllowed := true,
                           streamStartProduced := true }
  enqueueHere .streamStart

/-- The end of the stream, on a line of its own: every block is closed. -/
def fetchStreamEnd : Scan Unit := do
  let s ← get
  if s.mark.column != 0 then
    set { s with mark := { s.mark with column := 0, line := s.mark.line + 1 } }
  unrollIndent (-1)
  removeSimpleKey
  allowSimpleKey false
  enqueueHere .streamEnd

/-- A directive, which closes every block. -/
def fetchDirective : Scan Unit := do
  unrollIndent (-1)
  removeSimpleKey
  allowSimpleKey false
  enqueue (← scanDirective)

/-- A document start (`---`) or end (`...`) marker, which closes every block. -/
def fetchDocumentIndicator (kind : TokenKind) : Scan Unit := do
  unrollIndent (-1)
  removeSimpleKey
  allowSimpleKey false
  indicator kind 3

/-- The start of a flow collection, which may itself be a simple key. -/
def fetchFlowCollectionStart (kind : TokenKind) : Scan Unit := do
  saveSimpleKey
  increaseFlowLevel
  allowSimpleKey true
  indicator kind

/-- The end of a flow collection. -/
def fetchFlowCollectionEnd (kind : TokenKind) : Scan Unit := do
  removeSimpleKey
  decreaseFlowLevel
  allowSimpleKey false
  indicator kind

/-- A `,` between flow entries. -/
def fetchFlowEntry : Scan Unit := do
  removeSimpleKey
  allowSimpleKey true
  indicator .flowEntry

/-- A `-` entry of a block sequence, which opens the sequence at its column when needed. -/
def fetchBlockEntry : Scan Unit := do
  let s ← get
  if s.flowLevel == 0 then
    if !s.simpleKeyAllowed then
      scanProblem "block sequence entries are not allowed in this context"
    rollIndent s.mark.column none .blockSequenceStart s.mark
  removeSimpleKey
  allowSimpleKey true
  indicator .blockEntry

/-- An explicit `?` key, which opens a block mapping at its column when needed. -/
def fetchKey : Scan Unit := do
  let s ← get
  if s.flowLevel == 0 then
    if !s.simpleKeyAllowed then
      scanProblem "mapping keys are not allowed in this context"
    rollIndent s.mark.column none .blockMappingStart s.mark
  removeSimpleKey
  allowSimpleKey ((← get).flowLevel == 0)
  indicator .key

/-- A `:` value indicator. After a possible simple key the key token is inserted before that
key, opening a block mapping at the key's column when needed. -/
def fetchValue : Scan Unit := do
  let s ← get
  match s.simpleKeys with
  | key :: rest =>
    if key.possible then
      insertToken (key.tokenNumber - s.tokensParsed) ⟨.key, key.mark, key.mark⟩
      rollIndent key.mark.column (some key.tokenNumber) .blockMappingStart key.mark
      modify fun s => { s with simpleKeys := { key with possible := false } :: rest,
                               simpleKeyAllowed := false }
    else
      if s.flowLevel == 0 then
        if !s.simpleKeyAllowed then
          scanProblem "mapping values are not allowed in this context"
        rollIndent s.mark.column none .blockMappingStart s.mark
      allowSimpleKey (s.flowLevel == 0)
  | [] => pure ()
  indicator .value

/-- An anchor or an alias, which may be a simple key. -/
def fetchAnchor (isAlias : Bool) : Scan Unit := do
  saveSimpleKey
  allowSimpleKey false
  enqueue (← scanAnchor isAlias)

/-- A tag, which may start a simple key. -/
def fetchTag : Scan Unit := do
  saveSimpleKey
  allowSimpleKey false
  enqueue (← scanTag)

/-- A block scalar. -/
def fetchBlockScalar (literal : Bool) : Scan Unit := do
  removeSimpleKey
  allowSimpleKey true
  enqueue (← scanBlockScalar literal)

/-- A quoted scalar, which may be a simple key. -/
def fetchFlowScalar (single : Bool) : Scan Unit := do
  saveSimpleKey
  allowSimpleKey false
  enqueue (← scanFlowScalar single)

/-- A plain scalar, which may be a simple key. -/
def fetchPlainScalar : Scan Unit := do
  saveSimpleKey
  allowSimpleKey false
  enqueue (← scanPlainScalar)

/-- Whether a plain scalar may start here: not at a blank or an indicator, except `-`, `?`
and `:` followed by a character that makes them text. -/
def Scanner.startsPlain (s : Scanner) : Bool :=
  let c := s.ahead 0
  let next := s.ahead 1
  !(isBlankZ c || "-?:,[]#&*!|>'\"%@`".contains c || c == '\x7b' || c == '\x7d') ||
    (c == '-' && !isBlank next) ||
    (s.flowLevel == 0 && (c == '?' || c == ':') && !isBlankZ next)

/-- Reads the next token (or several: block ends come before the token of a new line). -/
def fetchNextToken : Scan Unit := do
  if !(← get).streamStartProduced then fetchStreamStart
  else
    scanToNextToken ((← get).input.size + 1)
    staleSimpleKeys
    unrollIndent (← here).column
    let s ← get
    let c := s.ahead 0
    let next := s.ahead 1
    let lineStart := s.mark.column == 0
    let flow := s.flowLevel > 0
    if c == '\x00' then fetchStreamEnd
    else if lineStart && c == '%' then fetchDirective
    else if lineStart && c == '-' && next == '-' && s.ahead 2 == '-' && isBlankZ (s.ahead 3) then
      fetchDocumentIndicator .documentStart
    else if lineStart && c == '.' && next == '.' && s.ahead 2 == '.' && isBlankZ (s.ahead 3) then
      fetchDocumentIndicator .documentEnd
    else if c == '[' then fetchFlowCollectionStart .flowSequenceStart
    else if c == '\x7b' then fetchFlowCollectionStart .flowMappingStart
    else if c == ']' then fetchFlowCollectionEnd .flowSequenceEnd
    else if c == '\x7d' then fetchFlowCollectionEnd .flowMappingEnd
    else if c == ',' then fetchFlowEntry
    else if c == '-' && isBlankZ next then fetchBlockEntry
    else if c == '?' && (flow || isBlankZ next) then fetchKey
    else if c == ':' && (flow || isBlankZ next) then fetchValue
    else if c == '*' then fetchAnchor true
    else if c == '&' then fetchAnchor false
    else if c == '!' then fetchTag
    else if c == '|' && !flow then fetchBlockScalar true
    else if c == '>' && !flow then fetchBlockScalar false
    else if c == '\'' then fetchFlowScalar true
    else if c == '"' then fetchFlowScalar false
    else if s.startsPlain then fetchPlainScalar
    else
      scanError "while scanning for the next token" s.mark
        "found character that cannot start any token"

/-- Whether more tokens must be read before the next one can be handed over: the queue is
empty, or a possible simple key could still make the next token a key's. -/
def needMoreTokens : Scan Bool := do
  if (← get).tokens.isEmpty then return true
  staleSimpleKeys
  let s ← get
  return s.simpleKeys.any fun k => k.possible && k.tokenNumber == s.tokensParsed

/-- Reads tokens until the next one is complete. -/
def fetchMoreTokens : Nat → Scan Unit
  | 0 => modify fun s => { s with tokenAvailable := true }
  | fuel + 1 => do
    if ← needMoreTokens then
      fetchNextToken
      fetchMoreTokens fuel
    else modify fun s => { s with tokenAvailable := true }

/-- The next token. -/
def peekToken : Scan Token := do
  if !(← get).tokenAvailable then fetchMoreTokens ((← get).input.size + 8)
  match (← get).tokens with
  | t :: _ => pure t
  | [] => return ⟨.streamEnd, ← here, ← here⟩

/-- Hands over the next token. -/
def skipToken : Scan Unit := modify fun s =>
  match s.tokens with
  | t :: rest =>
    { s with tokenAvailable := false, tokensParsed := s.tokensParsed + 1,
             streamEndProduced := t.kind == .streamEnd, tokens := rest }
  | [] => s

/-- Why a stream cannot be read at all: a character a YAML stream may not hold. The byte
offset of the first such character counts a byte order mark at the start. -/
def readerProblem (text : String) : Option SyntaxError :=
  let allowed (c : Char) : Bool :=
    let n := c.toNat
    n == 0x09 || n == 0x0A || n == 0x0D || (0x20 ≤ n && n ≤ 0x7E) || n == 0x85 ||
      (0xA0 ≤ n && n ≤ 0xD7FF) || (0xE000 ≤ n && n ≤ 0xFFFD) || (0x10000 ≤ n && n ≤ 0x10FFFF)
  let chars := text.toList
  let body := if chars.head? == some '\uFEFF' then chars.drop 1 else chars
  let skipped := chars.length - body.length
  match body.findIdx? (fun c => !allowed c) with
  | none => none
  | some i =>
    let offset := 3 * skipped + String.utf8ByteSize (String.ofList (body.take i))
    some { problem := "control characters are not allowed", problemOffset := offset }

/-- A scanner at the start of a stream; a byte order mark at its start is not part of it. -/
def Scanner.ofString (text : String) : Scanner :=
  let chars := text.toList
  let body := if chars.head? == some '\uFEFF' then chars.drop 1 else chars
  { input := body.toArray }

end CrudScaffold.Yaml
