import CrudScaffold.Yaml.Token

/-! The state of the YAML scanner and its small steps.

The scanner reads the stream one character at a time and queues tokens for the parser. Block
structure comes from indentation: the columns of the open block collections are kept on a
stack, and a line that starts further left closes them. A token that might turn out to be a
mapping key (a *simple key*) is remembered, one per flow level, until a `:` shows that it was
one (the key token is then inserted into the queue before it), or until the line ends or
1024 characters pass, after which it is a plain value. -/

namespace CrudScaffold.Yaml

/-- Whether a character ends a line. -/
def isBreak (c : Char) : Bool :=
  c == '\r' || c == '\n' || c == '\u0085' || c == '\u2028' || c == '\u2029'

/-- Whether a character is a space or a tab. -/
def isBlank (c : Char) : Bool := c == ' ' || c == '\t'

/-- A line end or the end of the stream, which reads as the character zero. -/
def isBreakZ (c : Char) : Bool := isBreak c || c == '\x00'

/-- A blank, a line end or the end of the stream. -/
def isBlankZ (c : Char) : Bool := isBlank c || isBreakZ c

/-- The characters of anchor names, directive names and tag handles. -/
def isWordChar (c : Char) : Bool :=
  ('0' ≤ c && c ≤ '9') || ('A' ≤ c && c ≤ 'Z') || ('a' ≤ c && c ≤ 'z') || c == '_' || c == '-'

/-- Whether a character is a decimal digit. -/
def isDecimal (c : Char) : Bool := '0' ≤ c && c ≤ '9'

/-- Whether a character is a hexadecimal digit. -/
def isHex (c : Char) : Bool :=
  isDecimal c || ('A' ≤ c && c ≤ 'F') || ('a' ≤ c && c ≤ 'f')

/-- The value of a hexadecimal digit. -/
def hexValue (c : Char) : Nat :=
  if 'A' ≤ c && c ≤ 'F' then c.toNat - 'A'.toNat + 10
  else if 'a' ≤ c && c ≤ 'f' then c.toNat - 'a'.toNat + 10
  else c.toNat - '0'.toNat

/-- A token that may still become a mapping key. -/
structure SimpleKey where
  possible : Bool := false
  /-- A key at the indentation of its block mapping must be one. -/
  required : Bool := false
  /-- The number of the token, counting every token ever queued. -/
  tokenNumber : Nat := 0
  mark : Mark := {}
deriving Repr, Inhabited

/-- The scanner: the stream, the position, the queued tokens and the block and flow
structure read so far. -/
structure Scanner where
  input : Array Char
  mark : Mark := {}
  /-- Tokens read but not yet taken by the parser, the next one first. -/
  tokens : List Token := []
  /-- How many tokens the parser has taken. -/
  tokensParsed : Nat := 0
  /-- Whether the next token is known to be complete. -/
  tokenAvailable : Bool := false
  /-- The column of the innermost block collection, `-1` outside all. -/
  indent : Int := -1
  indents : List Int := []
  simpleKeyAllowed : Bool := false
  /-- One possible simple key per flow level, the innermost first. -/
  simpleKeys : List SimpleKey := []
  flowLevel : Nat := 0
  streamStartProduced : Bool := false
  streamEndProduced : Bool := false
deriving Inhabited

/-- Scanning steps: they change the scanner or fail with a syntax error. -/
abbrev Scan := StateT Scanner (Except SyntaxError)

namespace Scanner

/-- The character `k` places ahead; the end of the stream reads as the character zero. -/
def ahead (s : Scanner) (k : Nat) : Char := s.input.getD (s.mark.index + k) '\x00'

/-- How many characters from position `i` on satisfy `p`. -/
def countFrom (input : Array Char) (p : Char → Bool) (i : Nat) : Nat :=
  if h : i < input.size then
    if p input[i] then countFrom input p (i + 1) + 1 else 0
  else 0
termination_by input.size - i

/-- Moves over `n` characters of one line. -/
def forward (s : Scanner) (n : Nat) : Scanner :=
  { s with mark := { s.mark with index := s.mark.index + n, column := s.mark.column + n } }

/-- The characters of the current line from here on that satisfy `p`. -/
def spanWhile (s : Scanner) (p : Char → Bool) : Nat :=
  countFrom s.input (fun c => p c && !isBreakZ c) s.mark.index

/-- The text of the next `n` characters. -/
def slice (s : Scanner) (n : Nat) : String :=
  String.ofList ((s.input.extract s.mark.index (s.mark.index + n)).toList)

end Scanner

/-- The character `k` places ahead. -/
def peekAt (k : Nat) : Scan Char := return (← get).ahead k

/-- The current character. -/
def current : Scan Char := peekAt 0

/-- The current position. -/
def here : Scan Mark := return (← get).mark

/-- Moves over one character of a line. -/
def advance : Scan Unit := modify (·.forward 1)

/-- Moves over a line end; a carriage return and line feed count as one. -/
def skipLine : Scan Unit := modify fun s =>
  if s.ahead 0 == '\r' && s.ahead 1 == '\n' then
    { s with mark := ⟨s.mark.index + 2, s.mark.line + 1, 0⟩ }
  else if isBreak (s.ahead 0) then
    { s with mark := ⟨s.mark.index + 1, s.mark.line + 1, 0⟩ }
  else s

/-- Moves over a line end and gives it as text: a line feed, except that the line and
paragraph separators stay themselves. -/
def readLine : Scan String := do
  let s ← get
  let c := s.ahead 0
  if !isBreak c then return ""
  skipLine
  return if c == '\u2028' || c == '\u2029' then String.singleton c else "\n"

/-- Moves over one character of a line and gives it. -/
def readChar : Scan Char := do
  let c ← current
  advance
  return c

/-- Moves over the characters of the line that satisfy `p`. -/
def skipWhile (p : Char → Bool) : Scan Unit := modify fun s => s.forward (s.spanWhile p)

/-- Moves over the characters of the line that satisfy `p` and gives them. -/
def readWhile (p : Char → Bool) : Scan String := do
  let s ← get
  let n := s.spanWhile p
  set (s.forward n)
  return s.slice n

/-- Fails at the current position, naming the construct being read and where it began. -/
def scanError (context : String) (start : Mark) (problem : String) : Scan α := do
  throw { problem, problemMark := (← here), context := some (context, start) }

/-- Fails at the current position without naming a construct. -/
def scanProblem (problem : String) : Scan α := do
  throw { problem, problemMark := (← here) }

/-- Queues a token. -/
def enqueue (t : Token) : Scan Unit := modify fun s => { s with tokens := s.tokens ++ [t] }

/-- Queues a token that starts and ends here. -/
def enqueueHere (k : TokenKind) : Scan Unit := do
  let m ← here
  enqueue ⟨k, m, m⟩

/-- Puts a token into the queue at a position. -/
def insertToken (i : Nat) (t : Token) : Scan Unit := modify fun s =>
  { s with tokens := s.tokens.take i ++ [t] ++ s.tokens.drop i }

/-- Forgets the possible simple keys that can no longer be keys: those on an earlier line
or more than 1024 characters back. A required one among them is an error. -/
def staleSimpleKeys : Scan Unit := do
  let s ← get
  let keys ← s.simpleKeys.mapM fun k =>
    if k.possible && (k.mark.line < s.mark.line || k.mark.index + 1024 < s.mark.index) then
      if k.required then
        (throw { problem := "could not find expected ':'", problemMark := s.mark,
                 context := some ("while scanning a simple key", k.mark) } : Scan SimpleKey)
      else pure { k with possible := false }
    else pure k
  set { s with simpleKeys := keys }

/-- Drops the possible simple key of the current flow level; a required one is an error. -/
def removeSimpleKey : Scan Unit := do
  let s ← get
  match s.simpleKeys with
  | k :: rest =>
    if k.possible && k.required then
      throw { problem := "could not find expected ':'", problemMark := s.mark,
              context := some ("while scanning a simple key", k.mark) }
    set { s with simpleKeys := { k with possible := false } :: rest }
  | [] => pure ()

/-- Remembers that the token about to be queued may be a simple key. -/
def saveSimpleKey : Scan Unit := do
  let s ← get
  let required := s.flowLevel == 0 && s.indent == (s.mark.column : Int)
  if s.simpleKeyAllowed then
    let key : SimpleKey :=
      ⟨true, required, s.tokensParsed + s.tokens.length, s.mark⟩
    removeSimpleKey
    modify fun s => { s with simpleKeys := key :: s.simpleKeys.drop 1 }

/-- Enters a flow collection. -/
def increaseFlowLevel : Scan Unit := modify fun s =>
  { s with simpleKeys := {} :: s.simpleKeys, flowLevel := s.flowLevel + 1 }

/-- Leaves a flow collection. -/
def decreaseFlowLevel : Scan Unit := modify fun s =>
  if s.flowLevel > 0 then { s with flowLevel := s.flowLevel - 1, simpleKeys := s.simpleKeys.drop 1 }
  else s

/-- Opens a block collection at a column deeper than the current one, queuing its start
token (at the given token number, or last). Flow collections have no indentation. -/
def rollIndent (column : Int) (number : Option Nat) (kind : TokenKind) (m : Mark) : Scan Unit := do
  let s ← get
  if s.flowLevel == 0 && s.indent < column then
    set { s with indents := s.indent :: s.indents, indent := column }
    match number with
    | none => enqueue ⟨kind, m, m⟩
    | some n => insertToken (n - s.tokensParsed) ⟨kind, m, m⟩

/-- Closes the block collections deeper than a column, one end token each. -/
def unrollIndent (column : Int) : Scan Unit := do
  let s ← get
  if s.flowLevel == 0 then
    let rec close : List Int → Int → List Token → List Int × Int × List Token
      | stack, indent, acc =>
        if indent > column then
          match stack with
          | outer :: rest => close rest outer (acc ++ [⟨.blockEnd, s.mark, s.mark⟩])
          | [] => ([], indent, acc)
        else (stack, indent, acc)
    let (stack, indent, ends) := close s.indents s.indent []
    set { s with indents := stack, indent, tokens := s.tokens ++ ends }

end CrudScaffold.Yaml
