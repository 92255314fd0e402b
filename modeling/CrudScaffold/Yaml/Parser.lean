import CrudScaffold.Yaml.Scanner

/-! The YAML parser: turns tokens into events, one at a time, by a state machine over the
grammar of documents, block and flow collections and nodes.

The state says what may come next; a stack of states says where to return after a nested
node, and a stack of marks remembers where each open collection began, for messages. Tags are
resolved against the document's `%TAG` directives and the two default handles, `!` and
`!!`. -/

namespace CrudScaffold.Yaml

/-- What the parser expects next. -/
inductive ParseState where
  | streamStart
  | implicitDocumentStart
  | documentStart
  | documentContent
  | documentEnd
  | blockNode
  | blockNodeOrIndentlessSequence
  | flowNode
  | blockSequenceFirstEntry
  | blockSequenceEntry
  | indentlessSequenceEntry
  | blockMappingFirstKey
  | blockMappingKey
  | blockMappingValue
  | flowSequenceFirstEntry
  | flowSequenceEntry
  | flowSequenceEntryMappingKey
  | flowSequenceEntryMappingValue
  | flowSequenceEntryMappingEnd
  | flowMappingFirstKey
  | flowMappingKey
  | flowMappingValue
  | flowMappingEmptyValue
  | finished
deriving Repr, DecidableEq, Inhabited

/-- What an event is. Collections and scalars carry their anchor and resolved tag. -/
inductive EventKind where
  | streamStart
  | streamEnd
  | documentStart
  | documentEnd
  | alias (name : String)
  | scalar (anchor tag : Option String) (text : String) (style : ScalarStyle)
  | sequenceStart (anchor tag : Option String)
  | sequenceEnd
  | mappingStart (anchor tag : Option String)
  | mappingEnd
deriving Repr, DecidableEq, Inhabited

/-- An event with the positions where it starts and ends. -/
structure Event where
  kind : EventKind
  start : Mark
  stop : Mark
deriving Repr, Inhabited

/-- The parser: the scanner, the state, and the stacks of states and marks. -/
structure Parser where
  scanner : Scanner
  state : ParseState := .streamStart
  states : List ParseState := []
  marks : List Mark := []
  /-- The tag handles of the current document with their prefixes. -/
  tagDirectives : List (String × String) := []
deriving Inhabited

/-- Parsing steps. -/
abbrev Parse := StateT Parser (Except SyntaxError)

/-- Runs a scanning step on the parser's scanner. -/
def liftScan (m : Scan α) : Parse α := fun p =>
  match m.run p.scanner with
  | .ok (a, scanner) => .ok (a, { p with scanner })
  | .error e => .error e

/-- The next token. -/
def nextToken : Parse Token := liftScan peekToken

/-- Takes the next token. -/
def takeToken : Parse Unit := liftScan skipToken

/-- Sets the state. -/
def goTo (state : ParseState) : Parse Unit := modify fun p => { p with state }

/-- Remembers the state to return to. -/
def pushState (state : ParseState) : Parse Unit :=
  modify fun p => { p with states := state :: p.states }

/-- Returns to the remembered state. -/
def popState : Parse Unit := modify fun p =>
  match p.states with
  | state :: rest => { p with state, states := rest }
  | [] => { p with state := .finished }

/-- Remembers where a collection began. -/
def pushMark (m : Mark) : Parse Unit := modify fun p => { p with marks := m :: p.marks }

/-- Forgets where the innermost collection began, giving it. -/
def popMark : Parse Mark := do
  let p ← get
  match p.marks with
  | m :: rest => set { p with marks := rest }; return m
  | [] => return {}

/-- Fails at a position. -/
def parseError (problem : String) (m : Mark) : Parse α :=
  throw { problem, problemMark := m }

/-- Fails at a position, naming the construct being parsed and where it began. -/
def parseErrorIn (context : String) (contextMark : Mark) (problem : String) (m : Mark) : Parse α :=
  throw { problem, problemMark := m, context := some (context, contextMark) }

/-- An empty plain scalar at a position, for a node that is left out. -/
def emptyScalar (m : Mark) : Event := ⟨.scalar none none "" .plain, m, m⟩

/-- The tag handles every document knows. -/
def defaultTagDirectives : List (String × String) :=
  [("!", "!"), ("!!", "tag:yaml.org,2002:")]

/-- Reads the directives before a document and adds the default tag handles. -/
def processDirectives : Nat → Bool → Parse Unit
  | 0, _ => pure ()
  | fuel + 1, seenVersion => do
    let t ← nextToken
    match t.kind with
    | .versionDirective major minor =>
      if seenVersion then parseError "found duplicate %YAML directive" t.start
      if major != 1 || (minor != 1 && minor != 2) then
        parseError "found incompatible YAML document" t.start
      takeToken
      processDirectives fuel true
    | .tagDirective handle tagPrefix =>
      if ((← get).tagDirectives.lookup handle).isSome then
        parseError "found duplicate %TAG directive" t.start
      modify fun p => { p with tagDirectives := p.tagDirectives ++ [(handle, tagPrefix)] }
      takeToken
      processDirectives fuel seenVersion
    | _ =>
      modify fun p => { p with tagDirectives := p.tagDirectives ++
        defaultTagDirectives.filter fun (h, _) => (p.tagDirectives.lookup h).isNone }

/-- Whether a token kind is a directive, a document marker or the stream's end. -/
def TokenKind.endsContent : TokenKind → Bool
  | .versionDirective .. | .tagDirective .. | .documentStart | .documentEnd | .streamEnd => true
  | _ => false

/-- The start of the stream. -/
def parseStreamStart : Parse Event := do
  let t ← nextToken
  if t.kind != .streamStart then parseError "did not find expected <stream-start>" t.start
  goTo .implicitDocumentStart
  takeToken
  return ⟨.streamStart, t.start, t.stop⟩

/-- Skips `...` markers that stand between documents. -/
def skipDocumentEnds : Nat → Parse Token
  | 0 => nextToken
  | fuel + 1 => do
    let t ← nextToken
    if t.kind == .documentEnd then
      takeToken
      skipDocumentEnds fuel
    else pure t

/-- The start of a document, implicit (only for the first) or marked by `---`, or the end of
the stream. -/
def parseDocumentStart (implicit : Bool) : Parse Event := do
  let fuel := (← get).scanner.input.size + 2
  let t ← if implicit then nextToken else skipDocumentEnds fuel
  let isStart := match t.kind with
    | .versionDirective .. | .tagDirective .. | .documentStart | .streamEnd => true
    | _ => false
  if implicit && !isStart then
    processDirectives fuel false
    pushState .documentEnd
    goTo .blockNode
    return ⟨.documentStart, t.start, t.start⟩
  else if t.kind != .streamEnd then
    processDirectives fuel false
    let t' ← nextToken
    if t'.kind != .documentStart then
      parseError "did not find expected <document start>" t'.start
    pushState .documentEnd
    goTo .documentContent
    takeToken
    return ⟨.documentStart, t.start, t'.stop⟩
  else
    goTo .finished
    takeToken
    return ⟨.streamEnd, t.start, t.stop⟩

/-- The content of an explicit document, possibly empty. -/
def parseDocumentEnd : Parse Event := do
  let t ← nextToken
  let stop ← if t.kind == .documentEnd then do takeToken; pure t.stop else pure t.start
  modify fun p => { p with tagDirectives := [], state := .documentStart }
  return ⟨.documentEnd, t.start, stop⟩

/-- The properties of a node: its anchor, its tag as written, where the first property
starts, where the tag starts, and where the last property ends. -/
structure Properties where
  anchor : Option String := none
  tag : Option (String × String) := none
  start : Mark
  tagMark : Mark
  stop : Mark

/-- Reads the anchor and tag of a node, in either order, giving them and the token after
them. -/
def readProperties : Parse (Properties × Token) := do
  let t ← nextToken
  match t.kind with
  | .anchor name =>
    takeToken
    let t' ← nextToken
    match t'.kind with
    | .tag handle suffix =>
      takeToken
      return (⟨some name, some (handle, suffix), t.start, t'.start, t'.stop⟩, ← nextToken)
    | _ => return (⟨some name, none, t.start, t.start, t.stop⟩, t')
  | .tag handle suffix =>
    takeToken
    let t' ← nextToken
    match t'.kind with
    | .anchor name =>
      takeToken
      return (⟨some name, some (handle, suffix), t.start, t.start, t'.stop⟩, ← nextToken)
    | _ => return (⟨none, some (handle, suffix), t.start, t.start, t.stop⟩, t')
  | _ => return (⟨none, none, t.start, t.start, t.start⟩, t)

/-- Resolves a tag against the document's handles; an empty handle marks a verbatim tag. -/
def resolveTag (props : Properties) : Parse (Option String) := do
  match props.tag with
  | none => return none
  | some (handle, suffix) =>
    if handle.isEmpty then return some suffix
    match (← get).tagDirectives.lookup handle with
    | some tagPrefix => return some (tagPrefix ++ suffix)
    | none =>
      parseErrorIn "while parsing a node" props.start "found undefined tag handle" props.tagMark

/-- A node: an alias, or a scalar or collection with its anchor and tag. Block collections
are only allowed in block context, and a `-` entry may start an indentless sequence as a
mapping's value. A node with properties and no content is an empty scalar. -/
def parseNode (block indentless : Bool) : Parse Event := do
  let t ← nextToken
  if let .alias name := t.kind then
    popState
    takeToken
    return ⟨.alias name, t.start, t.stop⟩
  let (props, t) ← readProperties
  let tag ← resolveTag props
  let anchor := props.anchor
  let start := props.start
  let hasProperties := anchor.isSome || tag.isSome
  let noContent : Parse Event :=
    if hasProperties then do
      popState
      return ⟨.scalar anchor tag "" .plain, start, props.stop⟩
    else
      parseErrorIn (if block then "while parsing a block node" else "while parsing a flow node")
        start "did not find expected node content" t.start
  if indentless && t.kind == .blockEntry then
    goTo .indentlessSequenceEntry
    return ⟨.sequenceStart anchor tag, start, t.stop⟩
  match t.kind with
  | .scalar text style =>
    popState
    takeToken
    return ⟨.scalar anchor tag text style, start, t.stop⟩
  | .flowSequenceStart =>
    goTo .flowSequenceFirstEntry
    return ⟨.sequenceStart anchor tag, start, t.stop⟩
  | .flowMappingStart =>
    goTo .flowMappingFirstKey
    return ⟨.mappingStart anchor tag, start, t.stop⟩
  | .blockSequenceStart =>
    if block then
      goTo .blockSequenceFirstEntry
      return ⟨.sequenceStart anchor tag, start, t.stop⟩
    else noContent
  | .blockMappingStart =>
    if block then
      goTo .blockMappingFirstKey
      return ⟨.mappingStart anchor tag, start, t.stop⟩
    else noContent
  | _ => noContent

/-- The content of an explicit document, which may be empty. -/
def parseDocumentContent : Parse Event := do
  let t ← nextToken
  if t.kind.endsContent then
    popState
    return emptyScalar t.start
  parseNode true false

/-- An entry of a block sequence, or its end. -/
def parseBlockSequenceEntry (first : Bool) : Parse Event := do
  if first then
    pushMark (← nextToken).start
    takeToken
  let t ← nextToken
  match t.kind with
  | .blockEntry =>
    takeToken
    let t' ← nextToken
    if t'.kind != .blockEntry && t'.kind != .blockEnd then
      pushState .blockSequenceEntry
      parseNode true false
    else
      goTo .blockSequenceEntry
      return emptyScalar t.stop
  | .blockEnd =>
    popState
    let _ ← popMark
    takeToken
    return ⟨.sequenceEnd, t.start, t.stop⟩
  | _ =>
    parseErrorIn "while parsing a block collection" (← popMark)
      "did not find expected '-' indicator" t.start

/-- An entry of a sequence written at its mapping's indentation, or its end. -/
def parseIndentlessSequenceEntry : Parse Event := do
  let t ← nextToken
  if t.kind == .blockEntry then
    takeToken
    let t' ← nextToken
    if t'.kind != .blockEntry && t'.kind != .key && t'.kind != .value && t'.kind != .blockEnd then
      pushState .indentlessSequenceEntry
      parseNode true false
    else
      goTo .indentlessSequenceEntry
      return emptyScalar t.stop
  else
    popState
    return ⟨.sequenceEnd, t.start, t.start⟩

/-- A key of a block mapping, or its end. -/
def parseBlockMappingKey (first : Bool) : Parse Event := do
  if first then
    pushMark (← nextToken).start
    takeToken
  let t ← nextToken
  match t.kind with
  | .key =>
    takeToken
    let t' ← nextToken
    if t'.kind != .key && t'.kind != .value && t'.kind != .blockEnd then
      pushState .blockMappingValue
      parseNode true true
    else
      goTo .blockMappingValue
      return emptyScalar t.stop
  | .blockEnd =>
    popState
    let _ ← popMark
    takeToken
    return ⟨.mappingEnd, t.start, t.stop⟩
  | _ =>
    parseErrorIn "while parsing a block mapping" (← popMark) "did not find expected key" t.start

/-- A value of a block mapping, empty when left out. -/
def parseBlockMappingValue : Parse Event := do
  let t ← nextToken
  if t.kind == .value then
    takeToken
    let t' ← nextToken
    if t'.kind != .key && t'.kind != .value && t'.kind != .blockEnd then
      pushState .blockMappingKey
      parseNode true true
    else
      goTo .blockMappingKey
      return emptyScalar t.stop
  else
    goTo .blockMappingKey
    return emptyScalar t.start

/-- An entry of a flow sequence, or its end. Entries after the first follow a `,`; an entry
with a key is a one-pair mapping. -/
def parseFlowSequenceEntry (first : Bool) : Parse Event := do
  if first then
    pushMark (← nextToken).start
    takeToken
  let t ← nextToken
  if t.kind != .flowSequenceEnd then
    let t ← if first then pure t
      else if t.kind == .flowEntry then do takeToken; nextToken
      else do
        let m ← popMark
        parseErrorIn "while parsing a flow sequence" m "did not find expected ',' or ']'" t.start
    if t.kind == .key then
      goTo .flowSequenceEntryMappingKey
      takeToken
      return ⟨.mappingStart none none, t.start, t.stop⟩
    if t.kind != .flowSequenceEnd then
      pushState .flowSequenceEntry
      return ← parseNode false false
    popState
    let _ ← popMark
    takeToken
    return ⟨.sequenceEnd, t.start, t.stop⟩
  popState
  let _ ← popMark
  takeToken
  return ⟨.sequenceEnd, t.start, t.stop⟩

/-- The key of a one-pair mapping in a flow sequence. -/
def parseFlowSequenceEntryMappingKey : Parse Event := do
  let t ← nextToken
  if t.kind != .value && t.kind != .flowEntry && t.kind != .flowSequenceEnd then
    pushState .flowSequenceEntryMappingValue
    parseNode false false
  else
    takeToken
    goTo .flowSequenceEntryMappingValue
    return emptyScalar t.stop

/-- The value of a one-pair mapping in a flow sequence. -/
def parseFlowSequenceEntryMappingValue : Parse Event := do
  let t ← nextToken
  if t.kind == .value then
    takeToken
    let t' ← nextToken
    if t'.kind != .flowEntry && t'.kind != .flowSequenceEnd then
      pushState .flowSequenceEntryMappingEnd
      return ← parseNode false false
    goTo .flowSequenceEntryMappingEnd
    return emptyScalar t'.start
  goTo .flowSequenceEntryMappingEnd
  return emptyScalar t.start

/-- The end of a one-pair mapping in a flow sequence. -/
def parseFlowSequenceEntryMappingEnd : Parse Event := do
  let t ← nextToken
  goTo .flowSequenceEntry
  return ⟨.mappingEnd, t.start, t.start⟩

/-- A key of a flow mapping, or its end. Entries after the first follow a `,`; a key
without `?` has an empty value when no `:` follows. -/
def parseFlowMappingKey (first : Bool) : Parse Event := do
  if first then
    pushMark (← nextToken).start
    takeToken
  let t ← nextToken
  if t.kind != .flowMappingEnd then
    let t ← if first then pure t
      else if t.kind == .flowEntry then do takeToken; nextToken
      else do
        let m ← popMark
        parseErrorIn "while parsing a flow mapping" m "did not find expected ',' or '\x7d'" t.start
    if t.kind == .key then
      takeToken
      let t' ← nextToken
      if t'.kind != .value && t'.kind != .flowEntry && t'.kind != .flowMappingEnd then
        pushState .flowMappingValue
        return ← parseNode false false
      goTo .flowMappingValue
      return emptyScalar t'.start
    if t.kind != .flowMappingEnd then
      pushState .flowMappingEmptyValue
      return ← parseNode false false
    popState
    let _ ← popMark
    takeToken
    return ⟨.mappingEnd, t.start, t.stop⟩
  popState
  let _ ← popMark
  takeToken
  return ⟨.mappingEnd, t.start, t.stop⟩

/-- A value of a flow mapping, empty when left out. -/
def parseFlowMappingValue (empty : Bool) : Parse Event := do
  let t ← nextToken
  if empty then
    goTo .flowMappingKey
    return emptyScalar t.start
  if t.kind == .value then
    takeToken
    let t' ← nextToken
    if t'.kind != .flowEntry && t'.kind != .flowMappingEnd then
      pushState .flowMappingKey
      return ← parseNode false false
    goTo .flowMappingKey
    return emptyScalar t'.start
  goTo .flowMappingKey
  return emptyScalar t.start

/-- The next event. After the end of the stream there are no more; asking again gives the
end once more. -/
def parseEvent : Parse Event := do
  match (← get).state with
  | .streamStart => parseStreamStart
  | .implicitDocumentStart => parseDocumentStart true
  | .documentStart => parseDocumentStart false
  | .documentContent => parseDocumentContent
  | .documentEnd => parseDocumentEnd
  | .blockNode => parseNode true false
  | .blockNodeOrIndentlessSequence => parseNode true true
  | .flowNode => parseNode false false
  | .blockSequenceFirstEntry => parseBlockSequenceEntry true
  | .blockSequenceEntry => parseBlockSequenceEntry false
  | .indentlessSequenceEntry => parseIndentlessSequenceEntry
  | .blockMappingFirstKey => parseBlockMappingKey true
  | .blockMappingKey => parseBlockMappingKey false
  | .blockMappingValue => parseBlockMappingValue
  | .flowSequenceFirstEntry => parseFlowSequenceEntry true
  | .flowSequenceEntry => parseFlowSequenceEntry false
  | .flowSequenceEntryMappingKey => parseFlowSequenceEntryMappingKey
  | .flowSequenceEntryMappingValue => parseFlowSequenceEntryMappingValue
  | .flowSequenceEntryMappingEnd => parseFlowSequenceEntryMappingEnd
  | .flowMappingFirstKey => parseFlowMappingKey true
  | .flowMappingKey => parseFlowMappingKey false
  | .flowMappingValue => parseFlowMappingValue false
  | .flowMappingEmptyValue => parseFlowMappingValue true
  | .finished => return ⟨.streamEnd, {}, {}⟩

end CrudScaffold.Yaml
