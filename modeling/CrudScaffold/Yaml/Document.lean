import CrudScaffold.Yaml.Parser

/-! Loading a YAML document: the events of the stream's first document, with anchors
numbered and aliases pointing at the item their anchor names, and the error that stopped the
stream if one did.

Loading keeps every event read before an error, so a reader of the document meets the error
only when it reads past the last good event. Anchors are numbered by how many distinct anchor
names were seen before them; an anchor defined again takes a new number, and aliases refer
to the latest definition. -/

namespace CrudScaffold.Yaml

/-- An item of a loaded document. -/
inductive Item where
  /-- A reference to the anchored item with this number. -/
  | alias (id : Nat)
  | scalar (text : String) (style : ScalarStyle) (tag : Option String)
  | sequenceStart (tag : Option String)
  | sequenceEnd
  | mappingStart (tag : Option String)
  | mappingEnd
  /-- The value of an empty stream. -/
  | void
deriving Repr, DecidableEq, Inhabited

/-- Why a document could not be read as the value wanted. -/
inductive ReadError where
  /-- A message about the value, with the position and the path of the value it is about
  once known. -/
  | message (text : String) (place : Option (Mark × String))
  /-- The stream is not well-formed YAML. -/
  | malformed (e : SyntaxError)
  /-- An alias to an anchor not defined before it. -/
  | unknownAnchor (mark : Mark)
  /-- The stream ended where a value was expected. -/
  | endOfStream
  /-- The stream holds a second document. -/
  | moreThanOneDocument
  /-- Collections are nested too deeply. -/
  | recursionLimit (mark : Mark)
  /-- Aliases are followed too often. -/
  | repetitionLimit
deriving Repr, Inhabited

namespace ReadError

/-- The text of a position, left out at the very start of the stream. -/
def placeText (m : Mark) : String := if m.isStart then "" else " at " ++ m.render

/-- The message of an error: a message about a value starts with the value's path and ends
with its position. -/
def render : ReadError → String
  | .message text none => text
  | .message text (some (m, path)) =>
    (if path == "." then "" else path ++ ": ") ++ text ++ placeText m
  | .malformed e => e.render
  | .unknownAnchor m => "unknown anchor" ++ placeText m
  | .endOfStream => "EOF while parsing a value"
  | .moreThanOneDocument =>
    "deserializing from YAML containing more than one document is not supported"
  | .recursionLimit m => "recursion limit exceeded" ++ placeText m
  | .repetitionLimit => "repetition limit exceeded"

/-- Gives a message without a position the position and path of the value being read. -/
def place (m : Mark) (path : String) : ReadError → ReadError
  | .message text none => .message text (some (m, path))
  | e => e

end ReadError

/-- The first document of a stream. -/
structure Document where
  /-- The items read, each with the position it starts at. -/
  items : Array (Item × Mark) := #[]
  /-- The item each anchor number names. -/
  anchorTargets : List (Nat × Nat) := []
  /-- What stopped the stream inside the document. -/
  error : Option ReadError := none
deriving Inhabited

/-- A document being loaded, with the anchor names seen so far and their numbers. -/
structure Loading where
  doc : Document := {}
  names : List (String × Nat) := []

/-- Sets the value of a key in an association list, in place when the key is there. -/
def setEntry [BEq κ] (entries : List (κ × ν)) (k : κ) (v : ν) : List (κ × ν) :=
  if entries.any (·.1 == k) then entries.map fun (k', v') => if k' == k then (k', v) else (k', v')
  else entries ++ [(k, v)]

namespace Loading

/-- Numbers an anchor by the count of distinct names before it, naming the next item. -/
def anchorNext (l : Loading) : Option String → Loading
  | none => l
  | some name =>
    let id := l.names.length
    { names := setEntry l.names name id,
      doc := { l.doc with anchorTargets := setEntry l.doc.anchorTargets id l.doc.items.size } }

/-- Adds an item. -/
def add (l : Loading) (item : Item) (m : Mark) : Loading :=
  { l with doc := { l.doc with items := l.doc.items.push (item, m) } }

/-- Stops with an error. -/
def stop (l : Loading) (e : ReadError) : Document := { l.doc with error := some e }

end Loading

/-- Reads the events of one document. The first document of an empty stream is a single
void item; after the last document there is none. -/
def loadEvents (first : Bool) : Nat → Loading → Parser → Option Document × Parser
  | 0, l, p => (some l.doc, p)
  | fuel + 1, l, p =>
    match parseEvent.run p with
    | .error e => (some (l.stop (.malformed e)), p)
    | .ok (ev, p) =>
      match ev.kind with
      | .streamStart | .documentStart => loadEvents first fuel l p
      | .streamEnd =>
        if first then
          (some (if l.doc.items.isEmpty then (l.add .void ev.start).doc else l.doc), p)
        else (none, p)
      | .documentEnd => (some l.doc, p)
      | .alias name =>
        match l.names.lookup name with
        | some id => loadEvents first fuel (l.add (.alias id) ev.start) p
        | none => (some (l.stop (.unknownAnchor ev.start)), p)
      | .scalar anchor tag text style =>
        loadEvents first fuel ((l.anchorNext anchor).add (.scalar text style tag) ev.start) p
      | .sequenceStart anchor tag =>
        loadEvents first fuel ((l.anchorNext anchor).add (.sequenceStart tag) ev.start) p
      | .sequenceEnd => loadEvents first fuel (l.add .sequenceEnd ev.start) p
      | .mappingStart anchor tag =>
        loadEvents first fuel ((l.anchorNext anchor).add (.mappingStart tag) ev.start) p
      | .mappingEnd => loadEvents first fuel (l.add .mappingEnd ev.start) p

/-- Whether a stream goes on with another document after the one just read. -/
def hasAnotherDocument (p : Parser) : Bool :=
  match parseEvent.run p with
  | .error _ => true
  | .ok (ev, _) => ev.kind != .streamEnd

/-- The first document of a text, and whether another document follows it. A character the
stream may not hold stops it before its first event. -/
def loadFirstDocument (text : String) : Document × Bool :=
  match readerProblem text with
  | some e => ({ error := some (.malformed e) }, false)
  | none =>
    let parser : Parser := { scanner := Scanner.ofString text }
    let fuel := 16 * (text.length + 4)
    match loadEvents true fuel {} parser with
    | (some doc, p) => (doc, doc.error.isNone && hasAnotherDocument p)
    | (none, _) => ({}, false)

end CrudScaffold.Yaml
