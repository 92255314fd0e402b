import CrudScaffold.Yaml.Scalar

/-! Reading typed values from a loaded document.

A reader walks the items of the document with a cursor. An alias is read by reading the item
its anchor names, with a second cursor, and the number of aliases followed is bounded by a
hundred times the number of items. Collections may nest 128 deep. An error about a value is
given the position and path of the innermost value being read when it arose; the path names
map keys joined by `.` and sequence positions in brackets.

A value whose type is decided by trying several shapes is first read as `Content`, the
document's value without a type, and the shapes are tried on that. -/

namespace CrudScaffold.Yaml

/-- Where a value sits in the document. -/
inductive Path where
  | root
  | index (parent : Path) (i : Nat)
  | key (parent : Path) (name : String)
  | alias (parent : Path)
  /-- The value of a key that is not a scalar. -/
  | unknown (parent : Path)
deriving Repr, Inhabited

/-- How messages write a path: `.` for the root. -/
def Path.render : Path → String
  | .root => "."
  | .index p i => p.render ++ "[" ++ toString i ++ "]"
  | .key .root k => k
  | .key p k => p.render ++ "." ++ k
  | .alias p => p.render
  | .unknown .root => "?"
  | .unknown p => p.render ++ ".?"

/-- A value read without a type. -/
inductive Content where
  | bool (b : Bool)
  | unsigned (n : Nat)
  | signed (i : Int)
  | float (x : Float)
  | string (s : String)
  /-- A null scalar. -/
  | unit
  /-- The value of an empty stream. -/
  | absent
  | seq (items : List Content)
  | map (entries : List (Content × Content))
deriving Inhabited

/-- The content of a scalar. Integers too wide for 64 bits have no content. -/
def ScalarValue.content : ScalarValue → Except ReadError Content
  | .null => .ok .unit
  | .bool b => .ok (.bool b)
  | .unsigned n => .ok (.unsigned n)
  | .signed i => .ok (.signed i)
  | .float x => .ok (.float x)
  | .text s => .ok (.string s)
  | .wideUnsigned n => .error (invalidType (ScalarValue.wideUnsigned n).describe "any value")
  | .wideSigned i => .error (invalidType (ScalarValue.wideSigned i).describe "any value")
  | .mistyped s e => .error (invalidValue ("string " ++ Text.quoted s) e)

/-- Whether a tag names a variant (a local tag such as `!name`), which typeless content cannot
hold. -/
def isVariantTag : Option String → Bool
  | some t => t.startsWith "!"
  | none => false

/-- The error for a variant tag on typeless content. -/
def variantInput : ReadError :=
  .message "untagged and internally tagged enums do not support enum input" none

/-- The position of a reader in a document, and how many aliases it has followed. -/
structure Cursor where
  pos : Nat := 0
  jumps : Nat := 0

/-- Reading steps over a document. -/
abbrev Reading := StateT Cursor (Except ReadError)

/-- Whether an item stands for an absent optional value: a plain scalar that is empty or a
null word, or under the tag `!!null` a null word; the void item of an empty stream too. A
plain scalar under `!!null` that is no null word is refused. Any other item is present. -/
def Item.isNull : Item → Except ReadError Bool
  | .scalar text style tag =>
    if style != .plain then .ok false
    else match tag with
      | none => .ok (text.isEmpty || isNullWord text)
      | some t =>
        if t != nullTag then .ok false
        else if isNullWord text then .ok true
        else .error (invalidValue ("string " ++ Text.quoted text) "null")
  | .void => .ok true
  | _ => .ok false

section

variable (doc : Document)

/-- The next item; past the last one, the error that stopped the document. -/
def peekItem : Reading (Item × Mark) := do
  match doc.items[(← get).pos]? with
  | some im => pure im
  | none => throw (doc.error.getD .endOfStream)

/-- Takes the next item. -/
def nextItem : Reading (Item × Mark) := do
  let im ← peekItem doc
  modify fun c => { c with pos := c.pos + 1 }
  return im

/-- Reads the item an anchor names with `k`, then comes back. -/
def followAlias (id : Nat) (k : Reading α) : Reading α := do
  let c ← get
  let jumps := c.jumps + 1
  if jumps > doc.items.size * 100 then throw .repetitionLimit
  match doc.anchorTargets.lookup id with
  | none => throw .repetitionLimit
  | some target =>
    set { c with pos := target, jumps }
    let r ← k
    modify fun c' => { c' with pos := c.pos }
    return r

/-- Places the errors of `k` that have no position yet at a value's position and path. -/
def placed (m : Mark) (path : Path) (k : Reading α) : Reading α :=
  tryCatch k fun e => throw (e.place m path.render)

/-- One level deeper into collections. -/
def descend (depth : Nat) (m : Mark) : Reading Nat :=
  if depth == 0 then throw (.recursionLimit m) else pure (depth - 1)

/-- Reads a value from its item with `k`, following an alias to the item it names. -/
def readItem (path : Path) (k : Item → Mark → Path → Reading α) : Reading α := do
  let (item, m) ← nextItem doc
  match item with
  | .alias id => followAlias doc id do
      let (item, m) ← nextItem doc
      k item m (.alias path)
  | _ => k item m path

/-- Reads an optional value: none when the item is null. -/
def readPresent (path : Path) (inner : Path → Reading α) : Reading (Option α) := do
  let (item, _) ← peekItem doc
  let absent ← match item.isNull with
    | .ok b => pure b
    | .error e => throw e
  if absent then
    modify fun c => { c with pos := c.pos + 1 }
    return none
  return some (← inner path)

/-- Reads an optional value, following an alias first. -/
def readOption (path : Path) (inner : Path → Reading α) : Reading (Option α) := do
  let (item, _) ← peekItem doc
  match item with
  | .alias id =>
    modify fun c => { c with pos := c.pos + 1 }
    followAlias doc id (readPresent doc (.alias path) inner)
  | _ => readPresent doc path inner

/-- Reads a scalar as text, whatever it looks like. -/
def readString (expected : String) (path : Path) : Reading String :=
  readItem doc path fun item m path => placed m path do
    match item with
    | .scalar text _ _ => pure text
    | _ => throw (unexpectedItem item expected)

/-- Reads a boolean: a plain scalar that is a boolean word, whatever its tag. -/
def readBool (path : Path) : Reading Bool :=
  readItem doc path fun item m path => placed m path do
    match item with
    | .scalar text .plain _ =>
      match boolWord text with
      | some b => pure b
      | none => throw (unexpectedItem item "a boolean")
    | _ => throw (unexpectedItem item "a boolean")

/-- Skips a value, nested collections and all. -/
def skipValue : Nat → Nat → Reading Unit
  | 0, _ => pure ()
  | fuel + 1, level => do
    let (item, _) ← nextItem doc
    let level := match item with
      | .sequenceStart _ | .mappingStart _ => level + 1
      | .sequenceEnd | .mappingEnd => level - 1
      | _ => level
    if level == 0 then pure () else skipValue fuel level

/-- Reads the entries of a mapping up to its end with `entry`, which reads one key and its
value given the mapping's path and the value's path. -/
def readEntries (entry : α → Path → Path → Nat → Reading α) (path : Path) (depth : Nat) :
    Nat → α → Reading α
  | 0, acc => pure acc
  | fuel + 1, acc => do
    let (item, _) ← peekItem doc
    match item with
    | .mappingEnd | .void => pure acc
    | .scalar key _ _ => readEntries entry path depth fuel (← entry acc path (.key path key) depth)
    | _ => readEntries entry path depth fuel (← entry acc path (.unknown path) depth)

/-- Reads a mapping entry by entry. An empty plain scalar reads as an empty mapping. -/
def readMapping (expected : String) (init : α) (entry : α → Path → Path → Nat → Reading α)
    (path : Path) (depth : Nat) : Reading α :=
  readItem doc path fun item m path => placed m path do
    match item with
    | .mappingStart _ =>
      let depth ← descend depth m
      let acc ← readEntries doc entry path depth (doc.items.size + 1) init
      let _ ← nextItem doc
      pure acc
    | .scalar "" .plain _ | .void => pure init
    | _ => throw (unexpectedItem item expected)

mutual

/-- Reads a value without a type. -/
def readContent : Nat → Path → Nat → Reading Content
  | 0, _, _ => throw (.recursionLimit {})
  | fuel + 1, path, depth => do
    let (item, m) ← nextItem doc
    placed m path do
      match item with
      | .alias id => followAlias doc id (readContent fuel (.alias path) depth)
      | .scalar text style tag =>
        if isVariantTag tag then throw variantInput
        match (scalarValue text style tag).content with
        | .ok c => pure c
        | .error e => throw e
      | .sequenceStart tag =>
        if isVariantTag tag then throw variantInput
        let depth ← descend depth m
        let items ← readContentItems fuel path depth (doc.items.size + 1) 0
        let _ ← nextItem doc
        pure (.seq items)
      | .mappingStart tag =>
        if isVariantTag tag then throw variantInput
        let depth ← descend depth m
        let entries ← readContentEntries fuel path depth (doc.items.size + 1)
        let _ ← nextItem doc
        pure (.map entries)
      | .void => pure .absent
      | .sequenceEnd | .mappingEnd => throw .endOfStream
  termination_by fuel _ _ => (fuel, 0, 0)

/-- Reads the items of a sequence without a type, up to its end. -/
def readContentItems (fuel : Nat) (path : Path) (depth : Nat) : Nat → Nat → Reading (List Content)
  | 0, _ => pure []
  | rest + 1, i => do
    let (item, _) ← peekItem doc
    match item with
    | .sequenceEnd | .void => pure []
    | _ =>
      let c ← readContent fuel (.index path i) depth
      let cs ← readContentItems fuel path depth rest (i + 1)
      pure (c :: cs)
  termination_by rest _ => (fuel, 1, rest)

/-- Reads the entries of a mapping without a type, up to its end. -/
def readContentEntries (fuel : Nat) (path : Path) (depth : Nat) :
    Nat → Reading (List (Content × Content))
  | 0 => pure []
  | rest + 1 => do
    let (item, _) ← peekItem doc
    let valuePath := match item with
      | .scalar key _ _ => Path.key path key
      | _ => .unknown path
    match item with
    | .mappingEnd | .void => pure []
    | _ =>
      let k ← readContent fuel path depth
      let v ← readContent fuel valuePath depth
      let es ← readContentEntries fuel path depth rest
      pure ((k, v) :: es)
  termination_by rest => (fuel, 1, rest)

end

end

/-- Reads the first document of a text with a reader. The stream's error counts even when
the reader did not reach it, and a second document is refused. -/
def readDocument (text : String) (read : Document → Reading α) : Except ReadError α :=
  let (doc, more) := loadFirstDocument text
  match (read doc).run' {} with
  | .error e => .error e
  | .ok v =>
    match doc.error with
    | some e => .error e
    | none => if more then .error .moreThanOneDocument else .ok v

end CrudScaffold.Yaml
