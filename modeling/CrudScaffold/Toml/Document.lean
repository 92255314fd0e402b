import CrudScaffold.Toml.Reader
import CrudScaffold.Text.Basic

/-! A TOML document: statements read one after the other and assembled into nested tables.

Keys before the first header belong to the root table; a header `[a.b]` opens a table and
`[[a.b]]` appends a table to an array of tables. The assembly refuses what TOML refuses: a
key given twice, a table opened twice, a dotted key that runs through a value, and a dotted
key that reaches into a table opened by a header. A failure is reported with the line and
column where it happened and the line itself, with a caret under the column. -/

namespace CrudScaffold.Toml

/-- An entry of a table while the document is assembled. -/
inductive Item where
  /-- A value written after a key. -/
  | value (v : Value)
  /-- A table. It is `implicit` until a header opens it, and `dotted` when dotted keys made
  it. -/
  | table (implicit dotted : Bool) (entries : List (String × Item))
  /-- An array of tables, made by `[[...]]` headers. -/
  | tables (items : List (List (String × Item)))

/-- The entries of a table. -/
abbrev Entries := List (String × Item)

/-- Why the tables refuse a statement. -/
inductive TableError where
  /-- A key given twice; `table` is the path of the table named in the message, if any. -/
  | duplicateKey (key : String) (table : Option (List String))
  /-- A dotted key or a header path that runs into a value of the given type. -/
  | extendsValue (key : List String) (actual : String)

/-- The message of a table error. -/
def TableError.message : TableError → String
  | .duplicateKey key none => "duplicate key `" ++ key ++ "`"
  | .duplicateKey key (some []) => "duplicate key `" ++ key ++ "` in document root"
  | .duplicateKey key (some path) =>
    "duplicate key `" ++ key ++ "` in table `" ++ ".".intercalate path ++ "`"
  | .extendsValue key actual => extendMessage key actual

/-- Replaces the entry of a key. -/
def Entries.replace (es : Entries) (k : String) (item : Item) : Entries :=
  es.map fun e => if e.1 == k then (k, item) else e

/-- Removes the entry of a key. -/
def Entries.erase (es : Entries) (k : String) : Entries :=
  es.filter fun e => e.1 != k

/-- Follows `path` from a table, making missing tables (implicit, dotted as `dotted` says),
and changes the entries of the table reached by `f`, which is told whether that table is
dotted (`here` for the table the path starts at). An array of tables is entered at its last
table. A step onto a value fails; `whole` is the path as written and `depth` the steps taken. -/
def Entries.modifyAt {β : Type} (dotted : Bool) (whole : List String)
    (f : Bool → Entries → Except TableError (Entries × β)) :
    Nat → Bool → List String → Entries → Except TableError (Entries × β)
  | _, here, [], es => f here es
  | depth, _, k :: ks, es =>
    match es.find? (·.1 == k) with
    | none =>
      match Entries.modifyAt dotted whole f (depth + 1) dotted ks [] with
      | .ok (sub, b) => .ok (es ++ [(k, .table true dotted sub)], b)
      | .error e => .error e
    | some (_, .value v) => .error (.extendsValue (whole.take (depth + 1)) v.typeName)
    | some (_, .table imp dot sub) =>
      match Entries.modifyAt dotted whole f (depth + 1) dot ks sub with
      | .ok (sub', b) => .ok (es.replace k (.table imp dot sub'), b)
      | .error e => .error e
    | some (_, .tables ts) =>
      match Entries.modifyAt dotted whole f (depth + 1) false ks (ts.getLastD []) with
      | .ok (last, b) => .ok (es.replace k (.tables (ts.dropLast ++ [last])), b)
      | .error e => .error e

/-- The state of assembly: the root table, and the table the latest header opened, kept apart
until the next header. -/
structure Assembly where
  root : Entries := []
  current : Entries := []
  /-- The path of the latest header; empty before the first. -/
  currentPath : List String := []
  /-- Whether the latest header was `[[...]]`. -/
  currentIsArray : Bool := false

namespace Assembly

/-- Adds `key = v` to the open table. A dotted key makes dotted tables on its way and may only
reach a dotted table; the last key may not be present already. -/
def addPair (a : Assembly) (key : List String) (v : Value) : Except TableError Assembly :=
  let pre := key.dropLast
  let last := key.getLastD ""
  let place (here : Bool) (es : Entries) : Except TableError (Entries × Unit) :=
    if here == pre.isEmpty then .error (.duplicateKey last none)
    else if es.any (·.1 == last) then .error (.duplicateKey last (some a.currentPath))
    else .ok (es ++ [(last, .value v)], ())
  match Entries.modifyAt true pre place 0 false pre a.current with
  | .ok (es, ()) => .ok { a with current := es }
  | .error e => .error e

/-- Puts the open table into the root at its path. -/
def close (a : Assembly) : Except TableError Entries :=
  match a.currentPath.getLast?, a.currentPath.dropLast with
  | none, _ => .ok a.current
  | some key, parent =>
    let put (_ : Bool) (es : Entries) : Except TableError (Entries × Unit) :=
      if a.currentIsArray then
        match es.find? (·.1 == key) with
        | none => .ok (es ++ [(key, .tables [a.current])], ())
        | some (_, .tables ts) => .ok (es.replace key (.tables (ts ++ [a.current])), ())
        | some _ => .error (.duplicateKey key (some parent))
      else
        match es.find? (·.1 == key) with
        | none => .ok (es ++ [(key, .table false false a.current)], ())
        | some (_, .table true _ _) => .ok (es.replace key (.table false false a.current), ())
        | some _ => .error (.duplicateKey key (some parent))
    (Entries.modifyAt false parent put 0 false parent a.root).map (·.1)

/-- Opens the table of a header `[path]`: a table that only dotted keys or headers below it
made may be opened once; any other entry of that name refuses it. -/
def openTable (a : Assembly) (path : List String) : Except TableError Assembly := do
  let root ← a.close
  let key := path.getLastD ""
  let parent := path.dropLast
  let take (_ : Bool) (es : Entries) : Except TableError (Entries × Entries) :=
    match es.find? (·.1 == key) with
    | none => .ok (es, [])
    | some (_, .table true false sub) => .ok (es.erase key, sub)
    | some _ => .error (.duplicateKey key (some parent))
  let (root, current) ← Entries.modifyAt false parent take 0 false parent root
  pure { root, current, currentPath := path, currentIsArray := false }

/-- Opens a new table of the array of tables `[[path]]`. -/
def openArrayTable (a : Assembly) (path : List String) : Except TableError Assembly := do
  let root ← a.close
  let key := path.getLastD ""
  let parent := path.dropLast
  let check (_ : Bool) (es : Entries) : Except TableError (Entries × Unit) :=
    match es.find? (·.1 == key) with
    | none => .ok (es ++ [(key, .tables [])], ())
    | some (_, .tables _) => .ok (es, ())
    | some _ => .error (.duplicateKey key (some parent))
  let (root, ()) ← Entries.modifyAt false parent check 0 false parent root
  pure { root, current := [], currentPath := path, currentIsArray := true }

end Assembly

mutual

/-- The value of an assembled entry. -/
def Item.toValue : Item → Value
  | .value v => v
  | .table _ _ entries => .table (entriesToValue entries)
  | .tables ts => .array (tablesToValue ts)

/-- The values of assembled entries. -/
def entriesToValue : List (String × Item) → List (String × Value)
  | [] => []
  | (k, i) :: rest => (k, i.toValue) :: entriesToValue rest

/-- The tables of an array of tables. -/
def tablesToValue : List (List (String × Item)) → List Value
  | [] => []
  | es :: rest => .table (entriesToValue es) :: tablesToValue rest

end

/-- A failure to read a document: the number of characters before the place where it
happened, if it has one, and what went wrong. -/
structure ReadError where
  offset : Option Nat
  message : String

/-- A failure at the place of the input `s` within a text of `total` characters, refused by
the tables for the given reason, within the given label. -/
def tableFailure (s : List Char) (label : Option String) (e : TableError) : Failure :=
  let f := (Failure.here s).because e.message |>.commit
  match label with
  | some l => f.within l
  | none => f

/-- Reads the header after `[` or `[[` and opens its table. -/
def readHeader (a : Assembly) (start : List Char) (array : Bool) (s : List Char) :
    Reading Assembly :=
  match readKey s with
  | .error e => .error (e.within "table header" |>.commit)
  | .ok (path, rest) =>
    let closing := if array then [']', ']'] else [']']
    if closing.isPrefixOf rest then
      match lineEnd (rest.drop closing.length) with
      | .error e => .error (e.within "table header")
      | .ok ((), after) =>
        let opened := if array then a.openArrayTable path else a.openTable path
        match opened with
        | .ok a' => .ok (a', after)
        | .error e => .error (tableFailure start (some "table header") e)
    else
      let f := (Failure.here rest).expecting (.char '.')
      let f := if array then f.expecting (.word "]]") else f.expecting (.char ']')
      .error (f.within "table header" |>.commit)

/-- Reads `key = value` and the end of its line, and adds the pair. -/
def readPair (a : Assembly) (s : List Char) : Reading Assembly :=
  match readKey s with
  | .error e => .error e.commit
  | .ok (key, rest) =>
    match rest with
    | '=' :: more =>
      match readValue (more.length + 1) (skipBlank more) with
      | .error e => .error e.commit
      | .ok (v, after) =>
        match lineEnd after with
        | .error e => .error e
        | .ok ((), next) =>
          match a.addPair key v with
          | .ok a' => .ok (a', next)
          | .error e => .error (tableFailure s none e)
    | _ => .error ((Failure.here rest).expecting (.char '.') |>.expecting (.char '=') |>.commit)

/-- Reads statements until the input ends. -/
def readStatements : Nat → Assembly → List Char → Except Failure Assembly
  | 0, _, s => .error (Failure.here s |>.commit)
  | fuel + 1, a, s =>
    let s := skipBlank s
    match s with
    | [] => .ok a
    | '#' :: rest =>
      let after := rest.dropWhile isCommentChar
      match after with
      | [] => .ok a
      | _ =>
        match lineBreak? after with
        | some next => readStatements fuel a next
        | none => .error (Failure.here after |>.commit)
    | '\n' :: rest => readStatements fuel a rest
    | '\r' :: '\n' :: rest => readStatements fuel a rest
    | '\r' :: _ => .error (Failure.here s |>.commit)
    | '[' :: '[' :: rest =>
      match readHeader a s true rest with
      | .ok (a', next) => readStatements fuel a' next
      | .error e => .error e
    | '[' :: rest =>
      match readHeader a s false rest with
      | .ok (a', next) => readStatements fuel a' next
      | .error e => .error e
    | _ =>
      match readPair a s with
      | .ok (a', next) => readStatements fuel a' next
      | .error e => .error e

/-- Reads a TOML document into its root table. A byte order mark at the start is passed
over; places are still counted from the start of the text. -/
def readDocument (text : String) : Except ReadError Value :=
  let cs := text.toList
  let body := match cs with
    | '\uFEFF' :: rest => rest
    | _ => cs
  match readStatements (cs.length + 1) {} body with
  | .error f => .error ⟨some (cs.length - f.rest), f.message⟩
  | .ok a =>
    match a.close with
    | .ok root => .ok (.table (entriesToValue root))
    | .error e => .error ⟨none, e.message⟩

/-- The line and column of a place in a text, both counted from zero. The place past the end
counts as one column past the last character. A column is counted in characters, except at a
character of several bytes, where it is counted in bytes from the start of the line. -/
def linePosition (cs : List Char) (index : Nat) : Nat × Nat :=
  if cs.isEmpty then (0, index)
  else
    let safe := min index (cs.length - 1)
    let past := index - safe
    let before := cs.take safe
    let lineStart := match (before.reverse.findIdx? (· == '\n')) with
      | some k => safe - k
      | none => 0
    let line := (cs.take lineStart).count '\n'
    let atWide := past == 0 && (cs.getD safe ' ').utf8Size > 1
    let column :=
      if atWide then ((cs.drop lineStart).take (safe - lineStart)).foldl
        (fun n c => n + c.utf8Size) 0
      else safe - lineStart + past
    (line, column)

/-- How many carets mark a failure: as many as the bytes of the character at the place (at
least one, also past the end), but not past the end of the line counted in bytes from the
column. -/
def caretWidth (cs : List Char) (index : Nat) (content : String) (column : Nat) : Nat :=
  let width := match cs[index]? with
    | some c => c.utf8Size
    | none => 0
  max 1 (min width (content.utf8ByteSize - column))

/-- The message of a read failure: the place, the line with carets under the column, then
the reason, each on a line of its own. A failure without a place gives only the reason. -/
def ReadError.render (text : String) (e : ReadError) : String :=
  match e.offset with
  | none => e.message ++ "\n"
  | some index =>
    let (line, column) := linePosition text.toList index
    let lineNumber := toString (line + 1)
    let gutter := String.ofList (List.replicate (lineNumber.length + 1) ' ')
    let content := (Text.split text '\n').getD line ""
    let carets := caretWidth text.toList index content column
    "TOML parse error at line " ++ lineNumber ++ ", column " ++ toString (column + 1) ++ "\n" ++
      gutter ++ "|\n" ++
      lineNumber ++ " | " ++ content ++ "\n" ++
      gutter ++ "|" ++ String.ofList (List.replicate (column + 1) ' ') ++
      String.ofList (List.replicate carets '^') ++ "\n" ++
      e.message ++ "\n"

end CrudScaffold.Toml
