import CrudScaffold.Stub.Syntax
import CrudScaffold.Stub.Data
import CrudScaffold.Text.Quoted

/-! Stub templates, compiled: the parse of a template read into a tree of elements.

A template is a list of elements, each with the line and column where it starts: texts,
comments, values (`{{name}}`, `{{helper arg key=value}}`), blocks of a helper
(`{{#if x}} … {{else}} … {{/if}}`, also raw blocks `{{{{raw}}}} … {{{{/raw}}}}`), decorators
(`{{*name}}`, `{{#*inline "p"}} … {{/inline}}`) and inclusions of partial templates
(`{{> name}}`, `{{#> name}} … {{/name}}`). An else-branch that calls a helper
(`{{else if y}}`) becomes a block of that helper inside the second part of the block before.

Arguments are paths (`this`, `./a`, `../a`, `@root.a`, `@index`, `a.b`, `[a b]`), literals
read as JSON (`'text'` as a text in single quotes), and helper calls in parentheses. A literal
that does not read as JSON (`01`, `1.`, `1e400`) refuses the template.

White space follows the tags:

* the parser skips white space between the parts of a template; what lies between two parts
  is kept as text, except after a tag that ends in `~`;
* `{{~` trims all white space at the end of the text before the tag, `~}}` all white space at
  the start of the text after it;
* a block tag, else tag, comment, decorator or inclusion that stands alone on its line (only
  blanks and tabs between it and the line break before it, or the start of the template, and
  between it and a line break after it, or the end of the template) takes the blanks before it
  and the blanks and line break after it; an inclusion keeps the blanks before it, and they
  indent the partial's lines;
* `\{{` stands for `{{`: the backslash of an escape is dropped, except in a raw block, whose
  text is kept as written from its first character that is not white space.

A block must be closed by the name that opened it. -/

namespace CrudScaffold.Stub

open Syntax (Rule Pair)

/-- A step of a path: a key, `@root`, `..`, or the `@` that starts a block variable. -/
inductive Step where
  | key (name : String)
  | root
  | up
  | data
deriving Repr, DecidableEq

/-- A path as a template writes it. -/
inductive PathRef where
  /-- Steps into the data, with the path's text. -/
  | steps (steps : List Step) (text : String)
  /-- A block variable such as `@index` of the block `level` blocks out, with the path's
  text. -/
  | blockVar (level : Nat) (name : String) (text : String)
deriving Repr

/-- An argument of a tag. -/
inductive Param where
  /-- A bare word: a helper's name. -/
  | word (text : String)
  | path (p : PathRef)
  | literal (v : Value)
  /-- A helper called in parentheses. -/
  | call (head : Param) (args : List Param) (hash : List (String × Param))
deriving Inhabited

/-- The content of a tag: what it calls, its arguments by position and by name, its block
parameters (`as |item key|`) and its white space controls. -/
structure Tag where
  head : Param
  args : List Param := []
  hash : List (String × Param) := []
  blockParams : Option (String × Option String) := none
  trimBefore : Bool := false
  trimAfter : Bool := false
deriving Inhabited

/-- The name a tag's head gives when it is a word or a path: the name a closing tag
repeats. -/
def Param.label : Param → String
  | .word s => s
  | .path (.steps _ t) => t
  | .path (.blockVar _ _ t) => t
  | _ => ""

/-- A part of a template. Every part inside a template is paired with the line and column
where it starts, when that is recorded. -/
inductive Element where
  | text (s : String)
  | comment
  /-- A value or an inline helper call. -/
  | value (tag : Tag)
  /-- A block of a helper, with its first part and its second part, if any. -/
  | block (tag : Tag) (body : List (Element × Option (Nat × Nat)))
      (inverse : Option (List (Element × Option (Nat × Nat))))
  /-- A decorator, with its block if it has one. -/
  | decorator (tag : Tag) (body : Option (List (Element × Option (Nat × Nat))))
  /-- An inclusion of a partial template, with the block to use when the partial is missing,
  and the blanks that indent it. -/
  | inclusion (tag : Tag) (body : Option (List (Element × Option (Nat × Nat))))
      (indent : Option String)
deriving Inhabited

/-- A template: its elements, each with the line and column where it starts. -/
abbrev Template := List (Element × Option (Nat × Nat))

/-- Why a template is refused, and where (a character offset, if there is a place). -/
structure TemplateError where
  reason : String
  offset : Option Nat
deriving Repr

/-! ## The parse as a tree -/

/-- A pair of the parse with the pairs inside it. -/
inductive Node where
  | mk (pair : Pair) (children : List Node)
deriving Inhabited

/-- The pair of a node. -/
def Node.pair : Node → Pair
  | .mk p _ => p

/-- The nodes inside a node. -/
def Node.children : Node → List Node
  | .mk _ cs => cs

/-- The rule of a node. -/
def Node.rule (n : Node) : Rule := n.pair.rule

/-- Reads the nodes that start before `limit` from pairs in the order they began; the rest
follows. -/
def forest : Nat → List Pair → Nat → List Node × List Pair
  | 0, ps, _ => ([], ps)
  | _ + 1, [], _ => ([], [])
  | fuel + 1, p :: ps, limit =>
    if p.start < limit then
      let (children, rest) := forest fuel ps p.stop
      let (siblings, rest) := forest fuel rest limit
      (.mk p children :: siblings, rest)
    else ([], p :: ps)

mutual

/-- The pairs of a node and all inside it, in order. -/
def Node.flatten : Node → List Pair
  | .mk p cs => p :: flattenAll cs

/-- The pairs of nodes and all inside them, in order. -/
def flattenAll : List Node → List Pair
  | [] => []
  | n :: ns => n.flatten ++ flattenAll ns

end

section Reading

variable (src : Array Char)

/-- The characters from `start` up to `stop`. -/
def slice (start stop : Nat) : String := String.ofList (src.extract start stop).toList

/-- The text a pair spans. -/
def Syntax.Pair.text (p : Pair) : String := slice src p.start p.stop

/-- The steps of a path from the pairs of its text. `this` is no step. -/
def pathSteps (ps : List Pair) : List Step :=
  ps.filterMap fun p => match p.rule with
    | .pathRoot => some .root
    | .pathLocal => some .data
    | .pathUp => some .up
    | .pathId | .pathRawId =>
      let t := p.text src
      if t == "this" then none else some (.key t)
    | _ => none

/-- A path from its steps: `@` and then `..`s before a key name a block variable. -/
def PathRef.ofSteps (steps : List Step) (text : String) : PathRef :=
  match steps with
  | .data :: rest =>
    let ups := (rest.takeWhile (· == Step.up)).length
    match rest.drop ups with
    | .key name :: _ => .blockVar ups name text
    | _ => .steps steps text
  | _ => .steps steps text

/-- The characters of a literal in single quotes as they stand in double quotes: `\'` is a
quote, and a double quote is escaped. -/
def requoted : List Char → List Char
  | '\\' :: '\'' :: rest => '\'' :: requoted rest
  | '"' :: rest => '\\' :: '"' :: requoted rest
  | c :: rest => c :: requoted rest
  | [] => []

/-- The value of a literal pair; its text when it does not read as JSON. -/
def literalParam (n : Node) : Except String Param :=
  let text := n.pair.text src
  let read := match n.children with
    | .mk s [.mk inner []] :: _ =>
      if s.rule == Rule.stringLiteral && inner.rule == Rule.stringInnerSingleQuote then
        Literal.read? ("\"" ++ String.ofList (requoted (inner.text src).toList) ++ "\"")
      else Literal.read? text
    | _ => Literal.read? text
  match read with
  | some v => .ok (.literal v)
  | none => .error text

mutual

/-- An argument from its pair: a literal, a path or a helper call; the text of a literal that
does not read as JSON is the error. `fuel` bounds the nesting. -/
def readParam : Nat → Node → Except String Param
  | 0, _ => .ok (.word "")
  | fuel + 1, n =>
    match n.rule with
    | .helperParameter =>
      match n.children with
      | c :: _ => readParam fuel c
      | [] => .ok (.word "")
    | .literal => literalParam src n
    | .reference =>
      .ok (.path (PathRef.ofSteps (pathSteps src (flattenAll n.children)) (n.pair.text src)))
    | .subexpression => do
      let t ← readTag fuel n.children
      pure (.call t.head t.args t.hash)
    | _ => .ok (.word (n.pair.text src))

/-- A tag from the pairs inside it: an optional `~`, the head, then arguments, named
arguments, block parameters and an optional `~`. -/
def readTag : Nat → List Node → Except String Tag
  | 0, _ => .ok default
  | fuel + 1, ns =>
    let (trimBefore, ns) := match ns with
      | n :: rest => if n.rule == Rule.leadingTilde then (true, rest) else (false, ns)
      | [] => (false, [])
    match ns with
    | [] => .ok { head := .word "", trimBefore }
    | h :: rest => do
      let head ← match h.rule with
        | .reference | .subexpression => readParam fuel h
        | _ => pure (.word (h.pair.text src))
      readParts fuel rest { head, trimBefore }

/-- Adds the parts after a tag's head. A later named argument replaces an earlier one of the
same name. -/
def readParts : Nat → List Node → Tag → Except String Tag
  | 0, _, t => .ok t
  | _ + 1, [], t => .ok t
  | fuel + 1, n :: rest, t => do
    let t ← match n.rule with
      | .helperParameter => do
        let p ← readParam fuel n
        pure { t with args := t.args ++ [p] }
      | .hash =>
        match n.children with
        | k :: v :: _ => do
          let key := k.pair.text src
          let value ← readParam fuel v
          if t.hash.any (·.1 == key) then
            pure { t with hash := t.hash.map fun (k', p) => if k' == key then (k', value) else (k', p) }
          else pure { t with hash := t.hash ++ [(key, value)] }
        | _ => pure t
      | .blockParam =>
        match n.children with
        | [a] => pure { t with blockParams := some (a.pair.text src, none) }
        | a :: b :: _ =>
          pure { t with blockParams := some (a.pair.text src, some (b.pair.text src)) }
        | [] => pure t
      | .trailingTilde => pure { t with trimAfter := true }
      | _ => pure t
    readParts fuel rest t

end

end Reading

/-! ## White space -/

/-- Whether a character is a blank or a tab. -/
def isBlankOrTab (c : Char) : Bool := c == ' ' || c == '\t'

/-- Whether a character breaks a line. -/
def isLineBreak (c : Char) : Bool := c == '\n' || c == '\r'

/-- The first place from `i` on that holds no blank or tab; `fuel` bounds the steps. -/
def blanksEnd (src : Array Char) : Nat → Nat → Nat
  | 0, i => i
  | fuel + 1, i =>
    match src[i]? with
    | some c => if isBlankOrTab c then blanksEnd src fuel (i + 1) else i
    | none => i

/-- The start of the run of blanks and tabs that ends at `i`; `fuel` bounds the steps. -/
def blanksStart (src : Array Char) : Nat → Nat → Nat
  | 0, i => i
  | fuel + 1, i =>
    match i with
    | 0 => 0
    | j + 1 => if src[j]?.any isBlankOrTab then blanksStart src fuel j else i

/-- Whether the text after `stop` starts with blanks and then a line break, or is empty. -/
def lineEndsAfter (src : Array Char) (stop : Nat) : Bool :=
  stop ≥ src.size || (src[blanksEnd src src.size stop]?).any isLineBreak

/-- Whether the text before `start` is empty or ends with a line break and then blanks. -/
def lineStartsBefore (src : Array Char) (start : Nat) : Bool :=
  match blanksStart src start start with
  | 0 => true
  | j + 1 => src[j]?.any isLineBreak

/-- Drops the blanks and tabs at the start of a text, then one line break. -/
def dropLineHead (s : String) : String :=
  match s.toList.dropWhile isBlankOrTab with
  | '\r' :: '\n' :: rest => String.ofList rest
  | '\n' :: rest => String.ofList rest
  | rest => String.ofList rest

/-- Drops the blanks and tabs at the end of a text. -/
def dropLineTail (s : String) : String :=
  String.ofList (s.toList.reverse.dropWhile isBlankOrTab).reverse

/-- Drops the white space at the end of a text. -/
def dropBlankTail (s : String) : String :=
  String.ofList (Text.dropBlank s.toList.reverse).reverse

/-- A text between tags, trimmed: all white space at its start after a `~}}`, else the rest of
a line after a tag standing alone. -/
def trimmedText (s : String) (afterTilde afterAlone : Bool) : String :=
  if afterTilde then String.ofList (Text.dropBlank s.toList)
  else if afterAlone then dropLineHead s
  else s

/-! ## Compiling -/

/-- A helper block being read. -/
structure OpenHelper where
  tag : Tag
  place : Nat × Nat
  /-- The parts read so far, the latest first, each with the tag of the helper it belongs
  to (none for a plain else-branch). -/
  done : List (Option Tag × Template)
  /-- The helper of the part being read, none in a plain else-branch. -/
  current : Option Tag

/-- A decorator block or partial block being read. -/
structure OpenDecorator where
  tag : Tag
  place : Nat × Nat
  inclusion : Bool

/-- The state of compiling: the templates being read (the innermost first, each with its
elements the latest first), the open blocks, whether the last tag ended in `~`, whether
the last tag stood alone on its line, and where the last part ended. -/
structure Builder where
  stack : List Template := [[]]
  helpers : List OpenHelper := []
  decorators : List OpenDecorator := []
  omitAfter : Bool := false
  trimLine : Bool := false
  lastEnd : Nat := 0
  /-- A place already passed, with its line and column. -/
  cursor : Nat × Nat × Nat := (0, 1, 1)

/-- The second part of a block from the parts after the first: a helper's part becomes a
block of that helper, a plain else-branch stays as it is. -/
def chainOf : List (Option Tag × Template) → Option Template
  | [] => none
  | (none, body) :: _ => some body
  | (some t, body) :: rest => some [(.block t body (chainOf rest), none)]

namespace Builder

/-- Adds an element to the innermost template. -/
def push (b : Builder) (e : Element) (place : Nat × Nat) : Builder :=
  match b.stack with
  | t :: ts => { b with stack := ((e, some place) :: t) :: ts }
  | [] => { b with stack := [[(e, some place)]] }

/-- Takes the innermost template off the stack. -/
def pop (b : Builder) : Template × Builder :=
  match b.stack with
  | t :: ts => (t.reverse, { b with stack := ts })
  | [] => ([], b)

/-- Changes the last element of the innermost template when it is a text. -/
def mapLastText (b : Builder) (f : String → String) : Builder :=
  match b.stack with
  | ((.text s, place) :: es) :: ts => { b with stack := ((.text (f s), place) :: es) :: ts }
  | _ => b

/-- Notes whether the tag from `start` to `stop` stands alone on its line; when it does and
`trimBefore`, the blanks before it are dropped. -/
def standAlone (b : Builder) (src : Array Char) (start stop : Nat) (trimBefore : Bool) :
    Builder :=
  if lineEndsAfter src stop then
    let leading := lineStartsBefore src start
    let b := if trimBefore && leading then b.mapLastText dropLineTail else b
    { b with trimLine := leading }
  else { b with trimLine := false }

/-- Applies a tag's white space controls: `{{~` trims the text before it, and `~}}` is
remembered for the text after it. -/
def controls (b : Builder) (t : Tag) : Builder :=
  let b := if t.trimBefore then b.mapLastText dropBlankTail else b
  { b with omitAfter := t.trimAfter }

end Builder

/-- Moves a place with its line and column on to `target`: a line feed starts a line. -/
def advance (src : Array Char) : Nat → Nat × Nat × Nat → Nat → Nat × Nat × Nat
  | 0, c, _ => c
  | fuel + 1, (i, line, column), target =>
    if i < target then
      if src[i]? == some '\n' then advance src fuel (i + 1, line + 1, 1) target
      else advance src fuel (i + 1, line, column + 1) target
    else (i, line, column)

/-- The line (from one) and column (from one) of an offset. -/
def lineColumn (cs : List Char) (offset : Nat) : Nat × Nat :=
  let before := cs.take offset
  let line := before.count '\n' + 1
  let column := (before.reverse.takeWhile (· != '\n')).length + 1
  (line, column)

/-- The text of raw text from `start` up to `stop`, without the backslash that starts each
escape among `escapes`. -/
def unescaped (src : Array Char) (start stop : Nat) (escapes : List Pair) : String :=
  let drop := escapes.map (·.start)
  String.ofList (((List.range (stop - start)).map (start + ·)).filterMap fun i =>
    if drop.contains i then none else src[i]?)

/-- The error for a block closed by another name. -/
def mismatch (kind opened closing : String) (offset : Nat) : TemplateError :=
  ⟨kind ++ " " ++ Text.quoted opened ++ " was opened, but " ++ Text.quoted closing ++ " is closing",
    some offset⟩

/-- Reads the pairs of a parse into a template; `fuel` bounds the steps. -/
def build (src : Array Char) : Nat → Builder → List Pair → Except TemplateError Template
  | 0, b, _ => .ok b.pop.1
  | _ + 1, b, [] => .ok b.pop.1
  | fuel + 1, b, p :: rest =>
    if p.rule == Rule.escape then build src fuel b rest
    else
    let cursor := advance src (p.start + 1) b.cursor p.start
    let place := (cursor.2.1, cursor.2.2)
    let b := { b with cursor }
    let prevEnd := b.lastEnd
    -- the white space the parser skipped before this part is text again
    let b :=
      if p.rule != Rule.template && p.start != prevEnd && !b.omitAfter && p.rule != Rule.rawText &&
          p.rule != Rule.rawBlockText then
        { b.push (.text (trimmedText (slice src prevEnd p.start) false b.trimLine)) place with
          trimLine := false }
      else b
    let inner := rest.takeWhile (·.start < p.stop)
    let after := rest.drop inner.length
    let tagOf (ps : List Pair) : Except TemplateError Tag :=
      (readTag src (ps.length + 1) (forest (ps.length + 1) ps p.stop).1).mapError
        fun text => ⟨"invalid parameter " ++ Text.quoted text, none⟩
    let next (b : Builder) (rest : List Pair) : Except TemplateError Template :=
      build src fuel { b with lastEnd := if p.rule == Rule.template then b.lastEnd else p.stop }
        rest
    match p.rule with
    | .template => next { b with stack := [] :: b.stack } rest
    | .rawText =>
      let start := if p.start != prevEnd then prevEnd else p.start
      let text := trimmedText (unescaped src start p.stop inner) b.omitAfter b.trimLine
      next { b.push (.text text) place with trimLine := false } after
    | .rawBlockText =>
      let text := trimmedText (slice src p.start p.stop) b.omitAfter b.trimLine
      next ({ b with stack := [] :: b.stack }.push (.text text) place) after
    | .helperBlockStart | .rawBlockStart | .decoratorBlockStart | .partialBlockStart => do
      let t ← tagOf inner
      let b := (b.controls t).standAlone src p.start p.stop true
      let b := if p.rule == Rule.helperBlockStart || p.rule == Rule.rawBlockStart then
          { b with helpers := ⟨t, place, [], some t⟩ :: b.helpers }
        else
          { b with decorators := ⟨t, place, p.rule == Rule.partialBlockStart⟩ :: b.decorators }
      next b after
    | .invertTag | .invertChainTag => do
      let ps := if p.rule == Rule.invertChainTag then inner.filter (·.rule != Rule.invertTagItem)
        else inner
      let t ← tagOf ps
      let b := (b.controls t).standAlone src p.start p.stop true
      let (body, b) := b.pop
      match b.helpers with
      | h :: hs =>
        let h := { h with done := (h.current, body) :: h.done,
                          current := if p.rule == Rule.invertChainTag then some t else none }
        next { b with helpers := h :: hs } after
      | [] => next b after
    | .expression | .htmlExpression => do
      let t ← tagOf inner
      next ((b.controls t).push (.value t) place) after
    | .decoratorExpression | .partialExpression => do
      let t ← tagOf inner
      let inclusion := p.rule == Rule.partialExpression
      let b := (b.controls t).standAlone src p.start p.stop (!inclusion)
      let indent :=
        if inclusion && !t.trimBefore then
          let from_ := blanksStart src p.start p.start
          if from_ == p.start then none else some (slice src from_ p.start)
        else none
      let e := if inclusion then Element.inclusion t none indent else .decorator t none
      next (b.push e place) after
    | .helperBlockEnd | .rawBlockEnd => do
      let t ← tagOf inner
      let b := (b.controls t).standAlone src p.start p.stop true
      match b.helpers with
      | h :: hs =>
        if h.tag.head.label == t.head.label then
          let (body, b) := b.pop
          let e := match ((h.current, body) :: h.done).reverse with
            | (_, first) :: later => Element.block h.tag first (chainOf later)
            | [] => .block h.tag [] none
          next ({ b with helpers := hs }.push e h.place) after
        else .error (mismatch "helper" h.tag.head.label t.head.label p.start)
      | [] => next b after
    | .decoratorBlockEnd | .partialBlockEnd => do
      let t ← tagOf inner
      let b := (b.controls t).standAlone src p.start p.stop true
      match b.decorators with
      | d :: ds =>
        let (body, b) := b.pop
        if d.tag.head.label == t.head.label then
          let e := if d.inclusion then Element.inclusion d.tag (some body) none
            else .decorator d.tag (some body)
          next ({ b with decorators := ds }.push e d.place) after
        else .error (mismatch "decorator" d.tag.head.label t.head.label p.start)
      | [] => next b after
    | .hbsComment | .hbsCommentCompact =>
      next ((b.standAlone src p.start p.stop true).push .comment place) after
    | _ => next b rest

/-- Compiles a template: it must follow the template grammar, every literal must read as
JSON, and each block must be closed by its own name. -/
def compile (source : String) : Except TemplateError Template :=
  let src := source.toList.toArray
  match Syntax.parse src with
  | .error (offset, report) => .error ⟨"invalid handlebars syntax: " ++ report, some offset⟩
  | .ok pairs => build src (pairs.length + 1) { stack := [] } pairs

/-- The lines around a place, numbered from zero, with a marker line under the line of the
place pointing one column past it. Lines end at line feeds; a carriage return before a line
feed belongs to the line break. -/
def segment (source : String) (line column : Nat) : String :=
  let pieces := Text.split source '\n'
  let lines := pieces.zipIdx.map fun (l, i) =>
    if i + 1 < pieces.length && l.endsWith "\r" then String.ofList l.toList.dropLast else l
  let lines := if source.endsWith "\n" then lines.dropLast else lines
  let first := line - min line 3
  let numbered := (lines.zipIdx).filter fun (_, i) => first ≤ i && i ≤ line + 3
  String.join (numbered.map fun (content, i) =>
    let n := toString i
    let row := String.ofList (List.replicate (4 - min 4 n.length) ' ') ++ n ++ " | " ++
      content ++ "\n"
    if i + 1 == line then
      row ++ "     |" ++ String.ofList ((List.range content.utf8ByteSize).map fun c =>
        if c == column then '^' else '-') ++ "\n"
    else row)

/-- The message of a refused template. -/
def TemplateError.message (source : String) (e : TemplateError) : String :=
  match e.offset with
  | none => "Failed to parse template " ++ e.reason
  | some offset =>
    let (line, column) := lineColumn source.toList offset
    "Failed to parse template Template error: " ++ e.reason ++ "\n" ++
      "    --> Template error in \"Unnamed\":" ++ toString line ++ ":" ++
      toString column ++ "\n" ++
      "     |\n" ++ segment source line column ++ "     |\n" ++
      "     = reason: " ++ e.reason ++ "\n"

end CrudScaffold.Stub
