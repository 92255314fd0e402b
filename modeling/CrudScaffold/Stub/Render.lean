import CrudScaffold.Stub.Template
import CrudScaffold.Stub.Compiled

/-! Rendering a compiled stub template with a map of texts. Nothing is escaped: the output
is code.

* A value `{{path}}` writes the value's text, or nothing when the path leads nowhere. A path
  walks from the value in scope, `../` from the value of the enclosing block, `@root` from
  the map; a block parameter or a block variable (`@index`, `@key`, `@first`, `@last`) is
  looked up by name. An array is walked by index, and a key that is no index is an error.
* The helpers: `if` and `unless` choose a part by the truth of their argument (`includeZero`
  counts zero as true), `each` renders its first part once for each item of an array or entry
  of an object (in key order) and its second part for anything else or an empty collection
  with a second part, `with` renders its first part with the argument in scope when it is
  true, `raw` renders its first part, `log` writes nothing, and `lookup`, `eq`, `ne`, `gt`,
  `gte`, `lt`, `lte`, `and`, `or` (of any number of arguments), `not` and `len` compute a
  value. Opened as a block, a helper that computes true or false renders its first or its
  second part; one that computes any other value writes it. A helper call in parentheses
  gives its value; the block helpers give the empty text there.
* `{{#*inline "name"}} … {{/inline}}` defines a partial template for the rest of the
  rendering; `{{> name}}` renders it (or, in a partial block, the block when there is no such
  partial), in the scope of its first argument when that lies in the data, with its named
  arguments added to the scope; the blanks before a lone inclusion indent each further line
  it writes.

A failure names the line and column of the innermost part of the template where it arose. -/

namespace CrudScaffold.Stub

/-- What a block parameter holds: a value, or a place in the data relative to its block's
path. -/
inductive Holder where
  | value (v : Value)
  | place (path : List String)

/-- A block in scope: where its values come from (a path into the data, or a value of its
own), its block parameters and its block variables. -/
structure Frame where
  basePath : List String := []
  baseValue : Option Value := none
  params : List (String × Holder) := []
  locals : List (String × Value) := []

/-- A value a template computes: its value (null when missing), the path that named it,
and the place in the data it came from. -/
structure Argument where
  value : Value := .null
  missing : Bool := false
  path : Option String := none
  place : Option (List String) := none

/-- A failure while rendering, with the line and column of the part where it arose. -/
structure RenderError where
  reason : String
  place : Option (Nat × Nat) := none

/-- The state of rendering: the data, the blocks in scope (the innermost first), the partial
templates defined so far, the blocks of the partial blocks being rendered, the indentation
of the partial being rendered, whether the last text ended a line, and the output. -/
structure Renderer where
  data : Value
  frames : List Frame := [{}]
  partials : List (String × Template) := []
  partialBlocks : List Template := []
  blockDepth : Nat := 0
  indent : Option String := none
  lineEnded : Bool := false
  out : String := ""

/-- The helpers there are. -/
def helperNames : List String :=
  ["if", "unless", "each", "with", "lookup", "raw", "log", "eq", "ne", "gt", "gte", "lt",
    "lte", "and", "or", "not", "len"]

/-- Why a helper call fails for want of an argument. -/
def missingArgument (helper : String) (index : Nat) : String :=
  "Helper/Decorator " ++ helper ++ " param at index " ++ toString index ++
    " required but not found"

/-- The argument at a position, or the failure for its absence. -/
def argumentAt (helper : String) (args : List Argument) (i : Nat) : Except String Argument :=
  match args[i]? with
  | some a => .ok a
  | none => .error (missingArgument helper i)

/-- The index an array key names: digits, perhaps after a `+`, below `2^64`. -/
def arrayIndex? (key : String) : Option Nat :=
  let ds := match key.toList with
    | '+' :: rest => rest
    | cs => cs
  if !ds.isEmpty && ds.all Char.isDigit && Number.digitsValue ds < Nat.pow 2 64 then
    some (Number.digitsValue ds)
  else none

/-- The entry of a value under a key. -/
def childOf (v : Value) (key : String) : Except String (Option Value) :=
  match v with
  | .array items =>
    match arrayIndex? key with
    | some i => .ok items[i]?
    | none => .error ("Cannot access array/vector with string index, " ++ key)
  | .object entries => .ok (Value.field? entries key)
  | _ => .ok none

/-- Walks keys from a value; nothing stays nothing. -/
def walk : Option Value → List String → Except String (Option Value)
  | v, [] => .ok v
  | none, _ :: ks => walk none ks
  | some v, k :: ks => do walk (← childOf v k) ks

/-- The keys of a path's steps. -/
def keysOf (steps : List Step) : List String :=
  steps.filterMap fun s => match s with
    | .key k => some k
    | _ => none

/-- The `..`s before a path's first key, the first key, and whether `@root` comes first. -/
def leading : List Step → Nat × Option String × Bool
  | [] => (0, none, false)
  | .key s :: _ => (0, some s, false)
  | .root :: _ => (0, none, true)
  | .up :: rest =>
    let (d, n, r) := leading rest
    (d + 1, n, r)
  | .data :: _ => (0, none, false)

/-- Sets a key of an association list. -/
def setEntry {α : Type} (entries : List (String × α)) (key : String) (v : α) :
    List (String × α) :=
  if entries.any (·.1 == key) then entries.map fun (k, w) => if k == key then (k, v) else (k, w)
  else entries ++ [(key, v)]

namespace Renderer

/-- The value under a path in the data. -/
def fromData (r : Renderer) (path : List String) (text : String) : Except String Argument := do
  match ← walk (some r.data) path with
  | some v => pure { value := v, path := some text, place := some path }
  | none => pure { missing := true, path := some text }

/-- The value under keys of a value of a block. -/
def fromValue (base : Value) (keys : List String) (text : String) : Except String Argument := do
  match ← walk (some base) keys with
  | some v => pure { value := v, path := some text }
  | none => pure { missing := true, path := some text }

/-- The value a block gives for keys: from its own value, or from the data under its path. -/
def fromFrame (r : Renderer) (f : Frame) (keys : List String) (text : String) :
    Except String Argument :=
  match f.baseValue with
  | some v => fromValue v keys text
  | none => r.fromData (f.basePath ++ keys) text

/-- The value of a path: through a block parameter when its first key names one, from the
block `..`s out, from the map after `@root`, else from the innermost block. -/
def resolve (r : Renderer) (steps : List Step) (text : String) : Except String Argument :=
  let (depth, first, fromRoot) := leading steps
  let param := first.bind fun name =>
    r.frames.findSome? fun f => ((f.params.find? (·.1 == name)).map (·.2)).map (·, f.basePath)
  let rest := keysOf (steps.drop (depth + 1))
  let keys := keysOf steps
  match param with
  | some (.value v, _) => fromValue v rest text
  | some (.place p, base) => r.fromData (base ++ p ++ rest) text
  | none =>
    if depth > 0 then
      match r.frames[depth]?.orElse fun _ => r.frames.head? with
      | some f => r.fromFrame f keys text
      | none => r.fromData keys text
    else if fromRoot then r.fromData keys text
    else
      match r.frames.head? with
      | some f => r.fromFrame f keys text
      | none => r.fromData keys text

/-- The value of a block variable of the block `level` blocks out. -/
def blockVariable (r : Renderer) (level : Nat) (name : String) (text : String) : Argument :=
  match r.frames[level]?.bind fun f => (f.locals.find? (·.1 == name)).map (·.2) with
  | some v => { value := v, path := some text }
  | none => { missing := true, path := some text }

/-- Writes text: in a partial with an indentation, each line after the first that gets text
starts with it. -/
def write (r : Renderer) (s : String) : Renderer :=
  if s.isEmpty then r
  else
    let cs := s.toList
    let startsLine := cs.head?.any isLineBreak
    let lead := match r.indent with
      | some i => if !startsLine && r.lineEnded then i else ""
      | none => ""
    let body := match r.indent with
      | some i =>
        let rec go : List Char → List Char
          | '\n' :: c :: rest => '\n' :: (i.toList ++ go (c :: rest))
          | c :: rest => c :: go rest
          | [] => []
        String.ofList (go cs)
      | none => s
    { r with out := r.out ++ lead ++ body, lineEnded := cs.getLast?.any isLineBreak }

/-- The innermost block, or an empty one. -/
def top (r : Renderer) : Frame := r.frames.headD {}

/-- Replaces the innermost block. -/
def setTop (r : Renderer) (f : Frame) : Renderer :=
  { r with frames := f :: r.frames.tail }

end Renderer

/-- The block a value opens: under its place in the data, or holding the value itself. -/
def Argument.frame (a : Argument) : Frame :=
  match a.place with
  | some p => { basePath := p }
  | none => { baseValue := some a.value }

/-- The value of a helper that computes one, if `name` is one. -/
def computed (name : String) (args : List Argument) : Option (Except String Argument) :=
  let arg := argumentAt name args
  let flag (b : Bool) : Argument := { value := .bool b }
  match name with
  | "eq" => some do pure (flag ((← arg 0).value.same (← arg 1).value))
  | "ne" => some do pure (flag !((← arg 0).value.same (← arg 1).value))
  | "gt" => some do pure (flag ((← arg 0).value.order? (← arg 1).value == some .gt))
  | "gte" => some do pure (flag (((← arg 0).value.order? (← arg 1).value).any (· != .lt)))
  | "lt" => some do pure (flag ((← arg 0).value.order? (← arg 1).value == some .lt))
  | "lte" => some do pure (flag (((← arg 0).value.order? (← arg 1).value).any (· != .gt)))
  | "and" => some (pure (flag (args.all (·.value.truthy false))))
  | "or" => some (pure (flag (args.any (·.value.truthy false))))
  | "not" => some do pure (flag !((← arg 0).value.truthy false))
  | "len" => some do pure { value := Value.ofNat (← arg 0).value.size }
  | "lookup" => some do
    let c ← arg 0
    let k ← arg 1
    let found := match c.value with
      | .array items => k.value.asIndex?.bind fun i => items[i]?
      | .object entries => k.value.asString?.bind (Value.field? entries)
      | _ => none
    match found with
    | some v => pure { value := v }
    | none => pure { missing := true }
  | _ => none

/-- Checks the level a `log` call names: `error`, `warn`, `info` (the default), `debug` or
`trace`, in any case. -/
def checkLevel (hash : List (String × Argument)) : Except String Unit :=
  let level := ((hash.find? (·.1 == "level")).bind fun (_, a) => a.value.asString?).getD "info"
  if ["error", "warn", "info", "debug", "trace"].contains (Text.asciiLower level) then .ok ()
  else .error ("Invalid logging level: " ++ level)

/-- The value of a helper call in parentheses: a computed value, or the empty text for a
block helper once its arguments are checked. -/
def callValue (name : String) (args : List Argument) (hash : List (String × Argument)) :
    Except String Argument :=
  match computed name args with
  | some result => result
  | none =>
    let empty : Argument := { value := .string "" }
    match name with
    | "if" | "unless" => do let _ ← argumentAt "if" args 0; pure empty
    | "each" | "with" => do let _ ← argumentAt name args 0; pure empty
    | "raw" => pure empty
    | "log" => do checkLevel hash; pure empty
    | _ => .error ("Helper not found " ++ name)

mutual

/-- The value of an argument; `fuel` bounds the nesting of calls. -/
def evalParam (r : Renderer) : Nat → Param → Except String Argument
  | 0, _ => .error "Template nesting too deep"
  | fuel + 1, p =>
    match p with
    | .word s => .ok { missing := true, path := some s }
    | .path (.steps steps text) => r.resolve steps text
    | .path (.blockVar level name text) => .ok (r.blockVariable level name text)
    | .literal v => .ok { value := v }
    | .call head args hash => do
      let name ← headName r fuel head
      let args ← evalAll r fuel args
      let hash ← evalHash r fuel hash
      callValue name args hash

/-- The name a head gives: a word or a path as written, else the text of its value. -/
def headName (r : Renderer) : Nat → Param → Except String String
  | 0, _ => .error "Template nesting too deep"
  | fuel + 1, p =>
    match p with
    | .word s => .ok s
    | .path (.steps _ text) => .ok text
    | .path (.blockVar _ _ text) => .ok text
    | .literal v => .ok v.render
    | .call .. => (evalParam r fuel p).map (·.value.render)

/-- The values of arguments, in order. -/
def evalAll (r : Renderer) : Nat → List Param → Except String (List Argument)
  | 0, _ => .error "Template nesting too deep"
  | _ + 1, [] => .ok []
  | fuel + 1, p :: ps => do
    let a ← evalParam r fuel p
    let as ← evalAll r fuel ps
    pure (a :: as)

/-- The values of named arguments, in order. -/
def evalHash (r : Renderer) : Nat → List (String × Param) → Except String (List (String × Argument))
  | 0, _ => .error "Template nesting too deep"
  | _ + 1, [] => .ok []
  | fuel + 1, (k, p) :: ps => do
    let a ← evalParam r fuel p
    let as ← evalHash r fuel ps
    pure ((k, a) :: as)

end

/-- A failure of an argument, not yet placed. -/
def unplaced {α : Type} (e : Except String α) : Except RenderError α :=
  e.mapError fun reason => { reason }

/-- The scope given to a partial: the current block, or one under the first argument's
place in the data, and the named arguments added to its value. -/
def partialScope (r : Renderer) (args : List Argument) (hash : List (String × Argument)) :
    Except String (Renderer × Bool) := do
  let (r, pushed) := match args.head?.bind (·.place) with
    | some p => ({ r with frames := { basePath := p } :: r.frames }, true)
    | none => (r, false)
  if hash.isEmpty then pure (r, pushed)
  else
    let r := if pushed then r else { r with frames := r.top :: r.frames }
    let current ← r.resolve [] "this"
    let base := match current.value with
      | .object entries => entries
      | _ => []
    let merged := hash.foldl (fun acc (k, a) => Value.setField acc k a.value) base
    pure (r.setTop { r.top with baseValue := some (.object merged) }, true)

mutual

/-- Renders a template; a failure without a place takes the place of the element it arose
in. `fuel` bounds the nesting. -/
def renderTemplate : Nat → Renderer → Template → Except RenderError Renderer
  | 0, _, _ => .error { reason := "Template nesting too deep" }
  | fuel + 1, r, t =>
    t.foldlM (fun r (e, place) =>
      (renderElement fuel r e).mapError fun err =>
        if err.place.isNone then { err with place := place } else err) r

/-- Evaluates the decorators of a template, as a partial block does before it renders. -/
def evalDecorators : Nat → Renderer → Template → Except RenderError Renderer
  | 0, _, _ => .error { reason := "Template nesting too deep" }
  | fuel + 1, r, t =>
    t.foldlM (fun r (e, place) =>
      match e with
      | .decorator tag body =>
        (decorate fuel r tag body).mapError fun err =>
          if err.place.isNone then { err with place := place } else err
      | _ => .ok r) r

/-- Renders one element. -/
def renderElement : Nat → Renderer → Element → Except RenderError Renderer
  | 0, _, _ => .error { reason := "Template nesting too deep" }
  | fuel + 1, r, e =>
    match e with
    | .text s => .ok (r.write s)
    | .comment => .ok r
    | .value tag =>
      if tag.args.isEmpty && tag.hash.isEmpty then do
        let name ← unplaced (headName r fuel tag.head)
        if helperNames.contains name then runHelper fuel r tag none none
        else
          let a ← unplaced (evalParam r fuel tag.head)
          pure (if a.missing then r else r.write a.value.render)
      else runHelper fuel r tag none none
    | .block tag body inverse => runHelper fuel r tag (some body) inverse
    | .decorator tag body => decorate fuel r tag body
    | .inclusion tag body indent => renderInclusion fuel r tag body indent

/-- Calls the helper a tag names, with the parts of its block. -/
def runHelper : Nat → Renderer → Tag → Option Template → Option Template →
    Except RenderError Renderer
  | 0, _, _, _, _ => .error { reason := "Template nesting too deep" }
  | fuel + 1, r, tag, body, inverse => do
    let name ← unplaced (headName r fuel tag.head)
    let args ← unplaced (evalAll r fuel tag.args)
    let hash ← unplaced (evalHash r fuel tag.hash)
    let part (t : Option Template) : Except RenderError Renderer :=
      match t with
      | some t => renderTemplate fuel r t
      | none => .ok r
    match name with
    | "if" | "unless" =>
      let a ← unplaced (argumentAt "if" args 0)
      let includeZero :=
        ((hash.find? (·.1 == "includeZero")).bind fun (_, z) => z.value.asBool?).getD false
      let holds := a.value.truthy includeZero
      part (if holds == (name == "if") then body else inverse)
    | "each" =>
      let a ← unplaced (argumentAt "each" args 0)
      match body with
      | none => pure r
      | some t =>
        let entries : Option (List (String × Value × Value)) := match a.value with
          | .array items =>
            if items.isEmpty && inverse.isSome then none
            else some (items.zipIdx.map fun (v, i) => (toString i, v, Value.ofNat i))
          | .object fields =>
            if fields.isEmpty && inverse.isSome then none
            else some (fields.map fun (k, v) => (k, v, .string k))
          | _ => none
        match entries with
        | none => part inverse
        | some entries =>
          let isObject := match a.value with
            | .object _ => true
            | _ => false
          let count := entries.length
          let r := { r with frames := a.frame :: r.frames }
          let r ← entries.zipIdx.foldlM (fun r ((key, v, label), i) =>
            let f := r.top
            let vars := setEntry (setEntry (setEntry f.locals "first" (.bool (i == 0)))
              "last" (.bool (i + 1 == count))) "index" (Value.ofNat i)
            let vars := if isObject then setEntry vars "key" (.string key) else vars
            let f := match a.place with
              | some p => { f with basePath := p ++ [key], locals := vars }
              | none => { f with baseValue := some v, locals := vars }
            let item : Holder := if a.place.isSome then .place [] else .value v
            let f := match tag.blockParams with
              | some (x, none) => { f with params := [(x, item)] }
              | some (x, some y) => { f with params := [(x, item), (y, .value label)] }
              | none => f
            renderTemplate fuel (r.setTop f) t) r
          pure { r with frames := r.frames.tail }
    | "with" =>
      let a ← unplaced (argumentAt "with" args 0)
      if a.value.truthy false then
        let f := a.frame
        let f := match tag.blockParams with
          | some (x, none) =>
            { f with params := [(x, if a.place.isSome then .place [] else .value a.value)] }
          | _ => f
        let r' ← renderPart fuel { r with frames := f :: r.frames } body
        pure { r' with frames := r'.frames.tail }
      else part inverse
    | "raw" => part body
    | "log" => do unplaced (checkLevel hash); pure r
    | _ =>
      match computed name args with
      | some result =>
        let a ← unplaced result
        -- as a block, a yes-or-no answer picks the body or the inverse
        match a.value, body with
        | .bool b, some _ => part (if b then body else inverse)
        | v, _ => pure (r.write v.render)
      | none => .error { reason := "Helper not found " ++ name }

/-- Renders a part of a block, if there is one. -/
def renderPart : Nat → Renderer → Option Template → Except RenderError Renderer
  | 0, _, _ => .error { reason := "Template nesting too deep" }
  | fuel + 1, r, some t => renderTemplate fuel r t
  | _ + 1, r, none => .ok r

/-- Runs a decorator: `inline` defines a partial template from its block. -/
def decorate : Nat → Renderer → Tag → Option Template → Except RenderError Renderer
  | 0, _, _, _ => .error { reason := "Template nesting too deep" }
  | fuel + 1, r, tag, body => do
    let name ← unplaced (headName r fuel tag.head)
    let args ← unplaced (evalAll r fuel tag.args)
    let _ ← unplaced (evalHash r fuel tag.hash)
    if name == "inline" then
      let a ← unplaced (argumentAt "inline" args 0)
      match a.value.asString? with
      | none => .error { reason := "Invalid param type, String expected" }
      | some partialName =>
        match body with
        | none => .error { reason := "Block content required" }
        | some t => pure { r with partials := setEntry r.partials partialName t }
    else .error { reason := "Decorator not found " ++ name }

/-- Renders an inclusion of a partial template. -/
def renderInclusion : Nat → Renderer → Tag → Option Template → Option String →
    Except RenderError Renderer
  | 0, _, _, _, _ => .error { reason := "Template nesting too deep" }
  | fuel + 1, r, tag, body, indent => do
    let name ← unplaced (headName r fuel tag.head)
    let args ← unplaced (evalAll r fuel tag.args)
    let hash ← unplaced (evalHash r fuel tag.hash)
    let r ← match body with
      | some t => evalDecorators fuel r t
      | none => pure r
    let isBlock := name == "@partial-block"
    let defined := if isBlock then r.partialBlocks[r.blockDepth]?
      else (r.partials.find? (·.1 == name)).map (·.2)
    match defined.orElse fun _ => body with
    | none => .error { reason := "Partial not found " ++ name }
    | some t =>
      let (inner, pushed) ← unplaced (partialScope r args hash)
      let inner := { inner with
        partialBlocks := body.toList ++ inner.partialBlocks,
        blockDepth := if isBlock then inner.blockDepth + 1 else inner.blockDepth,
        indent := indent }
      let done ← renderTemplate fuel inner t
      pure { done with
        frames := if pushed then done.frames.tail else done.frames,
        partialBlocks := if body.isSome then done.partialBlocks.tail else done.partialBlocks,
        blockDepth := r.blockDepth,
        indent := r.indent }

end

/-- The message of a failed rendering. -/
def RenderError.message (e : RenderError) : String :=
  match e.place with
  | some (line, column) =>
    "Error rendering \"Unnamed template\" line " ++ toString line ++ ", col " ++
      toString column ++ ": " ++ e.reason
  | none => e.reason

/-- How deeply templates, blocks and partials may nest while rendering. -/
def nestingLimit : Nat := 512

/-- Renders a template with the texts of a map, or says why it cannot be. A text compiled
ahead is not compiled again. -/
def render (source : String) (values : List (String × String)) : Except String String :=
  let compiled : Except TemplateError Template := match precompiled? source with
    | some t => .ok t
    | none => compile source
  match compiled with
  | .error e => .error (e.message source)
  | .ok t =>
    let data := Value.object (values.foldl (fun acc (k, v) => Value.setField acc k (.string v)) [])
    match renderTemplate nestingLimit { data } t with
    | .ok r => .ok r.out
    | .error e => .error e.message

end CrudScaffold.Stub
