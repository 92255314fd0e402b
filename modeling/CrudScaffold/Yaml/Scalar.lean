import CrudScaffold.Yaml.Document
import CrudScaffold.Number.Nearest
import CrudScaffold.Number.Shortest
import CrudScaffold.Text.Quoted

/-! What a scalar means. A plain scalar without a tag follows the core schema of YAML 1.2:
empty, `~` and `null` are null, `true` and `false` (also capitalised or in capitals) are
booleans, decimal, `0x`, `0o` and `0b` integers are integers, and decimal numbers with a
fraction or exponent (and `.inf`, `.nan`) are floats; anything else is text. A number with a
leading zero, like `0123`, is text. Quoted and block scalars are always text. The tags
`!!bool`, `!!int`, `!!float` and `!!null` force their type (under `!!null` only a null word,
not the empty scalar, is null); a plain scalar under a local tag such as `!name` means what
it would mean untagged, and any other tag makes a scalar text. -/

namespace CrudScaffold.Yaml

/-- The meaning of a scalar. Integers are kept by the width they need: 64 bits unsigned or
signed, else 128 bits. -/
inductive ScalarValue where
  | null
  | bool (b : Bool)
  | unsigned (n : Nat)
  | signed (i : Int)
  | wideUnsigned (n : Nat)
  | wideSigned (i : Int)
  | float (x : Float)
  | text (s : String)
  /-- A tagged scalar whose text is not of its tag's type. -/
  | mistyped (text : String) (expected : String)
deriving Inhabited

/-- The core tags. -/
def boolTag : String := "tag:yaml.org,2002:bool"
def intTag : String := "tag:yaml.org,2002:int"
def floatTag : String := "tag:yaml.org,2002:float"
def nullTag : String := "tag:yaml.org,2002:null"

/-- Whether a text is a null word. -/
def isNullWord (s : String) : Bool := s == "~" || s == "null" || s == "Null" || s == "NULL"

/-- The boolean a word names. -/
def boolWord (s : String) : Option Bool :=
  if s == "true" || s == "True" || s == "TRUE" then some true
  else if s == "false" || s == "False" || s == "FALSE" then some false
  else none

/-- Whether a number has a leading zero followed by digits only, which makes it text. -/
def digitsButNotNumber (s : String) : Bool :=
  let cs := match s.toList with
    | '-' :: rest | '+' :: rest => rest
    | cs => cs
  cs.length > 1 && cs.head? == some '0' && cs.tail.all Char.isDigit

/-- The value of a digit in a radix up to 36. -/
def digitValue (c : Char) : Option Nat :=
  if c.isDigit then some (c.toNat - '0'.toNat)
  else if 'a' ≤ c && c ≤ 'z' then some (c.toNat - 'a'.toNat + 10)
  else if 'A' ≤ c && c ≤ 'Z' then some (c.toNat - 'A'.toNat + 10)
  else none

/-- Reads the digits of a number in a radix. -/
def digitsValue (radix : Nat) (cs : List Char) : Option Nat :=
  if cs.isEmpty then none
  else cs.foldlM (fun v c => match digitValue c with
    | some d => if d < radix then some (radix * v + d) else none
    | none => none) 0

/-- Reads an integer in a radix as the standard library does: an optional `+` (or `-` when
signed) and at least one digit, within the bounds `[low, high]`. -/
def radixInteger (signed : Bool) (low high : Int) (text : String) (radix : Nat) : Option Int :=
  let (negative, digits) := match text.toList with
    | ['+'] | ['-'] => (false, [])
    | '+' :: rest => (false, rest)
    | '-' :: rest => if signed then (true, rest) else (false, '-' :: rest)
    | cs => (false, cs)
  match digitsValue radix digits with
  | none => none
  | some n =>
    let v : Int := if negative then -(n : Int) else n
    if low ≤ v && v ≤ high then some v else none

/-- The rest of a text after a prefix. -/
def afterPrefix (text pre : String) : Option String :=
  if pre.toList.isPrefixOf text.toList then some (String.ofList (text.toList.drop pre.length))
  else none

/-- Whether a text starts with a sign. -/
def startsWithSign (s : String) : Bool := s.startsWith "+" || s.startsWith "-"

/-- Reads an unsigned integer, with an optional `+` and a `0x`, `0o` or `0b` prefix, below
`limit`. -/
def unsignedInteger (limit : Nat) (text : String) : Option Nat :=
  let parse := radixInteger false 0 (limit - 1 : Nat)
  let unpositive := (afterPrefix text "+").getD text
  let prefixed (pre : String) (radix : Nat) : Option (Option Nat) :=
    match afterPrefix unpositive pre with
    | some rest =>
      if startsWithSign rest then some none
      else (parse rest radix).map fun v => some v.toNat
    | none => none
  match prefixed "0x" 16 with
  | some r => r
  | none =>
  match prefixed "0o" 8 with
  | some r => r
  | none =>
  match prefixed "0b" 2 with
  | some r => r
  | none =>
    if startsWithSign unpositive || digitsButNotNumber text then none
    else (parse unpositive 10).map Int.toNat

/-- Reads a signed integer within `[-bound, bound - 1]`, with an optional sign and a `0x`,
`0o` or `0b` prefix after it. -/
def signedInteger (bound : Nat) (text : String) : Option Int :=
  let parse := radixInteger true (-(bound : Int)) ((bound : Int) - 1)
  let unpositive? : Option String := match afterPrefix text "+" with
    | some rest => if startsWithSign rest then none else some rest
    | none => some text
  match unpositive? with
  | none => none
  | some unpositive =>
    let positive (pre : String) (radix : Nat) : Option (Option Int) :=
      match afterPrefix unpositive pre with
      | some rest => if startsWithSign rest then some none else (parse rest radix).map some
      | none => none
    let negative (pre : String) (radix : Nat) : Option Int :=
      (afterPrefix text pre).bind fun rest => parse ("-" ++ rest) radix
    match positive "0x" 16 with
    | some r => r
    | none =>
    match negative "-0x" 16 with
    | some v => some v
    | none =>
    match positive "0o" 8 with
    | some r => r
    | none =>
    match negative "-0o" 8 with
    | some v => some v
    | none =>
    match positive "0b" 2 with
    | some r => r
    | none =>
    match negative "-0b" 2 with
    | some v => some v
    | none => if digitsButNotNumber text then none else parse unpositive 10

/-- Whether a double is finite. -/
def isFinite (x : Float) : Bool := !x.isNaN && !x.isInf

/-- Reads a float: `.inf`, `-.inf` and `.nan` in three spellings each, or a finite decimal
number. -/
def floatValue (text : String) : Option Float :=
  let unpositive? : Option String := match afterPrefix text "+" with
    | some rest => if startsWithSign rest then none else some rest
    | none => some text
  match unpositive? with
  | none => none
  | some unpositive =>
    if unpositive == ".inf" || unpositive == ".Inf" || unpositive == ".INF" then
      some (1.0 / 0.0)
    else if text == "-.inf" || text == "-.Inf" || text == "-.INF" then some (-1.0 / 0.0)
    else if text == ".nan" || text == ".NaN" || text == ".NAN" then some (0.0 / 0.0)
    else match Number.readDouble? unpositive with
      | some x => if isFinite x then some x else none
      | none => none

/-- Reads an integer at the narrowest width that holds it. -/
def integerValue (text : String) : Option ScalarValue :=
  match unsignedInteger (Nat.pow 2 64) text with
  | some n => some (.unsigned n)
  | none =>
  match signedInteger (Nat.pow 2 63) text with
  | some i => some (.signed i)
  | none =>
  match unsignedInteger (Nat.pow 2 128) text with
  | some n => some (.wideUnsigned n)
  | none => (signedInteger (Nat.pow 2 127) text).map .wideSigned

/-- The meaning of a plain scalar without a tag. -/
def untaggedValue (text : String) : ScalarValue :=
  if text.isEmpty || isNullWord text then .null
  else match boolWord text with
    | some b => .bool b
    | none =>
      match integerValue text with
      | some v => v
      | none =>
        match (if digitsButNotNumber text then none else floatValue text) with
        | some x => .float x
        | none => .text text

/-- The meaning of a scalar with its style and tag. -/
def scalarValue (text : String) (style : ScalarStyle) (tag : Option String) : ScalarValue :=
  match tag with
  | some t =>
    if t == boolTag then
      match boolWord text with
      | some b => .bool b
      | none => .mistyped text "a boolean"
    else if t == intTag then (integerValue text).getD (.mistyped text "an integer")
    else if t == floatTag then
      match floatValue text with
      | some x => .float x
      | none => .mistyped text "a float"
    else if t == nullTag then
      if isNullWord text then .null else .mistyped text "null"
    else if t.startsWith "!" && style == .plain then untaggedValue text
    else .text text
  | none => if style == .plain then untaggedValue text else .text text

/-- A double as messages show it: with `.0` when its shortest text has no point. -/
def withDecimalPoint (x : Float) : String :=
  let t := Number.shortestText x
  if isFinite x && !t.contains '.' then t ++ ".0" else t

/-- How messages describe a value of an unexpected type. -/
def ScalarValue.describe : ScalarValue → String
  | .null => "unit value"
  | .bool b => "boolean " ++ "\x60" ++ toString b ++ "\x60"
  | .unsigned n => "integer \x60" ++ toString n ++ "\x60"
  | .signed i => "integer \x60" ++ toString i ++ "\x60"
  | .wideUnsigned n => "integer \x60" ++ toString n ++ "\x60 as u128"
  | .wideSigned i => "integer \x60" ++ toString i ++ "\x60 as i128"
  | .float x => "floating point \x60" ++ withDecimalPoint x ++ "\x60"
  | .text s => "string " ++ Text.quoted s
  | .mistyped s _ => "string " ++ Text.quoted s

/-- The message for a value of the wrong type. -/
def invalidType (found expected : String) : ReadError :=
  .message ("invalid type: " ++ found ++ ", expected " ++ expected) none

/-- The message for a value of the right type but a wrong value. -/
def invalidValue (found expected : String) : ReadError :=
  .message ("invalid value: " ++ found ++ ", expected " ++ expected) none

/-- The error for an item where a value of another kind was expected. A mistyped scalar is
reported as such. -/
def unexpectedItem (item : Item) (expected : String) : ReadError :=
  match item with
  | .scalar text style tag =>
    match scalarValue text style tag with
    | .mistyped s e => invalidValue ("string " ++ Text.quoted s) e
    | v => invalidType v.describe expected
  | .sequenceStart _ => invalidType "sequence" expected
  | .mappingStart _ => invalidType "map" expected
  | _ => .endOfStream

end CrudScaffold.Yaml
