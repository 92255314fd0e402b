import CrudScaffold.Number.Nearest
import CrudScaffold.Number.Scaled
import CrudScaffold.Number.Shortest

/-! The data a stub template renders: JSON values. The map of placeholders is an object of
texts; literals in a template (`"text"`, `'text'`, `1.5`, `[1, 2]`, `{"a": 1}`, `true`,
`null`) and the results of helpers add the other kinds.

A number is a whole number that fits 64 bits unsigned, a negative whole number that fits 64
bits signed, or a double; two numbers of different kinds are never equal, so `1` is not
`1.0`. Objects keep their keys sorted, each once.

* *Text of a value*: a text as it is, `true`/`false`, nothing for null, an array as its items
  in brackets separated by `, `, an object as `[object]`; a double in its shortest form (an
  exact tie to the even digits), with `.0` when whole, and with a signed exponent of at least
  two digits outside the first sixteen places (`1e+16`, `1.5e-07`).
* *Truth*: false, null, zero, the empty text, array and object are false; a number is true
  when it is a normal double (so also not subnormal).
* *Order*: numbers compare by their exact values, texts by code points, booleans with false
  first, and a number with a text that reads as a JSON number; other pairs do not compare. -/

namespace CrudScaffold.Stub

/-- A number of template data. -/
inductive Numeral where
  /-- A whole number below `2^64`. -/
  | natural (n : Nat)
  /-- A negative whole number from `-2^63`. -/
  | negative (i : Int)
  /-- A finite double. -/
  | double (x : Float)
deriving Inhabited

/-- A value of template data. -/
inductive Value where
  | null
  | bool (b : Bool)
  | number (n : Numeral)
  | string (s : String)
  | array (items : List Value)
  /-- An object, its keys in increasing order, each once. -/
  | object (entries : List (String × Value))
deriving Inhabited

namespace Numeral

/-- The number as a double, rounded to the nearest. -/
def toDouble : Numeral → Float
  | .natural n => Number.nearestDouble false n 1
  | .negative i => Number.intToDouble i
  | .double x => x

/-- Zeros for padding. -/
def zeros (n : Nat) : List Char := List.replicate n '0'

/-- An exponent as data writes it: its sign and at least two digits. -/
def exponentText (e : Int) : List Char :=
  let digits := Nat.toDigits 10 e.natAbs
  (if e < 0 then '-' else '+') :: (if digits.length < 2 then '0' :: digits else digits)

/-- A finite double as data writes it: its shortest digits (an exact tie to the even ones),
positional with a point when the point falls within the first sixteen places (`1000.0`,
`0.001`), else one digit before the point and an exponent (`1e+21`, `1.5e-07`). -/
def doubleText (x : Float) : String :=
  let sign := if Number.signBit x then "-" else ""
  if x == 0 then sign ++ "0.0"
  else
    let (d, k) := Number.shortestDigits .toEven x
    let ds := Nat.toDigits 10 d
    let len : Int := ds.length
    let kk := len + k
    let body : List Char :=
      if 0 ≤ k && kk ≤ 16 then ds ++ zeros k.toNat ++ ['.', '0']
      else if 0 < kk && kk ≤ 16 then ds.take kk.toNat ++ ['.'] ++ ds.drop kk.toNat
      else if -5 < kk && kk ≤ 0 then ['0', '.'] ++ zeros (-kk).toNat ++ ds
      else if ds.length == 1 then ds ++ ['e'] ++ exponentText (kk - 1)
      else ds.take 1 ++ ['.'] ++ ds.drop 1 ++ ['e'] ++ exponentText (kk - 1)
    sign ++ String.ofList body

/-- The text of a number. -/
def render : Numeral → String
  | .natural n => toString n
  | .negative i => toString i
  | .double x => doubleText x

/-- Equality of numbers: only of the same kind, doubles as doubles compare. -/
def same : Numeral → Numeral → Bool
  | .natural a, .natural b => a == b
  | .negative a, .negative b => a == b
  | .double a, .double b => a == b
  | _, _ => false

/-- A number as an exact ratio `(num, den)`, `den` positive. -/
def exact : Numeral → Int × Nat
  | .natural n => (n, 1)
  | .negative i => (i, 1)
  | .double x =>
    let bits := x.toBits.toNat
    let (m, q) := Number.bitsParts (bits % Nat.pow 2 63)
    let m : Int := if bits ≥ Nat.pow 2 63 then -(m : Int) else m
    if q ≥ 0 then (m * (Nat.pow 2 q.toNat : Int), 1) else (m, Nat.pow 2 (-q).toNat)

/-- The order of two numbers by their exact values. -/
def order (a b : Numeral) : Ordering :=
  compare (a.exact.1 * (b.exact.2 : Int)) (b.exact.1 * (a.exact.2 : Int))

/-- Whether a double is normal: neither zero, subnormal, infinite nor not a number. -/
def isNormal (x : Float) : Bool :=
  let e := (x.toBits.toNat / Nat.pow 2 52) % 2048
  e != 0 && e != 2047

end Numeral

namespace Value

/-- A whole number as data. -/
def ofNat (n : Nat) : Value := .number (.natural n)

mutual

/-- The text of a value. -/
def render : Value → String
  | .null => ""
  | .bool b => toString b
  | .number n => n.render
  | .string s => s
  | .array items => "[" ++ ", ".intercalate (renderItems items) ++ "]"
  | .object _ => "[object]"

/-- The texts of the items of an array. -/
def renderItems : List Value → List String
  | [] => []
  | v :: vs => v.render :: renderItems vs

end

mutual

/-- Equality of values: of the same kind and equal parts. -/
def same : Value → Value → Bool
  | .null, .null => true
  | .bool a, .bool b => a == b
  | .number a, .number b => a.same b
  | .string a, .string b => a == b
  | .array a, .array b => sameItems a b
  | .object a, .object b => sameEntries a b
  | _, _ => false

/-- Equality of two lists of items. -/
def sameItems : List Value → List Value → Bool
  | [], [] => true
  | a :: as, b :: bs => a.same b && sameItems as bs
  | _, _ => false

/-- Equality of two lists of entries. -/
def sameEntries : List (String × Value) → List (String × Value) → Bool
  | [], [] => true
  | (k, a) :: as, (l, b) :: bs => k == l && a.same b && sameEntries as bs
  | _, _ => false

end

/-- Whether a value counts as true; with `includeZero` every number does. -/
def truthy (includeZero : Bool) : Value → Bool
  | .null => false
  | .bool b => b
  | .number n => if includeZero then !n.toDouble.isNaN else Numeral.isNormal n.toDouble
  | .string s => !s.isEmpty
  | .array items => !items.isEmpty
  | .object entries => !entries.isEmpty

/-- The length of a value: items of an array, entries of an object, bytes of a text, else
zero. -/
def size : Value → Nat
  | .array items => items.length
  | .object entries => entries.length
  | .string s => s.utf8ByteSize
  | _ => 0

/-- The text of a text value. -/
def asString? : Value → Option String
  | .string s => some s
  | _ => none

/-- The boolean of a boolean value. -/
def asBool? : Value → Option Bool
  | .bool b => some b
  | _ => none

/-- The number of a whole nonnegative number. -/
def asIndex? : Value → Option Nat
  | .number (.natural n) => some n
  | _ => none

/-- The entry of an object for a key. -/
def field? (entries : List (String × Value)) (key : String) : Option Value :=
  (entries.find? (·.1 == key)).map (·.2)

/-- Sets the entry of a key in a sorted object. -/
def setField (entries : List (String × Value)) (key : String) (v : Value) :
    List (String × Value) :=
  match entries with
  | [] => [(key, v)]
  | (k, w) :: rest =>
    if key == k then (key, v) :: rest
    else if key < k then (key, v) :: (k, w) :: rest
    else (k, w) :: setField rest key v

end Value

/-! ## Reading literals

A literal of a template is read as JSON: white space is blank, tab, line feed or carriage
return; a text holds no control character and no lone surrogate; arrays and objects nest at
most 127 deep, and a later entry of an object replaces an earlier one of the same key.

A number has no leading zero, and at least one digit after a point and in an exponent. Its
digits are gathered into a significand while it fits 64 bits; later whole digits raise the
exponent and later fraction digits are dropped. A whole number that fits is kept whole (`-0`
is the double `-0.0`, and a negative one past `-2^63` a double); any other number is the
double `Number.scaledBits` computes, refused past the largest double. An exponent too long
for 32 bits makes the number zero, or refuses it when it is positive and the significand is
not zero; a shorter one is added to the shift with the sum held to 32 bits. -/

namespace Literal

/-- Whether a character is JSON white space. -/
def isBlank (c : Char) : Bool := c == ' ' || c == '\t' || c == '\n' || c == '\r'

/-- The value of a hexadecimal digit. -/
def hexValue (c : Char) : Option Nat :=
  if c.isDigit then some (c.toNat - '0'.toNat)
  else if 'a' ≤ c && c ≤ 'f' then some (c.toNat - 'a'.toNat + 10)
  else if 'A' ≤ c && c ≤ 'F' then some (c.toNat - 'A'.toNat + 10)
  else none

/-- Reads four hexadecimal digits. -/
def hex4 : List Char → Option (Nat × List Char)
  | a :: b :: c :: d :: rest =>
    ([a, b, c, d].foldlM (fun v ch => (hexValue ch).map (16 * v + ·)) 0).map (·, rest)
  | _ => none

/-- The character of a simple escape. -/
def escaped : Char → Option Char
  | '"' => some '"'
  | '\\' => some '\\'
  | '/' => some '/'
  | 'b' => some '\x08'
  | 'f' => some '\x0c'
  | 'n' => some '\n'
  | 'r' => some '\r'
  | 't' => some '\t'
  | _ => none

/-- Reads the rest of a text after its opening quote; `acc` holds the characters read, the
latest first. -/
def readText : Nat → List Char → List Char → Option (String × List Char)
  | 0, _, _ => none
  | fuel + 1, acc, cs =>
    match cs with
    | [] => none
    | '"' :: rest => some (String.ofList acc.reverse, rest)
    | '\\' :: 'u' :: rest =>
      match hex4 rest with
      | none => none
      | some (v, rest) =>
        if 0xD800 ≤ v && v < 0xDC00 then
          match rest with
          | '\\' :: 'u' :: rest =>
            match hex4 rest with
            | some (w, rest) =>
              if 0xDC00 ≤ w && w < 0xE000 then
                readText fuel (Char.ofNat (0x10000 + (v - 0xD800) * 0x400 + (w - 0xDC00)) :: acc)
                  rest
              else none
            | none => none
          | _ => none
        else if 0xDC00 ≤ v && v < 0xE000 then none
        else readText fuel (Char.ofNat v :: acc) rest
    | '\\' :: e :: rest =>
      match escaped e with
      | some c => readText fuel (c :: acc) rest
      | none => none
    | c :: rest => if c.toNat < 0x20 then none else readText fuel (c :: acc) rest

/-- The largest significand: `2^64 - 1`. -/
def significandLimit : Nat := Nat.pow 2 64 - 1

/-- The largest exponent: `2^31 - 1`. -/
def exponentLimit : Nat := Nat.pow 2 31 - 1

/-- Whether `10 · acc + d` passes `limit`. -/
def passes (limit acc d : Nat) : Bool :=
  acc ≥ limit / 10 && (acc > limit / 10 || d > limit % 10)

/-- The value of a decimal digit. -/
def digitOf (c : Char) : Nat := c.toNat - '0'.toNat

/-- Whether a character opens an exponent. -/
def isExponentMark (c : Char) : Bool := c == 'e' || c == 'E'

/-- The double `±significand · 10^exponent` computed in steps, none past the largest. -/
def scaledNumber (negative : Bool) (significand : Nat) (exponent : Int) : Option Numeral :=
  (Number.scaledBits significand exponent).map fun bits =>
    .double (Number.signedDouble negative bits)

/-- Reads the digits of an exponent; `acc` is their value so far, `up` whether it is
positive, and `shift` the exponent gathered before it. -/
def exponentDigits (negative : Bool) (significand : Nat) (shift : Int) (up : Bool) (acc : Nat) :
    List Char → Option (Numeral × List Char)
  | d :: rest =>
    if d.isDigit then
      if passes exponentLimit acc (digitOf d) then
        if significand != 0 && up then none
        else some (.double (Number.signedDouble negative 0), rest.dropWhile Char.isDigit)
      else exponentDigits negative significand shift up (10 * acc + digitOf d) rest
    else
      let total := if up then shift + acc else shift - acc
      let held := max (-(Nat.pow 2 31 : Int)) (min total exponentLimit)
      (scaledNumber negative significand held).map (·, d :: rest)
  | [] =>
    let total := if up then shift + acc else shift - acc
    let held := max (-(Nat.pow 2 31 : Int)) (min total exponentLimit)
    (scaledNumber negative significand held).map (·, [])

/-- Reads an exponent after its mark: an optional sign and at least one digit. -/
def exponentPart (negative : Bool) (significand : Nat) (shift : Int) (cs : List Char) :
    Option (Numeral × List Char) :=
  let (up, cs) := match cs with
    | '+' :: rest => (true, rest)
    | '-' :: rest => (false, rest)
    | cs => (true, cs)
  match cs with
  | d :: rest =>
    if d.isDigit then exponentDigits negative significand shift up (digitOf d) rest else none
  | [] => none

/-- The end of a number after its digits: an exponent, or none. -/
def numberEnd (negative : Bool) (significand : Nat) (shift : Int) :
    List Char → Option (Numeral × List Char)
  | c :: rest =>
    if isExponentMark c then exponentPart negative significand shift rest
    else (scaledNumber negative significand shift).map (·, c :: rest)
  | [] => (scaledNumber negative significand shift).map (·, [])

/-- Reads the digits after a point; `count` of them are in the significand so far, and
`shift` is the exponent gathered before the point. -/
def fractionDigits (negative : Bool) (shift : Int) (count significand : Nat) :
    List Char → Option (Numeral × List Char)
  | d :: rest =>
    if d.isDigit then
      if passes significandLimit significand (digitOf d) then
        numberEnd negative significand (shift - count) ((d :: rest).dropWhile Char.isDigit)
      else fractionDigits negative shift (count + 1) (10 * significand + digitOf d) rest
    else if count == 0 then none
    else numberEnd negative significand (shift - count) (d :: rest)
  | [] => if count == 0 then none else numberEnd negative significand (shift - count) []

/-- Reads the whole digits that no longer fit the significand; each raises the exponent. -/
def extraDigits (negative : Bool) (significand extra : Nat) :
    List Char → Option (Numeral × List Char)
  | d :: rest =>
    if d.isDigit then extraDigits negative significand (extra + 1) rest
    else if d == '.' then fractionDigits negative extra 0 significand rest
    else numberEnd negative significand extra (d :: rest)
  | [] => numberEnd negative significand extra []

/-- The whole number read so far, or the rest of the number after it. -/
def afterWhole (negative : Bool) (significand : Nat) (cs : List Char) :
    Option (Numeral × List Char) :=
  match cs with
  | '.' :: rest => fractionDigits negative 0 0 significand rest
  | c :: rest =>
    if isExponentMark c then exponentPart negative significand 0 rest
    else some (wholeNumber negative significand, c :: rest)
  | [] => some (wholeNumber negative significand, [])
where
  /-- A whole number of its kind: `-0` and negatives past `-2^63` are doubles. -/
  wholeNumber (negative : Bool) (n : Nat) : Numeral :=
    if !negative then .natural n
    else if n == 0 then .double (Number.signedDouble true 0)
    else if n ≤ Nat.pow 2 63 then .negative (-(n : Int))
    else .double (Number.nearestDouble true n 1)

/-- Reads whole digits into the significand while they fit. -/
def wholeDigits (negative : Bool) (significand : Nat) : List Char → Option (Numeral × List Char)
  | d :: rest =>
    if d.isDigit then
      if passes significandLimit significand (digitOf d) then
        extraDigits negative significand 0 (d :: rest)
      else wholeDigits negative (10 * significand + digitOf d) rest
    else afterWhole negative significand (d :: rest)
  | [] => afterWhole negative significand []

/-- Reads a number: an optional minus, then `0` or a digit from one on. -/
def readNumber (cs : List Char) : Option (Numeral × List Char) :=
  let (negative, cs) := match cs with
    | '-' :: rest => (true, rest)
    | cs => (false, cs)
  match cs with
  | '0' :: rest =>
    if (rest.head?.map Char.isDigit).getD false then none else afterWhole negative 0 rest
  | d :: rest => if d.isDigit then wholeDigits negative (digitOf d) rest else none
  | [] => none

mutual

/-- Reads a value after any white space; `depth` is how much deeper arrays and objects may
nest, `fuel` bounds the steps. -/
def readValue : Nat → Nat → List Char → Option (Value × List Char)
  | 0, _, _ => none
  | fuel + 1, depth, cs =>
    match cs.dropWhile isBlank with
    | 'n' :: 'u' :: 'l' :: 'l' :: rest => some (.null, rest)
    | 't' :: 'r' :: 'u' :: 'e' :: rest => some (.bool true, rest)
    | 'f' :: 'a' :: 'l' :: 's' :: 'e' :: rest => some (.bool false, rest)
    | '"' :: rest => (readText (rest.length + 1) [] rest).map fun (s, r) => (.string s, r)
    | '[' :: rest =>
      if depth ≤ 1 then none
      else match rest.dropWhile isBlank with
        | ']' :: after => some (.array [], after)
        | _ => readItems fuel (depth - 1) [] rest
    | '{' :: rest =>
      if depth ≤ 1 then none
      else match rest.dropWhile isBlank with
        | '}' :: after => some (.object [], after)
        | _ => readEntries fuel (depth - 1) [] rest
    | cs => (readNumber cs).map fun (n, r) => (.number n, r)

/-- Reads the items of an array from its first item on; `acc` holds the items read, the
latest first. -/
def readItems : Nat → Nat → List Value → List Char → Option (Value × List Char)
  | 0, _, _, _ => none
  | fuel + 1, depth, acc, cs =>
    match readValue fuel depth cs with
    | none => none
    | some (v, rest) =>
      match rest.dropWhile isBlank with
      | ',' :: after => readItems fuel depth (v :: acc) after
      | ']' :: after => some (.array (v :: acc).reverse, after)
      | _ => none

/-- Reads the entries of an object from its first key on; `acc` holds the entries read. -/
def readEntries : Nat → Nat → List (String × Value) → List Char → Option (Value × List Char)
  | 0, _, _, _ => none
  | fuel + 1, depth, acc, cs =>
    match cs.dropWhile isBlank with
    | '"' :: rest =>
      match readText (rest.length + 1) [] rest with
      | none => none
      | some (key, rest) =>
        match rest.dropWhile isBlank with
        | ':' :: rest =>
          match readValue fuel depth rest with
          | none => none
          | some (v, rest) =>
            let acc := Value.setField acc key v
            match rest.dropWhile isBlank with
            | ',' :: after => readEntries fuel depth acc after
            | '}' :: after => some (.object acc, after)
            | _ => none
        | _ => none
    | _ => none

end

/-- Reads a whole text as one JSON value. -/
def read? (text : String) : Option Value :=
  let cs := text.toList
  match readValue (cs.length + 1) 128 cs with
  | some (v, rest) => if (rest.dropWhile isBlank).isEmpty then some v else none
  | none => none

example : (read? "[1, \"a\", null, true, [-2]]").map Value.render = some "[1, a, , true, [-2]]" := by
  decide +kernel
example : (read? "\x7b\"b\": 1, \"a\": 2, \"b\": 3\x7d").map Value.render = some "[object]" := by
  decide +kernel
example : (read? "01").isNone ∧ (read? "1.").isNone ∧ (read? "[1,]").isNone := by decide +kernel
example : (read? "1E400").isNone ∧ (read? "[1, 2e99999999999]").isNone := by decide +kernel

/-- Reads a whole text as a number, with nothing around it. -/
def number? (text : String) : Option Numeral :=
  match readNumber text.toList with
  | some (n, []) => some n
  | _ => none

example : (number? " 1").isNone ∧ (number? "+1").isNone ∧ (number? "1.").isNone ∧
    (number? ".5").isNone ∧ (number? "inf").isNone := by decide +kernel

end Literal

/-- The order of two values, where they compare: a text against a number is read as a JSON
number first. -/
def Value.order? : Value → Value → Option Ordering
  | .number a, .number b => some (a.order b)
  | .string a, .string b => some (compare a b)
  | .bool a, .bool b => some (compare a b)
  | .number a, .string b => (Literal.number? b).map a.order
  | .string a, .number b => (Literal.number? a).map (·.order b)
  | _, _ => none

example : (Value.order? (.number (.natural 9007199254740993)) (.string "9007199254740992")) =
    some .gt := by decide +kernel

end CrudScaffold.Stub
