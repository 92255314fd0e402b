import CrudScaffold.Toml.Value

/-! Reading TOML text: keys, values and the end of a line. Each reader takes the input as a
list of characters and gives back what it read with the rest of the input, or a failure.

A failure records how much input was left where it happened, what was being read (its
labels, innermost first), what was expected there and why. A failure that is not final
lets the caller try another reading of the same input; a final one ends the document.
Readers that can nest (arrays, inline tables) or loop take fuel, and the document reader
gives them as much fuel as there are characters, since every step reads at least one. -/

namespace CrudScaffold.Toml

/-- Something a reader looked for where it failed. -/
inductive Expected where
  /-- One character; a line feed reads as "newline". -/
  | char (c : Char)
  /-- A fixed word. -/
  | word (s : String)
  /-- A kind of thing, in words. -/
  | description (s : String)
deriving Repr, DecidableEq

/-- How an expectation is written in a message. -/
def Expected.render : Expected → String
  | .char '\n' => "newline"
  | .char c => "`" ++ c.toString ++ "`"
  | .word s => "`" ++ s ++ "`"
  | .description s => s

/-- A failure to read. -/
structure Failure where
  /-- How many characters of input were left where reading failed. -/
  rest : Nat
  /-- What was being read, innermost first. -/
  labels : List String := []
  /-- What was expected at the failure, in the order the readers added them. -/
  expected : List Expected := []
  /-- Why the text read could not be taken. -/
  cause : Option String := none
  /-- Whether no other reading of the same input may be tried. -/
  final : Bool := false
deriving Repr

namespace Failure

/-- A failure where the input `s` is left. -/
def here (s : List Char) : Failure := { rest := s.length }

/-- Adds what was being read. -/
def within (f : Failure) (label : String) : Failure :=
  { f with labels := f.labels ++ [label] }

/-- Adds an expectation. -/
def expecting (f : Failure) (e : Expected) : Failure :=
  { f with expected := f.expected ++ [e] }

/-- Sets the cause. -/
def because (f : Failure) (cause : String) : Failure :=
  { f with cause := some cause }

/-- Makes the failure final. -/
def commit (f : Failure) : Failure :=
  { f with final := true }

/-- The message: "invalid" and the innermost label, then the expectations, then the cause,
one to a line. -/
def message (f : Failure) : String :=
  let label := match f.labels.head? with
    | some l => ["invalid " ++ l]
    | none => []
  let expected :=
    if f.expected.isEmpty then []
    else ["expected " ++ ", ".intercalate (f.expected.map Expected.render)]
  let cause := match f.cause with
    | some c => [c]
    | none => []
  "\n".intercalate (label ++ expected ++ cause)

end Failure

/-- What a reader gives: the value read and the rest of the input. -/
abbrev Reading (α : Type) := Except Failure (α × List Char)

/-- Positive infinity. -/
def infinity : Float := 1.0 / 0.0

/-- A float that is not a number. -/
def notANumber : Float := 0.0 / 0.0

/-- Space and tab. -/
def isBlank (c : Char) : Bool := c == ' ' || c == '\t'

/-- Characters of a bare key. -/
def isBareKeyChar (c : Char) : Bool := c.isAlphanum || c == '_' || c == '-'

/-- Characters allowed in a comment: tab and every character from space on, except delete. -/
def isCommentChar (c : Char) : Bool := c == '\t' || (0x20 ≤ c.toNat && c.toNat != 0x7F)

/-- Characters that stand for themselves in a basic string: all printable characters but the
quotation mark and the backslash, and tab. -/
def isBasicChar (c : Char) : Bool :=
  c == ' ' || c == '\t' || c == '!' || (0x23 ≤ c.toNat && c.toNat ≤ 0x5B) ||
    (0x5D ≤ c.toNat && c.toNat ≤ 0x7E) || 0x80 ≤ c.toNat

/-- Characters of a literal string: all printable characters but the apostrophe, and tab. -/
def isLiteralChar (c : Char) : Bool :=
  c == '\t' || (0x20 ≤ c.toNat && c.toNat ≤ 0x26) || (0x28 ≤ c.toNat && c.toNat ≤ 0x7E) ||
    0x80 ≤ c.toNat

/-- Skips spaces and tabs. -/
def skipBlank (s : List Char) : List Char := s.dropWhile isBlank

/-- Skips blanks, line breaks and comments; `inComment` says a comment is open. A comment
ends at the first character that may not stand in it. -/
def skipTrivia (inComment : Bool) : List Char → List Char
  | [] => []
  | c :: rest =>
    if inComment && isCommentChar c then skipTrivia true rest
    else if isBlank c || c == '\n' then skipTrivia false rest
    else if c == '\r' then
      match rest with
      | '\n' :: more => skipTrivia false more
      | _ => c :: rest
    else if c == '#' then skipTrivia true rest
    else c :: rest

/-- A line break: line feed, or carriage return and line feed. -/
def lineBreak? : List Char → Option (List Char)
  | '\n' :: rest => some rest
  | '\r' :: '\n' :: rest => some rest
  | _ => none

/-- The end of a line after a value or a header: blanks, an optional comment, then a line
break or the end of the input. -/
def lineEnd (s : List Char) : Reading Unit :=
  let afterBlank := skipBlank s
  let afterComment := match afterBlank with
    | '#' :: rest => rest.dropWhile isCommentChar
    | _ => afterBlank
  match afterComment with
  | [] => .ok ((), [])
  | _ =>
    match lineBreak? afterComment with
    | some rest => .ok ((), rest)
    | none =>
      .error ((Failure.here afterComment).expecting (.char '\n') |>.expecting (.char '#')
        |>.commit)

/-- The value of a hexadecimal digit. -/
def hexDigit? (c : Char) : Option Nat :=
  if '0' ≤ c && c ≤ '9' then some (c.toNat - '0'.toNat)
  else if 'a' ≤ c && c ≤ 'f' then some (c.toNat - 'a'.toNat + 10)
  else if 'A' ≤ c && c ≤ 'F' then some (c.toNat - 'A'.toNat + 10)
  else none

/-- The number written by hexadecimal digits. -/
def hexValue (ds : List Char) : Nat :=
  ds.foldl (fun n c => 16 * n + (hexDigit? c).getD 0) 0

/-- Whether a number is a Unicode scalar value. -/
def isScalar (n : Nat) : Bool := n < 0xD800 || (0xDFFF < n && n < 0x110000)

/-- Reads `width` hexadecimal digits naming a character, after `\u` or `\U`. -/
def hexEscape (width : Nat) (label : String) (s : List Char) : Reading Char :=
  let digits := (s.takeWhile (fun c => (hexDigit? c).isSome)).take width
  if digits.length < width then .error ((Failure.here s).within label |>.commit)
  else
    let n := hexValue digits
    if isScalar n then .ok (Char.ofNat n, s.drop width)
    else .error ((Failure.here s).because "value is out of range" |>.within label |>.commit)

/-- Reads an escape sequence after its backslash; `none` when the input ends there. -/
def escape : List Char → Except Failure (Option (Char × List Char))
  | [] => .ok none
  | c :: rest =>
    match c with
    | 'b' => .ok (some ('\x08', rest))
    | 'f' => .ok (some ('\x0c', rest))
    | 'n' => .ok (some ('\n', rest))
    | 'r' => .ok (some ('\r', rest))
    | 't' => .ok (some ('\t', rest))
    | '\\' => .ok (some ('\\', rest))
    | '"' => .ok (some ('"', rest))
    | 'u' => (hexEscape 4 "unicode 4-digit hex code" rest).map some
    | 'U' => (hexEscape 8 "unicode 8-digit hex code" rest).map some
    | _ =>
      .error ((Failure.here rest).within "escape sequence"
        |>.expecting (.char 'b') |>.expecting (.char 'f') |>.expecting (.char 'n')
        |>.expecting (.char 'r') |>.expecting (.char 't') |>.expecting (.char 'u')
        |>.expecting (.char 'U') |>.expecting (.char '\\') |>.expecting (.char '"')
        |>.commit)

/-- The body of a basic string after its opening quotation mark, up to and past the closing
one. `acc` holds the characters read so far, the latest first. -/
def basicBody : Nat → List Char → List Char → Reading String
  | 0, _, s => .error ((Failure.here s).within "basic string" |>.commit)
  | fuel + 1, acc, s =>
    let unclosed : Failure := (Failure.here s).within "basic string" |>.commit
    match s with
    | [] => .error unclosed
    | c :: rest =>
      if c == '"' then .ok (String.ofList acc.reverse, rest)
      else if c == '\\' then
        match escape rest with
        | .error e => .error e
        | .ok none => .error unclosed
        | .ok (some (e, more)) => basicBody fuel (e :: acc) more
      else if isBasicChar c then basicBody fuel (c :: acc) rest
      else .error unclosed

/-- Skips the blanks and line breaks after a backslash that ends a line of a multi-line
basic string. -/
def skipEscapedBreak : List Char → List Char
  | [] => []
  | c :: rest =>
    if isBlank c || c == '\n' then skipEscapedBreak rest
    else if c == '\r' then
      match rest with
      | '\n' :: more => skipEscapedBreak more
      | _ => c :: rest
    else c :: rest

/-- Whether a backslash here ends its line: blanks, then a line break. -/
def endsLine (s : List Char) : Bool := (lineBreak? (skipBlank s)).isSome

/-- The body of a multi-line string up to and past its closing delimiter of three `quote`s.
One or two quotes may stand in the text; four or five at the end give one or two quotes of
text before the delimiter. Basic strings (`basic`) take escapes and line-ending backslashes. -/
def multilineBody (basic : Bool) (quote : Char) (label : String) :
    Nat → List Char → List Char → Reading String
  | 0, _, s => .error ((Failure.here s).within label |>.commit)
  | fuel + 1, acc, s =>
    let unclosed : Failure := (Failure.here s).within label |>.commit
    match s with
    | [] => .error unclosed
    | c :: rest =>
      if c == quote then
        let run := (s.takeWhile (· == quote)).length
        if run < 3 then
          match s.drop run with
          | [] => .error unclosed
          | _ => multilineBody basic quote label fuel (List.replicate run quote ++ acc) (s.drop run)
        else
          let extra := min (run - 3) 2
          .ok (String.ofList (List.replicate extra quote ++ acc).reverse, s.drop (extra + 3))
      else if c == '\n' then multilineBody basic quote label fuel ('\n' :: acc) rest
      else if c == '\r' then
        match rest with
        | '\n' :: more => multilineBody basic quote label fuel ('\n' :: acc) more
        | _ => .error unclosed
      else if basic && c == '\\' then
        if endsLine rest then multilineBody basic quote label fuel acc (skipEscapedBreak rest)
        else
          match escape rest with
          | .error e => .error e
          | .ok none => .error unclosed
          | .ok (some (e, more)) => multilineBody basic quote label fuel (e :: acc) more
      else if (if basic then isBasicChar c else isLiteralChar c) then
        multilineBody basic quote label fuel (c :: acc) rest
      else .error unclosed

/-- Reads a literal string after its opening apostrophe. -/
def readLiteral (s : List Char) : Reading String :=
  let text := s.takeWhile isLiteralChar
  match s.drop text.length with
  | '\'' :: more => .ok (String.ofList text, more)
  | other => .error ((Failure.here other).within "literal string" |>.commit)

/-- Reads a string of any of the four kinds; a failure that is not final when no string
starts here. -/
def readString (s : List Char) : Reading String :=
  let fuel := s.length + 1
  match s with
  | '"' :: '"' :: '"' :: rest =>
    let body := match lineBreak? rest with
      | some r => r
      | none => rest
    multilineBody true '"' "multiline basic string" fuel [] body
  | '"' :: rest => basicBody fuel [] rest
  | '\'' :: '\'' :: '\'' :: rest =>
    let body := match lineBreak? rest with
      | some r => r
      | none => rest
    multilineBody false '\'' "multiline literal string" fuel [] body
  | '\'' :: rest => readLiteral rest
  | _ => .error (Failure.here s)

/-- Reads one part of a key: quoted, or a run of bare-key characters. -/
def readSimpleKey (s : List Char) : Reading String :=
  match s with
  | '"' :: rest => basicBody (s.length + 1) [] rest
  | '\'' :: rest => readLiteral rest
  | _ =>
    let bare := s.takeWhile isBareKeyChar
    if bare.isEmpty then .error (Failure.here s)
    else .ok (String.ofList bare, s.drop bare.length)

/-- Reads the dotted parts after the first one; a dot not followed by a key part is left in
the input. -/
def readKeyParts : Nat → List String → List Char → Reading (List String)
  | 0, acc, s => .ok (acc.reverse, s)
  | fuel + 1, acc, s =>
    match s with
    | '.' :: rest =>
      match readSimpleKey (skipBlank rest) with
      | .ok (k, more) => readKeyParts fuel (k :: acc) (skipBlank more)
      | .error e => if e.final then .error e else .ok (acc.reverse, s)
    | _ => .ok (acc.reverse, s)

/-- Reads a dotted key with the blanks around its parts. -/
def readKey (s : List Char) : Reading (List String) :=
  match readSimpleKey (skipBlank s) with
  | .ok (k, rest) => readKeyParts (s.length + 1) [k] (skipBlank rest)
  | .error e => .error (e.within "key")

/-- Digits with single underscores between them; `digit` says which characters are digits.
Gives the digits read, without underscores. A failure here is final: an underscore must
be followed by a digit. -/
def digitRun (digit : Char → Bool) : List Char → List Char → Reading (List Char)
  | acc, [] => .ok (acc.reverse, [])
  | acc, c :: rest =>
    if digit c then digitRun digit (c :: acc) rest
    else if c == '_' then
      match rest with
      | d :: more =>
        if digit d then digitRun digit (d :: acc) more
        else .error ((Failure.here rest).expecting (.description "digit") |>.commit)
      | [] => .error ((Failure.here rest).expecting (.description "digit") |>.commit)
    else .ok (acc.reverse, c :: rest)

/-- Whether a character is a decimal digit. -/
def isDigit (c : Char) : Bool := '0' ≤ c && c ≤ '9'

/-- The number written by decimal digits. -/
def decimalValue (ds : List Char) : Nat :=
  ds.foldl (fun n c => 10 * n + (c.toNat - '0'.toNat)) 0

/-- A sign, if one is written. -/
def readSign : List Char → Option Char × List Char
  | '+' :: rest => (some '+', rest)
  | '-' :: rest => (some '-', rest)
  | s => (none, s)

/-- A decimal integer: an optional sign, then `0` or digits not starting with `0`. Gives the
sign and the digits. -/
def readDecimal (s : List Char) : Reading (Option Char × List Char) :=
  let (sign, rest) := readSign s
  match rest with
  | '0' :: more => .ok ((sign, ['0']), more)
  | c :: more =>
    if isDigit c then
      match digitRun isDigit [c] more with
      | .ok (ds, after) => .ok ((sign, ds), after)
      | .error e => .error (e.within "integer")
    else .error ((Failure.here rest).within "integer")
  | [] => .error ((Failure.here rest).within "integer")

/-- The least and greatest values of a 64-bit signed integer. -/
def int64Min : Int := -9223372036854775808
def int64Max : Int := 9223372036854775807

/-- An integer of the given sign and magnitude, if it fits in 64 bits. -/
def signedValue (sign : Option Char) (n : Nat) : Except String Int :=
  let v : Int := if sign == some '-' then -(n : Int) else n
  if v > int64Max then .error "number too large to fit in target type"
  else if v < int64Min then .error "number too small to fit in target type"
  else .ok v

/-- An integer in base 16, 8 or 2 after its prefix. -/
def readRadixInteger (start : List Char) (radix : Nat) (digit : Char → Bool)
    (label : String) (s : List Char) : Reading Int :=
  match s with
  | c :: rest =>
    if digit c then
      match digitRun digit [c] rest with
      | .error e => .error (e.within label)
      | .ok (ds, after) =>
        let n := ds.foldl (fun n c => radix * n + (hexDigit? c).getD 0) 0
        if n > 9223372036854775807 then
          .error ((Failure.here start).because "number too large to fit in target type" |>.commit)
        else .ok (n, after)
    else .error ((Failure.here s).within label |>.commit)
  | [] => .error ((Failure.here s).within label |>.commit)

/-- Reads an integer: hexadecimal, octal or binary after `0x`, `0o`, `0b`, else decimal. -/
def readInteger (s : List Char) : Reading Int :=
  match s with
  | '0' :: 'x' :: rest => readRadixInteger s 16 (fun c => (hexDigit? c).isSome)
      "hexadecimal integer" rest
  | '0' :: 'o' :: rest => readRadixInteger s 8 (fun c => '0' ≤ c && c ≤ '7') "octal integer" rest
  | '0' :: 'b' :: rest => readRadixInteger s 2 (fun c => c == '0' || c == '1') "binary integer" rest
  | _ =>
    match readDecimal s with
    | .error e => .error e
    | .ok ((sign, ds), rest) =>
      match signedValue sign (decimalValue ds) with
      | .ok v => .ok (v, rest)
      | .error cause => .error ((Failure.here s).because cause |>.commit)

/-- The digits of a fraction or an exponent: a digit first, then digits with single
underscores. -/
def readPlainDigits (label : String) (s : List Char) : Reading (List Char) :=
  match s with
  | c :: rest =>
    if isDigit c then
      match digitRun isDigit [c] rest with
      | .ok r => .ok r
      | .error e => .error (e.within label)
    else .error ((Failure.here s).expecting (.description "digit") |>.within label |>.commit)
  | [] => .error ((Failure.here s).expecting (.description "digit") |>.within label |>.commit)

/-- An exponent after `e` or `E`: an optional sign and digits. -/
def readExponent (s : List Char) : Reading Int :=
  let (sign, rest) := readSign s
  match readPlainDigits "floating-point number" rest with
  | .error e => .error e
  | .ok (ds, after) =>
    let n : Int := decimalValue ds
    .ok (if sign == some '-' then -n else n, after)

/-- The float written as sign, digits and a power of ten. -/
def floatOf (negative : Bool) (digits : Nat) (exponent : Int) : Float :=
  let magnitude :=
    if exponent ≥ 0 then Float.ofScientific digits false exponent.toNat
    else Float.ofScientific digits true (-exponent).toNat
  if negative then -magnitude else magnitude

/-- Reads a float with a fraction, an exponent or both; not final when the text is an integer
or no number. A value too large for a float is refused. -/
def readFloat (s : List Char) : Reading Float :=
  match readDecimal s with
  | .error e => .error (if e.final then e.within "floating-point number" else Failure.here s)
  | .ok ((sign, ds), rest) =>
    let negative := sign == some '-'
    let finish (frac : List Char) (exponent : Int) (after : List Char) : Reading Float :=
      let x := floatOf negative (decimalValue (ds ++ frac)) (exponent - frac.length)
      if x == infinity then
        .error ((Failure.here s).within "floating-point number" |>.commit)
      else .ok (x, after)
    let withExponent (frac : List Char) (after : List Char) : Reading Float :=
      match after with
      | e :: more =>
        if e == 'e' || e == 'E' then
          match readExponent more with
          | .error err => .error err
          | .ok (x, rest') => finish frac x rest'
        else finish frac 0 after
      | [] => finish frac 0 after
    match rest with
    | '.' :: more =>
      match readPlainDigits "floating-point number" more with
      | .error e => .error e
      | .ok (frac, after) => withExponent frac after
    | e :: more =>
      if e == 'e' || e == 'E' then
        match readExponent more with
        | .error err => .error err
        | .ok (x, rest') => finish [] x rest'
      else .error (Failure.here s)
    | [] => .error (Failure.here s)

/-- Reads `inf` or `nan`, with an optional sign. -/
def readSpecialFloat (s : List Char) : Reading Float :=
  let (sign, rest) := readSign s
  let negative := sign == some '-'
  match rest with
  | 'i' :: 'n' :: 'f' :: more => .ok (if negative then -infinity else infinity, more)
  | 'n' :: 'a' :: 'n' :: more => .ok (notANumber, more)
  | _ => .error ((Failure.here rest).within "floating-point number")

/-- Exactly `n` decimal digits and their value. -/
def fixedDigits (n : Nat) (s : List Char) : Option (Nat × List Char) :=
  let ds := (s.takeWhile isDigit).take n
  if ds.length = n then some (decimalValue ds, s.drop n) else none

/-- Two digits for a part of a date or time, at most `max` and at least `min`. -/
def datePart (label : String) (min max : Nat) (s : List Char) : Reading Nat :=
  match fixedDigits 2 s with
  | none => .error ((Failure.here s).within label)
  | some (v, rest) =>
    if min ≤ v && v ≤ max then .ok (v, rest)
    else .error ((Failure.here s).because "value is out of range" |>.within label)

/-- A part that must follow once the reading is certain to be a date or time. -/
def datePartFinal (min max : Nat) (s : List Char) : Reading Nat :=
  match datePart "date-time" min max s with
  | .ok r => .ok r
  | .error e => .error e.commit

/-- Expects one character, with a final failure otherwise. -/
def expectChar (c : Char) (s : List Char) : Reading Unit :=
  match s with
  | d :: rest => if d == c then .ok ((), rest) else .error ((Failure.here s).within "date-time" |>.commit)
  | [] => .error ((Failure.here s).within "date-time" |>.commit)

/-- Two digits, zero-padded. -/
def twoDigits (n : Nat) : String :=
  if n < 10 then "0" ++ toString n else toString n

/-- A time of day, `HH:MM:SS` with an optional fraction; gives its text with the fraction's
trailing zeros dropped and at most nine digits kept. -/
def readTime (s : List Char) : Except Failure (String × List Char) := do
  let (hour, s) ← datePart "date-time" 0 23 s
  let ((), s) ← match s with
    | ':' :: rest => pure ((), rest)
    | _ => throw ((Failure.here s).within "date-time")
  let (minute, s) ← datePartFinal 0 59 s
  let ((), s) ← expectChar ':' s
  let (second, s) ← datePartFinal 0 60 s
  let base := twoDigits hour ++ ":" ++ twoDigits minute ++ ":" ++ twoDigits second
  match s with
  | '.' :: rest =>
    let ds := rest.takeWhile isDigit
    if ds.isEmpty then pure (base, s)
    else
      let kept := (ds.take 9 ++ List.replicate (9 - min 9 ds.length) '0')
      let trimmed := (kept.reverse.dropWhile (· == '0')).reverse
      pure (if trimmed.isEmpty then base else base ++ "." ++ String.ofList trimmed,
        rest.drop ds.length)
  | _ => pure (base, s)

/-- Whether a year is a leap year. -/
def isLeapYear (y : Nat) : Bool := y % 4 == 0 && (y % 100 != 0 || y % 400 == 0)

/-- The number of days in a month. -/
def daysInMonth (y m : Nat) : Nat :=
  if m == 2 then (if isLeapYear y then 29 else 28)
  else if m == 4 || m == 6 || m == 9 || m == 11 then 30 else 31

/-- An offset after a time: `Z`, or a sign with hours and minutes. -/
def readOffset (s : List Char) : Reading String :=
  match s with
  | c :: rest =>
    if c == 'Z' || c == 'z' then .ok ("Z", rest)
    else if c == '+' || c == '-' then
      let numeric : Except Failure (String × List Char) := do
        let (h, r) ← datePartFinal 0 23 rest
        let ((), r) ← expectChar ':' r
        let (m, r) ← datePartFinal 0 59 r
        pure (c.toString ++ twoDigits h ++ ":" ++ twoDigits m, r)
      match numeric with
      | .ok r => .ok r
      | .error e => .error { e with labels := "time offset" :: e.labels }
    else .error (Failure.here s)
  | [] => .error (Failure.here s)

/-- Reads a date, a date with a time, or a time; gives its normal text. -/
def readDatetime (s : List Char) : Except Failure (String × List Char) :=
  match fixedDigits 4 s with
  | some (year, '-' :: rest) => do
    let (month, r) ← datePartFinal 1 12 rest
    let ((), r) ← expectChar '-' r
    let (day, r1) ← datePartFinal 1 31 r
    if daysInMonth year month < day then
      throw ((Failure.here r).because "value is out of range" |>.within "date-time" |>.commit)
    let date := String.ofList (s.take 4) ++ "-" ++ twoDigits month ++ "-" ++ twoDigits day
    match r1 with
    | d :: more =>
      if d == 'T' || d == 't' || d == ' ' then
        match readTime more with
        | .ok (time, r2) =>
          match readOffset r2 with
          | .ok (off, r3) => pure (date ++ "T" ++ time ++ off, r3)
          | .error e => if e.final then throw e else pure (date ++ "T" ++ time, r2)
        | .error e => if e.final then throw e else pure (date, r1)
      else pure (date, r1)
    | [] => pure (date, r1)
  | _ =>
    match readTime s with
    | .ok r => .ok r
    | .error e => .error e

/-- The failure of a value that starts like a bare word. -/
def notAString (s : List Char) : Failure :=
  (Failure.here s).within "string" |>.expecting (.char '"') |>.expecting (.char '\'')

/-- Reads a number or a date, trying a date first, then a float, then an integer. -/
def readNumber (s : List Char) : Reading Value :=
  match readDatetime s with
  | .ok (t, rest) => .ok (.datetime t, rest)
  | .error e =>
    if e.final then .error e
    else
      match readFloat s with
      | .ok (x, rest) => .ok (.float x, rest)
      | .error e =>
        if e.final then .error e
        else
          match readSpecialFloat s with
          | .ok (x, rest) => .ok (.float x, rest)
          | .error e =>
            if e.final then .error e
            else
              match readInteger s with
              | .ok (n, rest) => .ok (.integer n, rest)
              | .error e => .error e

/-- The table reached by following a path of keys through nested tables. -/
def tableAt? : Value → List String → Option Value
  | t, [] => some t
  | .table entries, k :: ks =>
    match entries.find? (·.1 == k) with
    | some (_, v) => tableAt? v ks
    | none => none
  | _, _ :: _ => none

/-- The message for a dotted key that runs into a value that is not a table. -/
def extendMessage (key : List String) (actual : String) : String :=
  "dotted key `" ++ ".".intercalate key ++ "` attempted to extend non-table type (" ++
    actual ++ ")"

/-- Follows a path of keys from a table; gives whether the whole path exists. A step onto a
value other than a table fails; `whole` is the key being placed and `depth` the steps taken. -/
def followPath (whole : List String) (depth : Nat) : Value → List String → Except String Bool
  | _, [] => .ok true
  | .table entries, k :: ks =>
    match entries.find? (·.1 == k) with
    | none => .ok false
    | some (_, v) =>
      match v with
      | .table _ => followPath whole (depth + 1) v ks
      | other => .error (extendMessage (whole.take (depth + 1)) other.typeName)
  | _, _ :: _ => .ok false

/-- Places a value under a key at a path of nested tables, making missing tables. -/
def insertAt : Value → List String → String → Value → Value
  | .table entries, [], k, v => .table (entries ++ [(k, v)])
  | .table entries, p :: ps, k, v =>
    match entries.find? (·.1 == p) with
    | some (_, sub) =>
      .table (entries.map fun e => if e.1 == p then (p, insertAt sub ps k v) else e)
    | none => .table (entries ++ [(p, insertAt (.table []) ps k v)])
  | t, _, _, _ => t

/-- Whether a table has a key. -/
def hasKey (t : Value) (k : String) : Bool :=
  match t with
  | .table entries => entries.any (·.1 == k)
  | _ => false

/-- Adds one pair to an inline table under construction. `dotted` lists the tables that
dotted keys made. A dotted key may only extend such tables, and a plain key may not name a
key twice. -/
def addInlinePair (acc : Value × List (List String)) (pair : List String × Value) :
    Except String (Value × List (List String)) := do
  let (t, dotted) := acc
  let (key, v) := pair
  let pre := key.dropLast
  let last := key.getLastD ""
  let present ← followPath key 0 t pre
  let reachedDotted := !pre.isEmpty && (!present || dotted.contains pre)
  if reachedDotted == pre.isEmpty then throw ("duplicate key `" ++ last ++ "`")
  if hasKey ((tableAt? t pre).getD (.table [])) last then
    throw ("duplicate key `" ++ last ++ "`")
  let created := ((List.range pre.length).map fun i => pre.take (i + 1)).filter
    fun p => (tableAt? t p).isNone
  pure (insertAt t pre last v, dotted ++ created)

/-- Builds an inline table from its pairs; dotted keys make nested tables. -/
def inlineTableOf (pairs : List (List String × Value)) : Except String Value :=
  (pairs.foldlM addInlinePair (Value.table [], [])).map (·.1)

mutual

/-- Reads a value. -/
def readValue : Nat → List Char → Reading Value
  | 0, s => .error (Failure.here s |>.commit)
  | fuel + 1, s =>
    match s with
    | [] => .error (Failure.here s)
    | c :: rest =>
      if c == '"' || c == '\'' then
        match readString s with
        | .ok (t, more) => .ok (.string t, more)
        | .error e => .error e
      else if c == '[' then readArray fuel [] rest
      else if c == '{' then readInlineTable fuel rest
      else if c == '+' || c == '-' || isDigit c then readNumber s
      else if c == '_' then
        match readInteger s with
        | .ok (n, more) => .ok (.integer n, more)
        | .error e => .error (e.expecting (.description "leading digit"))
      else if c == '.' then
        match readFloat s with
        | .ok (x, more) => .ok (.float x, more)
        | .error e => .error (e.expecting (.description "leading digit"))
      else
        let word (w : List Char) (v : Value) : Reading Value :=
          if w.isPrefixOf s then .ok (v, s.drop w.length) else .error (notAString s)
        match c with
        | 't' => word ['t', 'r', 'u', 'e'] (.boolean true)
        | 'f' => word ['f', 'a', 'l', 's', 'e'] (.boolean false)
        | 'i' => word ['i', 'n', 'f'] (.float infinity)
        | 'n' => word ['n', 'a', 'n'] (.float notANumber)
        | _ => .error (notAString s)

/-- Reads the items of an array after its opening bracket or after a comma; `acc` holds the
items read so far, the latest first. A comma may end the items. -/
def readArray : Nat → List Value → List Char → Reading Value
  | 0, _, s => .error (Failure.here s |>.commit)
  | fuel + 1, acc, s =>
    let close (items : List Value) (t : List Char) : Reading Value :=
      match skipTrivia false t with
      | ']' :: more => .ok (.array items.reverse, more)
      | other => .error ((Failure.here other).within "array" |>.expecting (.char ']') |>.commit)
    match readValue fuel (skipTrivia false s) with
    | .error e => if e.final then .error e else close acc s
    | .ok (v, rest) =>
      match skipTrivia false rest with
      | ',' :: more => readArray fuel (v :: acc) more
      | other => close (v :: acc) other

/-- Reads an inline table after its opening brace: key-value pairs separated by commas, then
the closing brace. -/
def readInlineTable : Nat → List Char → Reading Value
  | 0, s => .error (Failure.here s |>.commit)
  | fuel + 1, s =>
    match readInlinePairs fuel [] s with
    | .error e => .error e
    | .ok (pairs, rest) =>
      match inlineTableOf pairs with
      | .error cause => .error ((Failure.here s).because cause |>.commit)
      | .ok v =>
        match skipBlank rest with
        | '}' :: more => .ok (v, more)
        | other =>
          .error ((Failure.here other).within "inline table" |>.expecting (.char '}') |>.commit)

/-- Reads the pairs of an inline table; `acc` holds the pairs read so far, the latest first. -/
def readInlinePairs : Nat → List (List String × Value) → List Char →
    Reading (List (List String × Value))
  | 0, _, s => .error (Failure.here s |>.commit)
  | fuel + 1, acc, s =>
    match readKey s with
    | .error e => if e.final then .error e else .ok (acc.reverse, s)
    | .ok (key, rest) =>
      match rest with
      | '=' :: more =>
        match readValue fuel (skipBlank more) with
        | .error e => .error e.commit
        | .ok (v, after) =>
          let after := skipBlank after
          let acc := (key, v) :: acc
          match after with
          | ',' :: next =>
            match readKey next with
            | .error e => if e.final then .error e else .ok (acc.reverse, after)
            | .ok _ => readInlinePairs fuel acc next
          | _ => .ok (acc.reverse, after)
      | _ =>
        .error ((Failure.here rest).expecting (.char '.') |>.expecting (.char '=') |>.commit)

end

end CrudScaffold.Toml
