import CrudScaffold.Yaml.Scanner.State

/-! Scanning node properties and directives: anchors (`&name`), aliases (`*name`), tags
(`!suffix`, `!handle!suffix`, `!<verbatim>`) and the `%YAML` and `%TAG` directives.

Tag characters may be written as `%` escapes of UTF-8 bytes; an escape must start a valid
UTF-8 sequence and the bytes after its first must be continuation bytes. -/

namespace CrudScaffold.Yaml

/-- Scans an anchor or an alias: a name of word characters, followed by a blank or an
indicator. -/
def scanAnchor (isAlias : Bool) : Scan Token := do
  let start ← here
  advance
  let name ← readWhile isWordChar
  let stop ← here
  let c ← current
  if name.isEmpty || !(isBlankZ c || "?:,]%@`".contains c || c == '\x7d') then
    scanError (if isAlias then "while scanning an alias" else "while scanning an anchor") start
      "did not find expected alphabetic or numeric character"
  return ⟨if isAlias then .alias name else .anchor name, start, stop⟩

/-- Scans a tag handle: `!`, `!!` or `!word!`. Outside a directive a `!word` without its
closing `!` is given as read, to be taken as the start of a tag. -/
def scanTagHandle (directive : Bool) (start : Mark) : Scan String := do
  if (← current) != '!' then
    scanError (if directive then "while scanning a tag directive" else "while scanning a tag")
      start "did not find expected '!'"
  advance
  let word ← readWhile isWordChar
  if (← current) == '!' then
    advance
    return "!" ++ word ++ "!"
  if directive && !word.isEmpty then
    scanError "while parsing a tag directive" start "did not find expected '!'"
  return "!" ++ word

/-- The number of bytes of a UTF-8 sequence by its first byte; zero for a byte that cannot
start one. -/
def utf8Width (octet : Nat) : Nat :=
  if octet / 128 == 0 then 1
  else if octet / 32 == 6 then 2
  else if octet / 16 == 14 then 3
  else if octet / 8 == 30 then 4
  else 0

/-- The code point of a UTF-8 byte sequence. -/
def utf8CodePoint (bytes : List Nat) : Nat :=
  match bytes with
  | [] => 0
  | first :: rest =>
    let lead := match bytes.length with
      | 1 => first
      | 2 => first % 32
      | 3 => first % 16
      | _ => first % 8
    rest.foldl (fun v b => 64 * v + b % 64) lead

/-- Reads the `%` escapes of one UTF-8 encoded character in a tag. -/
def scanUriEscapes (directive : Bool) (start : Mark) : Scan Char := do
  let context := if directive then "while parsing a %TAG directive" else "while parsing a tag"
  let rec go : Nat → Nat → List Nat → Scan (List Nat)
    | 0, _, acc => pure acc
    | fuel + 1, width, acc => do
      let s ← get
      if !(s.ahead 0 == '%' && isHex (s.ahead 1) && isHex (s.ahead 2)) then
        scanError context start "did not find URI escaped octet"
      let octet := 16 * hexValue (s.ahead 1) + hexValue (s.ahead 2)
      let width ← if width == 0 then do
          let w := utf8Width octet
          if w == 0 then scanError context start "found an incorrect leading UTF-8 octet"
          pure w
        else do
          if octet / 64 != 2 then scanError context start "found an incorrect trailing UTF-8 octet"
          pure width
      modify (·.forward 3)
      let acc := acc ++ [octet]
      if acc.length ≥ width then pure acc else go fuel width acc
  let bytes ← go 4 0 []
  return Char.ofNat (utf8CodePoint bytes)

/-- Whether a character may appear in a tag; inside `!<...>` flow indicators may too. -/
def isUriChar (verbatim : Bool) (c : Char) : Bool :=
  isWordChar c || ";/?:@&=+$.%!~*'()".contains c || (verbatim && ",[]".contains c)

/-- Scans the characters of a tag after its handle. `head` is text already read as part of
it, with its leading `!`. -/
def scanTagUri (verbatim directive : Bool) (head : String) (start : Mark) : Scan String := do
  let rec go : Nat → String → Nat → Scan (String × Nat)
    | 0, text, length => pure (text, length)
    | fuel + 1, text, length => do
      let c ← current
      if !isUriChar verbatim c then return (text, length)
      if c == '%' then
        let decoded ← scanUriEscapes directive start
        go fuel (text.push decoded) (length + 1)
      else
        advance
        go fuel (text.push c) (length + 1)
  let (text, length) ← go ((← get).input.size + 1) (String.ofList (head.toList.drop 1))
    head.length
  if length == 0 then
    scanError (if directive then "while parsing a %TAG directive" else "while parsing a tag")
      start "did not find expected tag URI"
  return text

/-- Scans a tag. The non-specific tag `!` has an empty handle and the suffix `!`. -/
def scanTag : Scan Token := do
  let start ← here
  let s ← get
  let (handle, suffix) ← if s.ahead 1 == '<' then do
      advance
      advance
      let suffix ← scanTagUri true false "" start
      if (← current) != '>' then
        scanError "while scanning a tag" start "did not find the expected '>'"
      advance
      pure ("", suffix)
    else do
      let handle ← scanTagHandle false start
      if handle.length > 1 && handle.startsWith "!" && handle.endsWith "!" then
        let suffix ← scanTagUri false false "" start
        pure (handle, suffix)
      else
        let suffix ← scanTagUri false false handle start
        pure (if suffix.isEmpty then ("", "!") else ("!", suffix))
  let c ← current
  if !isBlankZ c && ((← get).flowLevel == 0 || c != ',') then
    scanError "while scanning a tag" start "did not find expected whitespace or line break"
  return ⟨.tag handle suffix, start, ← here⟩

/-- Reads the major or minor number of a `%YAML` directive: one to nine digits. -/
def scanVersionNumber (start : Mark) : Scan Nat := do
  let s ← get
  let n := s.spanWhile isDecimal
  if n > 9 then
    modify (·.forward 9)
    scanError "while scanning a %YAML directive" start "found extremely long version number"
  if n == 0 then
    scanError "while scanning a %YAML directive" start "did not find expected version number"
  let digits ← readWhile isDecimal
  return digits.foldl (fun v d => 10 * v + (d.toNat - '0'.toNat)) 0

/-- Scans a `%YAML` or `%TAG` directive with the rest of its line. -/
def scanDirective : Scan Token := do
  let start ← here
  advance
  let name ← readWhile isWordChar
  if name.isEmpty then
    scanError "while scanning a directive" start "could not find expected directive name"
  if !isBlankZ (← current) then
    scanError "while scanning a directive" start "found unexpected non-alphabetical character"
  let kind ← if name == "YAML" then do
      skipWhile isBlank
      let major ← scanVersionNumber start
      if (← current) != '.' then
        scanError "while scanning a %YAML directive" start
          "did not find expected digit or '.' character"
      advance
      let minor ← scanVersionNumber start
      pure (TokenKind.versionDirective major minor)
    else if name == "TAG" then do
      skipWhile isBlank
      let handle ← scanTagHandle true start
      if !isBlank (← current) then
        scanError "while scanning a %TAG directive" start "did not find expected whitespace"
      skipWhile isBlank
      let tagPrefix ← scanTagUri true true "" start
      if !isBlankZ (← current) then
        scanError "while scanning a %TAG directive" start
          "did not find expected whitespace or line break"
      pure (TokenKind.tagDirective handle tagPrefix)
    else scanError "while scanning a directive" start "found unknown directive name"
  let stop ← here
  skipWhile isBlank
  if (← current) == '#' then skipWhile fun c => !isBreakZ c
  if !isBreakZ (← current) then
    scanError "while scanning a directive" start "did not find expected comment or line break"
  if isBreak (← current) then skipLine
  return ⟨kind, start, stop⟩

end CrudScaffold.Yaml
