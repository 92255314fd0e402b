import CrudScaffold.Text.Property.Escaped

/-! Quoted text as diagnostics show it: between double quotation marks, with the quotation
mark, the backslash and the common control characters escaped by a backslash, and every
other character that would not print as itself (controls, format characters, unassigned and
private code points, separators other than the space, and combining characters) written as
`\u` with its hexadecimal code point in braces. -/

namespace CrudScaffold.Text

open Property

/-- A character as `\u` and its code point in lowercase hexadecimal, in braces. -/
def unicodeEscape (c : Char) : String :=
  "\\u\x7b" ++ String.ofList (Nat.toDigits 16 c.toNat) ++ "\x7d"

/-- The text of one character inside quotes. -/
def escapedChar (c : Char) : String :=
  match c with
  | '\x00' => "\\0"
  | '\t' => "\\t"
  | '\r' => "\\r"
  | '\n' => "\\n"
  | '\\' => "\\\\"
  | '"' => "\\\""
  | _ =>
    if c.toNat < 0x7F && 0x20 ≤ c.toNat then c.toString
    else if graphemeExtend.containsChar c || unprintable.containsChar c then unicodeEscape c
    else c.toString

/-- The text between double quotation marks, escaped. -/
def quoted (s : String) : String :=
  "\"" ++ String.join (s.toList.map escapedChar) ++ "\""

example : quoted "a\"b\\c\nd" = "\"a\\\"b\\\\c\\nd\"" := by decide +kernel

end CrudScaffold.Text
