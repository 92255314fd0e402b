import CrudScaffold.Text.Char

/-! Text operations on which the spec grammars and the renderers rest: trimming white space,
splitting at a separator character, searching for a piece of text, replacing a character
and full Unicode lowercasing. Splitting and trimming work on `List Char`, so that the
grammars can be reasoned about one character at a time. -/

namespace CrudScaffold.Text

/-- Drops white space from the front of a character list. -/
def dropBlank (l : List Char) : List Char :=
  l.dropWhile isWhiteSpace

/-- Drops white space from both ends of a character list. -/
def trimChars (l : List Char) : List Char :=
  (dropBlank (dropBlank l).reverse).reverse

/-- Drops white space from both ends. -/
def trim (s : String) : String :=
  String.ofList (trimChars s.toList)

/-- Splits a character list at every occurrence of `sep`; there is always one piece more
than there are separators, so an empty list gives one empty piece. -/
def splitChars (sep : Char) : List Char → List (List Char)
  | [] => [[]]
  | c :: rest =>
    if c = sep then [] :: splitChars sep rest
    else match splitChars sep rest with
      | [] => [[c]]
      | p :: ps => (c :: p) :: ps

/-- Splits a text at every occurrence of `sep`. -/
def split (s : String) (sep : Char) : List String :=
  (splitChars sep s.toList).map String.ofList

/-- Splits a text at every character that satisfies `p`. -/
def splitWhere (p : Char → Bool) : List Char → List (List Char)
  | [] => [[]]
  | c :: rest =>
    if p c then [] :: splitWhere p rest
    else match splitWhere p rest with
      | [] => [[c]]
      | q :: qs => (c :: q) :: qs

/-- Whether `pat` occurs in `l` as a contiguous piece. -/
def containsChars (l pat : List Char) : Bool :=
  match l with
  | [] => pat.isEmpty
  | c :: rest => pat.isPrefixOf (c :: rest) || containsChars rest pat

/-- Whether `pat` occurs in `s` as a contiguous piece. -/
def contains (s pat : String) : Bool :=
  containsChars s.toList pat.toList

/-- Replaces every occurrence of the character `c` by the text `new`. -/
def replaceChar (s : String) (c : Char) (new : String) : String :=
  String.ofList (s.toList.flatMap fun d => if d = c then new.toList else [d])

/-- Whether a case-ignorable run followed by a cased character starts the list. -/
def casedAfterIgnorable (l : List Char) : Bool :=
  match l.dropWhile isCaseIgnorable with
  | c :: _ => isCased c
  | [] => false

/-- The lowercase of one character of a text, given the characters before it (nearest
first) and after it. A capital sigma that ends a word becomes a final sigma. -/
def lowerAt (before : List Char) (c : Char) (after : List Char) : List Char :=
  if c = 'Σ' then
    if casedAfterIgnorable before && !casedAfterIgnorable after then ['ς'] else ['σ']
  else if c = 'İ' then ['i', '\u0307']
  else [lowerChar c]

/-- Lowercases the characters of `l`, where `before` holds what precedes them. -/
def lowerFrom (before : List Char) : List Char → List Char
  | [] => []
  | c :: rest => lowerAt before c rest ++ lowerFrom (c :: before) rest

/-- Full Unicode lowercase of a text. -/
def lowercase (s : String) : String :=
  String.ofList (lowerFrom [] s.toList)

/-- ASCII lowercase of a text; other characters are kept. -/
def asciiLower (s : String) : String :=
  s.map Char.toLower

/-- Removes `pre` from the front of `s`, if `s` starts with it. -/
def stripPrefix? (s pre : String) : Option String :=
  if pre.toList.isPrefixOf s.toList then some (String.ofList (s.toList.drop pre.length))
  else none

example : splitChars ':' ['a', ':', ':', 'b'] = [['a'], [], ['b']] := by decide
example : trim "  a b \n" = "a b" := by decide +kernel
example : contains "first_name" "name" = true := by decide +kernel

end CrudScaffold.Text
