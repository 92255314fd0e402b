import CrudScaffold.Text.Basic

/-! Case styles of identifiers: snake and kebab case (lowercase words joined by a separator)
and camel, Pascal and sentence case (words told apart by capitals or blanks).

Word boundaries are found the way the naming layer of the scaffolder finds them. Letters
are changed by their ASCII case only, so `é` stays `é` and `É` stays `É`. A separated style
puts a separator before a capital-like character (one that ASCII uppercasing leaves alone,
digits and non-ASCII letters included) when the character one position after or before it
is lowercase; those neighbours are looked up at the character position equal to the
character's byte offset, which is what makes `日本Post` and `Ñandú` come out as they do. -/

namespace CrudScaffold.Naming

open Text

/-- Drops trailing characters that are neither letters nor numbers. -/
def trimTail (l : List Char) : List Char :=
  (l.reverse.dropWhile (fun c => !isAlphanumeric c)).reverse

/-- Whether the character at position `i` of `whole` is lowercase; positions past the end
read as `A`. -/
def lowerAtPos (whole : List Char) (i : Nat) : Bool :=
  isLowercase (whole.getD i 'A')

/-- Lowercase words joined by `sep`, from the characters `l` whose first one starts at byte
offset `byte` of `whole`. `fresh` holds at the start of a word. -/
def separatedFrom (sep : Char) (whole : List Char) : Bool → Nat → List Char → List Char
  | _, _, [] => []
  | fresh, byte, c :: rest =>
    let next := byte + c.utf8Size
    if !isAlphanumeric c then
      if fresh then separatedFrom sep whole fresh next rest
      else sep :: separatedFrom sep whole true next rest
    else if !fresh && c == c.toUpper &&
        (lowerAtPos whole (byte + 1) || lowerAtPos whole (byte - 1)) then
      sep :: c.toLower :: separatedFrom sep whole false next rest
    else c.toLower :: separatedFrom sep whole false next rest

/-- Lowercase words joined by `sep`. -/
def separated (sep : Char) (s : String) : String :=
  String.ofList (separatedFrom sep s.toList true 0 (trimTail s.toList))

/-- `snake_case`. -/
def snakeCase (s : String) : String := separated '_' s

/-- `kebab-case`. -/
def kebabCase (s : String) : String := separated '-' s

/-- How a joined style writes its words. -/
structure WordStyle where
  /-- The first letter starts a word. -/
  startsWord : Bool
  /-- The first word is written apart from the others. -/
  firstApart : Bool
  /-- Words are separated by a blank. -/
  spaced : Bool
  /-- Only the first word starts with a capital. -/
  lowerLater : Bool

/-- Words of `l` in the given style. `newWord` holds when the next letter starts a word,
`first` while no word has been started, `seen` once a letter or number has been read, and
`last` is the last letter written inside a word. -/
def joinedFrom (st : WordStyle) : Bool → Bool → Bool → Char → List Char → List Char
  | _, _, _, _, [] => []
  | newWord, first, seen, last, c :: rest =>
    if !isAlphanumeric c then
      if seen then joinedFrom st true first seen last rest
      else joinedFrom st newWord first seen last rest
    else if isNumeric c then c :: joinedFrom st true first true last rest
    else if newWord || (isLowercase last && isUppercase c && last != ' ') then
      (if st.spaced && !first then [' '] else []) ++
        (if !st.lowerLater || first then c.toUpper else c.toLower) ::
          joinedFrom st false false true last rest
    else c.toLower :: joinedFrom st newWord first true c rest

/-- Words of `s` in the given style. -/
def joined (st : WordStyle) (s : String) : String :=
  String.ofList (joinedFrom st st.startsWord st.firstApart false ' ' (trimTail s.toList))

/-- `camelCase`: the first word in lowercase, later words capitalised. -/
def camelCase (s : String) : String := joined ⟨false, false, false, false⟩ s

/-- `PascalCase`: every word capitalised. -/
def pascalCase (s : String) : String := joined ⟨true, false, false, false⟩ s

/-- `Sentence case`: words separated by blanks, only the first capitalised. -/
def sentenceCase (s : String) : String := joined ⟨true, true, true, true⟩ s

end CrudScaffold.Naming
