/-! The tokens of a YAML character stream, the positions they are found at, and the errors of
reading one.

A position counts characters from the start of the stream, and lines and columns from zero.
An error names the problem and where it was found, and may name the construct being read when
it happened and where that construct began. -/

namespace CrudScaffold.Yaml

/-- A position in the stream. -/
structure Mark where
  index : Nat := 0
  line : Nat := 0
  column : Nat := 0
deriving Repr, DecidableEq, Inhabited

/-- Whether a position is the very start of the stream, which messages leave unnamed. -/
def Mark.isStart (m : Mark) : Bool := m.line == 0 && m.column == 0

/-- A position as messages write it, lines and columns counted from one. -/
def Mark.render (m : Mark) : String :=
  if m.isStart then "position " ++ toString m.index
  else "line " ++ toString (m.line + 1) ++ " column " ++ toString (m.column + 1)

/-- How a scalar was written. -/
inductive ScalarStyle where
  | plain
  | singleQuoted
  | doubleQuoted
  | literal
  | folded
deriving Repr, DecidableEq, Inhabited

/-- What a token is. -/
inductive TokenKind where
  | streamStart
  | streamEnd
  | versionDirective (major minor : Nat)
  | tagDirective (handle tagPrefix : String)
  | documentStart
  | documentEnd
  | blockSequenceStart
  | blockMappingStart
  | blockEnd
  | flowSequenceStart
  | flowSequenceEnd
  | flowMappingStart
  | flowMappingEnd
  | blockEntry
  | flowEntry
  | key
  | value
  | alias (name : String)
  | anchor (name : String)
  | tag (handle suffix : String)
  | scalar (text : String) (style : ScalarStyle)
deriving Repr, DecidableEq, Inhabited

/-- A token with the positions of its first character and of the character after it. -/
structure Token where
  kind : TokenKind
  start : Mark
  stop : Mark
deriving Repr, Inhabited

/-- Why a stream could not be read. -/
structure SyntaxError where
  problem : String
  /-- Where the problem was found. -/
  problemMark : Mark := {}
  /-- The byte offset of a character the stream may not hold at all. -/
  problemOffset : Nat := 0
  /-- The construct being read, and where it began. -/
  context : Option (String × Mark) := none
deriving Repr, Inhabited

/-- The message of an error: the problem, where it was found, and the construct being read
with its start when that differs. -/
def SyntaxError.render (e : SyntaxError) : String :=
  let problemAt :=
    if !e.problemMark.isStart then " at " ++ e.problemMark.render
    else if e.problemOffset != 0 then " at position " ++ toString e.problemOffset
    else ""
  let contextText := match e.context with
    | none => ""
    | some (context, m) =>
      let sameSpot := m.line == e.problemMark.line && m.column == e.problemMark.column
      ", " ++ context ++ (if !m.isStart && !sameSpot then " at " ++ m.render else "")
  e.problem ++ problemAt ++ contextText

end CrudScaffold.Yaml
