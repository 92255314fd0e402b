import CrudScaffold.Text.Basic

/-! The syntax of stub templates as a parsing expression grammar: the parse of a template into
the rules it matched, or the report of why it does not parse.

A grammar is a list of rules, each with a body built from literals, character ranges, any
character, rule calls, sequences, ordered choices, options, repetitions and the look-ahead
predicates. Rules are of four kinds. *Silent* rules are plain abbreviations. *Normal* rules
skip white space between the parts of a sequence and between the rounds of a repetition, as
long as no *atomic* rule is running. *Atomic* rules skip nothing and hide the rules they call;
*compound* rules skip nothing but show the rules they call.

A parse lists every shown rule that matched, outside look-aheads, with the characters it
spans, each before the rules it called: the order in which the matches began.

When a template does not parse, the report names the farthest place where a shown rule was
tried and failed, with the rules that were expected there and those that were not wanted
there (rules that matched inside a negative look-ahead). A rule whose parts failed at the same
place is reported instead of its parts, except when exactly one part failed there: then that
part is the better report. Rules are listed in the order of the grammar. -/

namespace CrudScaffold.Stub.Syntax

/-- The rules of the template grammar, in the order the grammar declares them. -/
inductive Rule where
  | eoi | whitespace | keywords | escape | rawText | rawBlockText
  | literal | nullLiteral | booleanLiteral | numberLiteral
  | jsonChar | jsonCharDoubleQuote | jsonCharSingleQuote
  | stringInnerDoubleQuote | stringInnerSingleQuote | stringLiteral
  | arrayLiteral | objectLiteral
  | symbolChar | partialSymbolChar | pathChar
  | identifier | partialIdentifier | reference | name
  | helperParameter | hash | blockParam | expLine | partialExpLine | subexpression
  | leadingTilde | trailingTilde
  | expression | htmlExpressionTripleBracketLegacy | htmlExpressionTripleBracket
  | ampExpression | htmlExpression | decoratorExpression | partialExpression
  | invertTagItem | invertTag | invertChainTag
  | helperBlockStart | helperBlockEnd | helperBlock
  | decoratorBlockStart | decoratorBlockEnd | decoratorBlock
  | partialBlockStart | partialBlockEnd | partialBlock
  | rawBlockStart | rawBlockEnd | rawBlock
  | hbsComment | hbsCommentCompact | template | parameter | handlebars
  | pathId | pathRawId | pathSep | pathUp | pathKey | pathRoot | pathCurrent | pathItem
  | pathLocal | pathInline | path
deriving Repr, DecidableEq, Ord, Inhabited

/-- The name of a rule in reports. -/
def Rule.label : Rule → String
  | .eoi => "EOI" | .whitespace => "WHITESPACE" | .keywords => "keywords"
  | .escape => "escape" | .rawText => "raw_text" | .rawBlockText => "raw_block_text"
  | .literal => "literal" | .nullLiteral => "null_literal"
  | .booleanLiteral => "boolean_literal" | .numberLiteral => "number_literal"
  | .jsonChar => "json_char" | .jsonCharDoubleQuote => "json_char_double_quote"
  | .jsonCharSingleQuote => "json_char_single_quote"
  | .stringInnerDoubleQuote => "string_inner_double_quote"
  | .stringInnerSingleQuote => "string_inner_single_quote"
  | .stringLiteral => "string_literal" | .arrayLiteral => "array_literal"
  | .objectLiteral => "object_literal" | .symbolChar => "symbol_char"
  | .partialSymbolChar => "partial_symbol_char" | .pathChar => "path_char"
  | .identifier => "identifier" | .partialIdentifier => "partial_identifier"
  | .reference => "reference" | .name => "name" | .helperParameter => "helper_parameter" | .hash => "hash"
  | .blockParam => "block_param" | .expLine => "exp_line"
  | .partialExpLine => "partial_exp_line" | .subexpression => "subexpression"
  | .leadingTilde => "leading_tilde_to_omit_whitespace"
  | .trailingTilde => "trailing_tilde_to_omit_whitespace"
  | .expression => "expression"
  | .htmlExpressionTripleBracketLegacy => "html_expression_triple_bracket_legacy"
  | .htmlExpressionTripleBracket => "html_expression_triple_bracket"
  | .ampExpression => "amp_expression" | .htmlExpression => "html_expression"
  | .decoratorExpression => "decorator_expression"
  | .partialExpression => "partial_expression" | .invertTagItem => "invert_tag_item"
  | .invertTag => "invert_tag" | .invertChainTag => "invert_chain_tag"
  | .helperBlockStart => "helper_block_start" | .helperBlockEnd => "helper_block_end"
  | .helperBlock => "helper_block" | .decoratorBlockStart => "decorator_block_start"
  | .decoratorBlockEnd => "decorator_block_end" | .decoratorBlock => "decorator_block"
  | .partialBlockStart => "partial_block_start" | .partialBlockEnd => "partial_block_end"
  | .partialBlock => "partial_block" | .rawBlockStart => "raw_block_start"
  | .rawBlockEnd => "raw_block_end" | .rawBlock => "raw_block"
  | .hbsComment => "hbs_comment" | .hbsCommentCompact => "hbs_comment_compact"
  | .template => "template" | .parameter => "parameter" | .handlebars => "handlebars"
  | .pathId => "path_id" | .pathRawId => "path_raw_id" | .pathSep => "path_sep"
  | .pathUp => "path_up" | .pathKey => "path_key" | .pathRoot => "path_root"
  | .pathCurrent => "path_current" | .pathItem => "path_item" | .pathLocal => "path_local"
  | .pathInline => "path_inline" | .path => "path"

/-- A parsing expression. -/
inductive Pattern where
  /-- The characters of a text, in order. -/
  | lit (s : String)
  /-- One character between two, both included. -/
  | range (lo hi : Char)
  /-- Any one character. -/
  | any
  /-- The end of the input. -/
  | eoi
  /-- A rule. -/
  | call (r : Rule)
  /-- The patterns one after another. -/
  | seq (ps : List Pattern)
  /-- The first pattern that matches. -/
  | alt (ps : List Pattern)
  /-- The pattern or nothing. -/
  | opt (p : Pattern)
  /-- The pattern as often as it matches, maybe never. -/
  | star (p : Pattern)
  /-- The pattern as often as it matches, at least once. -/
  | plus (p : Pattern)
  /-- Matches nothing, when the pattern does not match here. -/
  | notAhead (p : Pattern)
  /-- Matches nothing, when the pattern matches here. -/
  | ahead (p : Pattern)
deriving Repr

/-- How a rule runs and whether it is reported. -/
inductive Kind where
  | normal
  | silent
  | atomic
  | compound
deriving Repr, DecidableEq

section Grammar

open Pattern

/-- An ASCII letter or digit. -/
def asciiAlphanumeric : Pattern := alt [range 'a' 'z', range 'A' 'Z', range '0' '9']

/-- A decimal digit. -/
def digit : Pattern := range '0' '9'

/-- A hexadecimal digit. -/
def hexDigit : Pattern := alt [range '0' '9', range 'a' 'f', range 'A' 'F']

/-- Any character outside ASCII. -/
def nonAscii : List Pattern :=
  [range '\u0080' '\u07ff', range '\u0800' '\uffff',
    range (Char.ofNat 0x10000) (Char.ofNat 0x10ffff)]

/-- A character of a quoted text, quoted by `q`. -/
def quotedChar (q : String) : Pattern :=
  alt [seq [notAhead (alt [lit q, lit "\\"]), any],
    seq [lit "\\", alt [lit q, lit "\\", lit "/", lit "b", lit "f", lit "n", lit "r", lit "t"]],
    seq [lit "\\", seq [lit "u", hexDigit, hexDigit, hexDigit, hexDigit]]]

/-- The two braces that open a tag. -/
def open2 : Pattern := lit "\x7b\x7b"

/-- The two braces that close a tag. -/
def close2 : Pattern := lit "\x7d\x7d"

/-- The three braces that open a raw tag. -/
def open3 : Pattern := lit "\x7b\x7b\x7b"

/-- The three braces that close a raw tag. -/
def close3 : Pattern := lit "\x7d\x7d\x7d"

/-- The four braces that open a raw block tag. -/
def open4 : Pattern := lit "\x7b\x7b\x7b\x7b"

/-- The four braces that close a raw block tag. -/
def close4 : Pattern := lit "\x7d\x7d\x7d\x7d"

/-- One opening brace. -/
def openBrace : Pattern := lit "\x7b"

/-- One closing brace. -/
def closeBrace : Pattern := lit "\x7d"

/-- The start of a comment. -/
def openComment : Pattern := lit "\x7b\x7b!"

/-- The end of a long comment. -/
def closeLongComment : Pattern := lit "--\x7d\x7d"

/-- An optional `~` before the content of a tag. -/
def pre : Pattern := opt (call .leadingTilde)

/-- An optional `~` after the content of a tag. -/
def pro : Pattern := opt (call .trailingTilde)

/-- A helper with its arguments, or a name alone. -/
def callOrName : Pattern :=
  alt [seq [call .identifier, plus (alt [call .hash, call .helperParameter])], call .name]

/-- The kind of each rule. -/
def Rule.kind : Rule → Kind
  | .whitespace | .symbolChar | .partialSymbolChar | .pathChar | .name | .expLine
  | .partialExpLine | .htmlExpressionTripleBracketLegacy | .htmlExpressionTripleBracket
  | .ampExpression | .helperBlock | .decoratorBlock | .partialBlock | .rawBlock | .parameter
  | .handlebars | .pathSep | .pathKey | .pathCurrent | .pathItem | .path => .silent
  | .keywords | .escape | .nullLiteral | .booleanLiteral | .numberLiteral
  | .stringInnerDoubleQuote | .stringInnerSingleQuote | .identifier | .partialIdentifier
  | .pathId => .atomic
  | .rawText | .rawBlockText | .stringLiteral | .reference | .hbsComment
  | .hbsCommentCompact | .pathInline => .compound
  | _ => .normal

/-- The body of each rule. -/
def Rule.body : Rule → Pattern
  | .eoi => Pattern.eoi
  | .whitespace => alt [lit " ", lit "\t", lit "\n", lit "\r"]
  | .keywords => alt [lit "as", lit "else"]
  | .escape =>
    alt [seq [lit "\\", open2, opt open2],
      seq [lit "\\", plus (lit "\\"), ahead open2]]
  | .rawText => plus (alt [call .escape, seq [notAhead (open2), any]])
  | .rawBlockText => star (alt [call .escape, seq [notAhead (open4), any]])
  | .literal =>
    alt [call .stringLiteral, call .arrayLiteral, call .objectLiteral, call .numberLiteral,
      call .nullLiteral, call .booleanLiteral]
  | .nullLiteral => seq [lit "null", notAhead (call .symbolChar)]
  | .booleanLiteral => seq [alt [lit "true", lit "false"], notAhead (call .symbolChar)]
  | .numberLiteral =>
    seq [opt (lit "-"), plus digit, opt (lit "."), star digit,
      opt (seq [lit "E", opt (lit "-"), plus digit]), notAhead (call .symbolChar)]
  | .jsonChar => quotedChar "\""
  | .jsonCharDoubleQuote => quotedChar "\""
  | .jsonCharSingleQuote => quotedChar "'"
  | .stringInnerDoubleQuote => star (call .jsonCharDoubleQuote)
  | .stringInnerSingleQuote => star (call .jsonCharSingleQuote)
  | .stringLiteral =>
    alt [seq [lit "\"", call .stringInnerDoubleQuote, lit "\""],
      seq [lit "'", call .stringInnerSingleQuote, lit "'"]]
  | .arrayLiteral =>
    seq [lit "[", opt (call .literal), star (seq [lit ",", call .literal]), lit "]"]
  | .objectLiteral =>
    seq [openBrace, opt (seq [call .stringLiteral, lit ":", call .literal]),
      star (seq [lit ",", call .stringLiteral, lit ":", call .literal]), closeBrace]
  | .symbolChar => alt ([asciiAlphanumeric, lit "-", lit "_", lit "$"] ++ nonAscii)
  | .partialSymbolChar =>
    alt ([asciiAlphanumeric, lit "-", lit "_"] ++ nonAscii ++ [lit "/", lit "."])
  | .pathChar => lit "/"
  | .identifier => plus (call .symbolChar)
  | .partialIdentifier =>
    alt [plus (call .partialSymbolChar), seq [lit "[", plus any, lit "]"],
      seq [lit "'", plus (seq [notAhead (lit "'"), alt [lit "\\'", any]]), lit "'"]]
  | .reference => call .pathInline
  | .name => alt [call .subexpression, call .reference]
  | .helperParameter =>
    seq [notAhead (seq [call .keywords, notAhead (call .symbolChar)]),
      alt [call .literal, call .reference, call .subexpression]]
  | .hash => seq [call .identifier, lit "=", call .helperParameter]
  | .blockParam => seq [lit "as", lit "|", call .identifier, opt (call .identifier), lit "|"]
  | .expLine => seq [call .identifier, star (alt [call .hash, call .helperParameter]), opt (call .blockParam)]
  | .partialExpLine =>
    seq [alt [call .partialIdentifier, call .name], star (alt [call .hash, call .helperParameter])]
  | .subexpression =>
    seq [lit "(", alt [seq [call .identifier, plus (alt [call .hash, call .helperParameter])],
      call .reference], lit ")"]
  | .leadingTilde => lit "~"
  | .trailingTilde => lit "~"
  | .expression =>
    seq [notAhead (call .invertTag), notAhead (call .invertChainTag), open2, pre, callOrName,
      pro, close2]
  | .htmlExpressionTripleBracketLegacy => seq [open3, pre, callOrName, pro, close3]
  | .htmlExpressionTripleBracket =>
    seq [open2, pre, openBrace, callOrName, closeBrace, pro, close2]
  | .ampExpression => seq [open2, pre, lit "&", call .name, pro, close2]
  | .htmlExpression =>
    alt [alt [call .htmlExpressionTripleBracketLegacy, call .htmlExpressionTripleBracket],
      call .ampExpression]
  | .decoratorExpression => seq [open2, pre, lit "*", call .expLine, pro, close2]
  | .partialExpression => seq [open2, pre, lit ">", call .partialExpLine, pro, close2]
  | .invertTagItem => alt [lit "else", lit "^"]
  | .invertTag => seq [notAhead (call .escape), open2, pre, call .invertTagItem, pro, close2]
  | .invertChainTag =>
    seq [notAhead (call .escape), open2, pre, call .invertTagItem, call .expLine, pro,
      close2]
  | .helperBlockStart => seq [open2, pre, lit "#", call .expLine, pro, close2]
  | .helperBlockEnd => seq [open2, pre, lit "/", call .identifier, pro, close2]
  | .helperBlock =>
    seq [call .helperBlockStart, call .template,
      star (seq [call .invertChainTag, call .template]),
      opt (seq [call .invertTag, call .template]), call .helperBlockEnd]
  | .decoratorBlockStart => seq [open2, pre, lit "#", lit "*", call .expLine, pro, close2]
  | .decoratorBlockEnd => seq [open2, pre, lit "/", call .identifier, pro, close2]
  | .decoratorBlock => seq [call .decoratorBlockStart, call .template, call .decoratorBlockEnd]
  | .partialBlockStart =>
    seq [open2, pre, lit "#", lit ">", call .partialExpLine, pro, close2]
  | .partialBlockEnd => seq [open2, pre, lit "/", call .partialIdentifier, pro, close2]
  | .partialBlock => seq [call .partialBlockStart, call .template, call .partialBlockEnd]
  | .rawBlockStart => seq [open4, pre, call .expLine, pro, close4]
  | .rawBlockEnd => seq [open4, pre, lit "/", call .identifier, pro, close4]
  | .rawBlock => seq [call .rawBlockStart, call .rawBlockText, call .rawBlockEnd]
  | .hbsComment =>
    seq [openComment, lit "--", star (seq [notAhead (closeLongComment), any]), lit "--", close2]
  | .hbsCommentCompact => seq [openComment, star (seq [notAhead (close2), any]), close2]
  | .template =>
    star (alt [call .rawText, call .expression, call .htmlExpression, call .helperBlock,
      call .rawBlock, call .hbsComment, call .hbsCommentCompact, call .decoratorExpression,
      call .decoratorBlock, call .partialExpression, call .partialBlock])
  | .parameter => seq [call .helperParameter, call .eoi]
  | .handlebars => seq [call .template, call .eoi]
  | .pathId => plus (call .symbolChar)
  | .pathRawId => star (seq [notAhead (lit "]"), any])
  | .pathSep => alt [lit "/", lit "."]
  | .pathUp => lit ".."
  | .pathKey => seq [lit "[", call .pathRawId, lit "]"]
  | .pathRoot => lit "@root"
  | .pathCurrent => alt [seq [lit "this", call .pathSep], lit "./"]
  | .pathItem => alt [call .pathId, call .pathKey]
  | .pathLocal => lit "@"
  | .pathInline =>
    seq [opt (call .pathCurrent), opt (seq [call .pathRoot, call .pathSep]), opt (call .pathLocal),
      star (seq [call .pathUp, call .pathSep]), call .pathItem,
      star (seq [call .pathSep, call .pathItem])]
  | .path => seq [call .pathInline, call .eoi]

end Grammar

/-- Whether white space is skipped: not while an atomic or compound rule runs. -/
inductive Atomicity where
  | atomic
  | compound
  | nonAtomic
deriving Repr, DecidableEq

/-- Whether the parser is inside a look-ahead, and of which sign. -/
inductive Lookahead where
  | none
  | positive
  | negative
deriving Repr, DecidableEq

/-- A shown rule that matched, with the characters it spans: from `start` up to `stop`. -/
structure Pair where
  rule : Rule
  start : Nat
  stop : Nat
deriving Repr, Inhabited

/-- The parser's state: the place, how it runs, the shown rules matched so far and the
farthest failures seen so far. -/
structure State where
  pos : Nat
  atomicity : Atomicity
  lookahead : Lookahead
  /-- The farthest place at which a reported rule was tried. -/
  attemptPos : Nat
  /-- The rules expected at that place, in the order they were tried. -/
  positives : Array Rule
  /-- The rules not wanted at that place. -/
  negatives : Array Rule
  /-- The shown rules matched so far, the latest to finish first, each with the number of
  its start among all starts. -/
  pairs : List (Nat × Pair) := []
  /-- How many shown rules have started. -/
  started : Nat := 0
deriving Repr

namespace State

/-- The number of rules recorded at a place. -/
def attemptsAt (s : State) (pos : Nat) : Nat :=
  if s.attemptPos == pos then s.positives.size + s.negatives.size else 0

/-- Records a rule tried at `pos`. `posIndex` and `negIndex` are the lengths of the records
when the rule started, `before` the number of records at `pos` then. The rule replaces what its
parts recorded at `pos`, unless exactly one part was recorded there. Inside an atomic rule
nothing is recorded. -/
def track (s : State) (r : Rule) (pos posIndex negIndex before : Nat) : State :=
  if s.atomicity == .atomic then s
  else
    let now := s.attemptsAt pos
    if now > before && now - before == 1 then s
    else
      let s := if pos == s.attemptPos then
          { s with positives := s.positives.extract 0 posIndex,
                   negatives := s.negatives.extract 0 negIndex }
        else s
      let s := if pos > s.attemptPos then
          { s with positives := #[], negatives := #[], attemptPos := pos }
        else s
      if pos == s.attemptPos then
        if s.lookahead == .negative then { s with negatives := s.negatives.push r }
        else { s with positives := s.positives.push r }
      else s

end State

/-- The state back at the place of an earlier one, without the pairs matched since. -/
def State.backTo (s earlier : State) : State :=
  { s with pos := earlier.pos, pairs := earlier.pairs }

/-- Whether the input holds the characters of a text at a place. -/
def holdsAt (input : Array Char) (pos : Nat) : List Char → Bool
  | [] => true
  | c :: cs => input[pos]? == some c && holdsAt input (pos + 1) cs

/-- The place after the white space at `pos`. -/
def skipSpace (input : Array Char) (pos : Nat) : Nat → Nat
  | 0 => pos
  | n + 1 =>
    match input[pos]? with
    | some c => if c == ' ' || c == '\t' || c == '\n' || c == '\r' then skipSpace input (pos + 1) n
      else pos
    | none => pos

/-- Skips white space when no atomic or compound rule runs. -/
def State.skip (input : Array Char) (s : State) : State :=
  if s.atomicity == .nonAtomic then { s with pos := skipSpace input s.pos input.size } else s

mutual

/-- Matches a pattern at the state's place; `spaced` says whether the rule the pattern belongs
to skips white space. On failure the place is left as it was. `fuel` bounds the depth. -/
def run (input : Array Char) : Nat → Bool → Pattern → State → Bool × State
  | 0, _, _, s => (false, s)
  | fuel + 1, spaced, p, s =>
    match p with
    | .lit t =>
      let cs := t.toList
      if holdsAt input s.pos cs then (true, { s with pos := s.pos + cs.length }) else (false, s)
    | .range lo hi =>
      match input[s.pos]? with
      | some c => if lo ≤ c && c ≤ hi then (true, { s with pos := s.pos + 1 }) else (false, s)
      | none => (false, s)
    | .any => if s.pos < input.size then (true, { s with pos := s.pos + 1 }) else (false, s)
    | .eoi => (s.pos == input.size, s)
    | .call r => runRule input fuel r s
    | .seq ps =>
      let (ok, s') := runSeq input fuel spaced true ps s
      if ok then (true, s') else (false, s'.backTo s)
    | .alt ps => runAlt input fuel spaced ps s
    | .opt q =>
      let (ok, s') := run input fuel spaced q s
      if ok then (true, s') else (true, s'.backTo s)
    | .star q =>
      let (ok, s') := run input fuel spaced q s
      if ok then runStar input fuel spaced q s' else (true, s'.backTo s)
    | .plus q =>
      let (ok, s') := run input fuel spaced q s
      if !ok then (false, s'.backTo s)
      else
        let s' := if spaced then s'.skip input else s'
        let (_, s'') := run input fuel spaced (.star q) s'
        (true, s'')
    | .notAhead q =>
      let flipped := if s.lookahead == .negative then Lookahead.positive else .negative
      let (ok, s') := run input fuel spaced q { s with lookahead := flipped }
      (!ok, { s'.backTo s with lookahead := s.lookahead })
    | .ahead q =>
      let same := if s.lookahead == .negative then Lookahead.negative else .positive
      let (ok, s') := run input fuel spaced q { s with lookahead := same }
      (ok, { s'.backTo s with lookahead := s.lookahead })

/-- Matches patterns one after another, skipping white space between them when `spaced`;
`first` marks the first pattern. -/
def runSeq (input : Array Char) : Nat → Bool → Bool → List Pattern → State → Bool × State
  | 0, _, _, _, s => (false, s)
  | _ + 1, _, _, [], s => (true, s)
  | fuel + 1, spaced, first, p :: ps, s =>
    let s := if spaced && !first then s.skip input else s
    let (ok, s') := run input fuel spaced p s
    if ok then runSeq input fuel spaced false ps s' else (false, s')

/-- Tries patterns in order until one matches. -/
def runAlt (input : Array Char) : Nat → Bool → List Pattern → State → Bool × State
  | 0, _, _, s => (false, s)
  | _ + 1, _, [], s => (false, s)
  | fuel + 1, spaced, p :: ps, s =>
    let (ok, s') := run input fuel spaced p s
    if ok then (true, s') else runAlt input fuel spaced ps (s'.backTo s)

/-- Repeats a pattern after its first match, skipping white space before each round when
`spaced`; a failed round leaves the place where the round began. -/
def runStar (input : Array Char) : Nat → Bool → Pattern → State → Bool × State
  | 0, _, _, s => (true, s)
  | fuel + 1, spaced, p, s =>
    let start := if spaced then s.skip input else s
    let (ok, s') := run input fuel spaced p start
    if ok then runStar input fuel spaced p s' else (true, s'.backTo s)

/-- Runs a rule: a silent rule is its body; any other rule sets how white space is skipped
while it runs and records itself when it fails (or when it matches inside a negative
look-ahead). A rule that matches outside look-aheads and atomic rules is a pair of the parse. -/
def runRule (input : Array Char) : Nat → Rule → State → Bool × State
  | 0, _, s => (false, s)
  | fuel + 1, r, s =>
    match r.kind with
    | .silent => run input fuel true r.body s
    | kind =>
      let start := s.pos
      let (posIndex, negIndex) :=
        if start == s.attemptPos then (s.positives.size, s.negatives.size) else (0, 0)
      let before := s.attemptsAt start
      let outer := s.atomicity
      let shown := s.lookahead == .none && outer != .atomic
      let number := s.started
      let inner := match kind with
        | .atomic => Atomicity.atomic
        | .compound => .compound
        | _ => outer
      let entry := { s with atomicity := inner, started := if shown then number + 1 else number }
      let (ok, s') := run input fuel (kind == .normal) r.body entry
      let s' := { s' with atomicity := outer }
      if ok then
        let s' := if shown then { s' with pairs := (number, ⟨r, start, s'.pos⟩) :: s'.pairs }
          else s'
        (true, if s'.lookahead == .negative then s'.track r start posIndex negIndex before else s')
      else
        let s' := { s' with pos := start, pairs := s.pairs }
        (false, if s'.lookahead != .negative then s'.track r start posIndex negIndex before
          else s')

end

/-- Rules listed as a report lists them: one alone, two joined by "or", more separated by
commas with "or" before the last. -/
def enumerate (rules : List Rule) : String :=
  match rules with
  | [r] => r.label
  | [a, b] => a.label ++ " or " ++ b.label
  | _ =>
    match rules.getLast? with
    | some last => ", ".intercalate (rules.dropLast.map Rule.label) ++ ", or " ++ last.label
    | none => ""

/-- Rules in the order of the grammar, each once. -/
def ordered (rules : Array Rule) : List Rule :=
  (rules.toList.mergeSort fun a b => compare a b != .gt).eraseDups

/-- The report of a failed parse from the rules expected and those not wanted. -/
def failureText (positives negatives : List Rule) : String :=
  match negatives.isEmpty, positives.isEmpty with
  | false, false => "unexpected " ++ enumerate negatives ++ "; expected " ++ enumerate positives
  | false, true => "unexpected " ++ enumerate negatives
  | true, false => "expected " ++ enumerate positives
  | true, true => "unknown parsing error"

/-- Parses a template: the pairs in the order they began, or the place (in characters from
the start) where it fails and the report. -/
def parse (input : Array Char) : Except (Nat × String) (List Pair) :=
  let start : State := ⟨0, .nonAtomic, .none, 0, #[], #[], [], 0⟩
  let fuel := 64 * (input.size + 64)
  match runRule input fuel .handlebars start with
  | (true, s) => .ok ((s.pairs.mergeSort fun a b => a.1 ≤ b.1).map (·.2))
  | (false, s) => .error (s.attemptPos, failureText (ordered s.positives) (ordered s.negatives))

end CrudScaffold.Stub.Syntax
