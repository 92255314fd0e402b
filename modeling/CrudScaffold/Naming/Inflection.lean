import CrudScaffold.Naming.Pattern

/-! English inflection of snake-case words: plural and singular forms.

A word is first looked up among the uncountable words, which keep their form, and then
among a few irregular words. Otherwise the rules are tried from the last to the first, and
the first rule whose pattern is found in the word decides: the answer is the text captured
by group 1 followed by the rule's replacement. Text before the match is dropped, which is
why `http_news` becomes `news`. A word that no plural rule fits takes an `s`; one that no
singular rule fits is kept.

Singular replacements may refer to groups: `$2` stands for group 2, and a reference is read
as the longest run of letters, digits and underscores after the `$`, so `$2fe` names a group
called `2fe`, which no pattern has, and stands for nothing. -/

namespace CrudScaffold.Naming

open Text

/-- A rule of inflection: a pattern and the replacement for what it matched. -/
structure Rule where
  pattern : Pattern
  replacement : String

namespace Pattern

/-- The characters of a text. -/
def lit (s : String) : Pattern := .text s.toList

/-- One of several texts, the first that lets the rest match. -/
def words (ws : List String) : Pattern := .alt (ws.map lit)

/-- One character among those of `s`. -/
def among (s : String) : Pattern := .anyOf s.toList

/-- One character not among those of `s`. -/
def notAmong (s : String) : Pattern := .noneOf s.toList

/-- A run of word characters, a word ending captured as group 2, all captured as group 1,
then `tail` and the end of the word. -/
def ending (stem : Pattern) (tail : Pattern) : Pattern :=
  .seq [.group 1 (.seq [.wordRun, .group 2 stem]), tail, .atEnd]

end Pattern

open Pattern

/-- Words whose plural and singular are the word itself. -/
def uncountable : List String := [
  "accommodation", "adulthood", "advertising", "advice", "aggression", "aid", "air",
  "aircraft", "alcohol", "anger", "applause", "arithmetic", "assistance", "athletics",
  "bacon", "baggage", "beef", "biology", "blood", "botany", "bread", "butter", "carbon",
  "cardboard", "cash", "chalk", "chaos", "chess", "countryside", "crossroads", "dancing",
  "deer", "dignity", "dirt", "dust", "economics", "education", "electricity", "engineering",
  "enjoyment", "envy", "equipment", "ethics", "evidence", "evolution", "fame", "fiction",
  "flour", "flu", "food", "freedom", "fruit", "fuel", "fun", "furniture", "garbage",
  "garlic", "genetics", "gold", "golf", "gossip", "grammar", "gratitude", "grief", "ground",
  "guilt", "gymnastics", "hair", "happiness", "hardware", "harm", "hate", "hatred", "health",
  "heat", "height", "help", "homework", "honesty", "honey", "hospitality", "housework",
  "humour", "hunger", "hydrogen", "ice", "importance", "inflation", "information", "injustice",
  "innocence", "intelligence", "iron", "irony", "jam", "jealousy", "jelly", "judo", "karate",
  "kindness", "knowledge", "labour", "lack", "land", "laughter", "lava", "leather", "leisure",
  "lightning", "linguine", "linguini", "linguistics", "literature", "litter", "livestock",
  "logic", "loneliness", "luck", "luggage", "macaroni", "machinery", "magic", "management",
  "mankind", "marble", "mathematics", "mayonnaise", "measles", "methane", "milk", "money",
  "mud", "mumps", "music", "nature", "news", "nitrogen", "nonsense", "nurture", "nutrition",
  "obedience", "obesity", "oxygen", "pasta", "patience", "physics", "poetry", "pollution",
  "poverty", "pride", "psychology", "publicity", "punctuation", "quartz", "racism", "relaxation",
  "reliability", "research", "respect", "revenge", "rice", "rubbish", "rum", "salad",
  "satire", "seaside", "series", "shame", "sheep", "shopping", "silence", "sleep", "smoke",
  "smoking", "snow", "soap", "software", "soil", "sorrow", "soup", "species", "speed",
  "spelling", "steam", "stuff", "stupidity", "sunshine", "symmetry", "tennis", "thirst",
  "thunder", "timber", "toast", "tolerance", "toys", "traffic", "transporation", "transportation",
  "travel", "trust", "understanding", "underwear", "unemployment", "unity", "validity",
  "veal", "vegetarianism", "vegetation", "vengeance", "violence", "vitality", "warmth",
  "wealth", "weather", "welfare", "wheat", "wildlife", "wisdom", "work", "yoga", "zinc",
  "zoology"]

/-- Irregular plurals. -/
def irregularPlurals : List (String × String) :=
  [("ox", "oxen"), ("man", "men"), ("woman", "women"), ("die", "dice"), ("yes", "yeses"),
   ("foot", "feet"), ("eave", "eaves"), ("goose", "geese"), ("tooth", "teeth"),
   ("quiz", "quizzes")]

/-- Irregular singulars. -/
def irregularSingulars : List (String × String) :=
  [("oxen", "ox"), ("boxes", "box"), ("men", "man"), ("women", "woman"), ("dice", "die"),
   ("yeses", "yes"), ("feet", "foot"), ("eaves", "eave"), ("geese", "goose"),
   ("teeth", "tooth"), ("quizzes", "quiz")]

/-- Plural rules, in the order they are written; the last is tried first. -/
def pluralRules : List Rule := [
  ⟨.seq [.group 1 .wordRun, lit "s", .atEnd], "s"⟩,
  ⟨ending (.seq [notAmong "aeiou", lit "ese"]) (.seq []), ""⟩,
  ⟨ending (words ["ax", "test"]) (lit "is"), "es"⟩,
  ⟨ending (.alt [lit "alias", .seq [notAmong "aou", lit "us"], lit "tlas", lit "gas", lit "ris"])
    (.seq []), "es"⟩,
  ⟨ending (.seq [lit "e", among "mn", lit "u"]) (.opt (lit "s")), "s"⟩,
  ⟨ending (.alt [.seq [notAmong "l", lit "ias"], .seq [among "aeiou", lit "las"],
    .seq [among "emjzr", lit "as"], .seq [among "iu", lit "am"]]) (.seq []), ""⟩,
  ⟨ending (words ["alumn", "syllab", "octop", "vir", "radi", "nucle", "fung", "cact", "stimul",
    "termin", "bacill", "foc", "uter", "loc", "strat"]) (words ["us", "i"]), "i"⟩,
  ⟨ending (words ["alumn", "alg", "vertebr"]) (words ["a", "ae"]), "ae"⟩,
  ⟨ending (words ["seraph", "cherub"]) (.opt (lit "im")), "im"⟩,
  ⟨ending (words ["her", "at", "gr"]) (lit "o"), "oes"⟩,
  ⟨ending (words ["agend", "addend", "millenni", "dat", "extrem", "bacteri", "desiderat",
    "strat", "candelabr", "errat", "ov", "symposi", "curricul", "automat", "quor"])
    (words ["a", "um"]), "a"⟩,
  ⟨ending (words ["apheli", "hyperbat", "periheli", "asyndet", "noumen", "phenomen", "criteri",
    "organ", "prolegomen", "hedr", "automat"]) (words ["a", "on"]), "a"⟩,
  ⟨.seq [.group 1 .wordRun, lit "sis", .atEnd], "ses"⟩,
  ⟨ending (words ["kni", "wi", "li"]) (lit "fe"), "ves"⟩,
  ⟨ending (words ["ar", "l", "ea", "eo", "oa", "hoo"]) (lit "f"), "ves"⟩,
  ⟨ending (.alt [notAmong "aeiouy", lit "qu"]) (lit "y"), "ies"⟩,
  ⟨ending (.seq [notAmong "ch", among "ieo", among "ln"]) (lit "ey"), "ies"⟩,
  ⟨.seq [.group 1 (.seq [.wordRun, .group 2 (words ["x", "ch", "ss", "sh", "zz"]), lit "es"]),
    .atEnd], ""⟩,
  ⟨ending (words ["x", "ch", "ss", "sh", "zz"]) (.seq []), "es"⟩,
  ⟨ending (words ["matr", "cod", "mur", "sil", "vert", "ind", "append"]) (words ["ix", "ex"]),
    "ices"⟩,
  ⟨.seq [.group 1 (.seq [.wordRun, .group 2 (words ["m", "l"]), words ["ice", "ouse"]]),
    .atEnd], "ice"⟩,
  ⟨.seq [.group 1 (.seq [.wordRun, .group 2 (lit "pe"), words ["rson", "ople"]]), .atEnd],
    "ople"⟩,
  ⟨ending (lit "child") (.opt (lit "ren")), "ren"⟩,
  ⟨.seq [.group 1 (.seq [.wordRun, lit "eaux"]), .atEnd], ""⟩]

/-- A run of word characters captured as group 1, a piece captured as group 2, then `tail`
and the end of the word. -/
def Pattern.stemThen (piece : Pattern) (tail : String) : Pattern :=
  .seq [.group 1 .wordRun, .group 2 piece, lit tail, .atEnd]

/-- Singular rules, in the order they are written; the last is tried first. -/
def singularRules : List Rule := [
  ⟨.seq [.group 1 .wordRun, lit "s", .atEnd], ""⟩,
  ⟨.seq [.group 1 .wordRun, .group 2 (lit "ss"), .atEnd], "$2"⟩,
  ⟨.seq [.group 1 (lit "n"), lit "ews", .atEnd], "ews"⟩,
  ⟨Pattern.stemThen (lit "o") "es", "$2"⟩,
  ⟨Pattern.stemThen (among "ti") "a", "um"⟩,
  ⟨.seq [.group 1 (.alt [.seq [.group 2 (lit "a"), lit "naly"], .seq [.group 3 (lit "b"), lit "a"],
    .seq [.group 4 (lit "d"), lit "iagno"], .seq [.group 5 (lit "p"), lit "arenthe"],
    .seq [.group 6 (lit "p"), lit "rogno"], .seq [.group 7 (lit "s"), lit "ynop"],
    .seq [.group 8 (lit "t"), lit "he"]]), .group 9 (words ["sis", "ses"]), .atEnd], "sis"⟩,
  ⟨.seq [.group 1 (.seq [.atStart, lit "analy"]), .group 2 (words ["sis", "ses"]), .atEnd], "sis"⟩,
  ⟨Pattern.stemThen (notAmong "f") "ves", "$2fe"⟩,
  ⟨Pattern.stemThen (lit "hive") "s", "$2"⟩,
  ⟨Pattern.stemThen (lit "tive") "s", "$2"⟩,
  ⟨Pattern.stemThen (among "lr") "ves", "$2f"⟩,
  ⟨ending (.alt [notAmong "aeiouy", lit "qu"]) (lit "ies"), "y"⟩,
  ⟨.seq [.group 1 (lit "s"), lit "eries", .atEnd], "eries"⟩,
  ⟨.seq [.group 1 (lit "m"), lit "ovies", .atEnd], "ovie"⟩,
  ⟨Pattern.stemThen (words ["x", "ch", "ss", "sh"]) "es", "$2"⟩,
  ⟨.seq [.group 1 (words ["m", "l"]), lit "ice", .atEnd], "ouse"⟩,
  ⟨.seq [.group 1 (lit "bus"), .opt (.group 2 (lit "es")), .atEnd], ""⟩,
  ⟨.seq [.group 1 (lit "shoe"), lit "s", .atEnd], ""⟩,
  ⟨.seq [.group 1 (words ["cris", "ax", "test"]), .group 2 (words ["is", "es"]), .atEnd], "is"⟩,
  ⟨.seq [.group 1 (words ["octop", "vir"]), .group 2 (words ["us", "i"]), .atEnd], "us"⟩,
  ⟨.seq [.group 1 (words ["alias", "status"]), .opt (.group 2 (lit "es")), .atEnd], ""⟩,
  ⟨.seq [.atStart, .group 1 (lit "ox"), lit "en"], ""⟩,
  ⟨.seq [.group 1 (words ["vert", "ind"]), lit "ices", .atEnd], "ex"⟩,
  ⟨.seq [.group 1 (lit "matr"), lit "ices", .atEnd], "ix"⟩,
  ⟨.seq [.group 1 (lit "quiz"), lit "zes", .atEnd], ""⟩,
  ⟨.seq [.group 1 (lit "database"), lit "s", .atEnd], ""⟩]

/-- Characters that may form the name of a group reference. -/
def isReferenceChar (c : Char) : Bool :=
  c.isAlphanum || c == '_'

/-- The text that a reference by `name` stands for: a numbered group's text, or nothing. -/
def referenceValue (group : Nat → Option (List Char)) (name : List Char) : List Char :=
  if name.all Char.isDigit then (group (String.ofList name).toNat!).getD [] else []

/-- Replaces group references in a template by the text of the groups they name; `$$`
stands for `$`, and a `$` that no name follows stands for itself. -/
def expandReferences (group : Nat → Option (List Char)) : List Char → List Char
  | [] => []
  | '$' :: '$' :: rest => '$' :: expandReferences group rest
  | '$' :: rest =>
    let name := rest.takeWhile isReferenceChar
    if name.isEmpty then '$' :: expandReferences group rest
    else referenceValue group name ++ expandReferences group (rest.drop name.length)
  | c :: rest => c :: expandReferences group rest
termination_by l => l.length
decreasing_by all_goals grind

/-- The first of `rules`, tried from the last, whose pattern is found in `w` with group 1
taking part, with the spans of its match and its replacement. -/
def firstMatch (rules : List Rule) (w : List Char) : Option (Spans × String) :=
  rules.reverse.findSome? fun r =>
    match r.pattern.search w with
    | some spans => if (captured w spans 1).isSome then some (spans, r.replacement) else none
    | none => none

/-- The plural of a word. -/
def pluralOf (w : String) : String :=
  if uncountable.contains w then w
  else match irregularPlurals.lookup w with
    | some p => p
    | none =>
      let cs := w.toList
      match firstMatch pluralRules cs with
      | some (spans, rep) =>
        match captured cs spans 1 with
        | some stem => String.ofList stem ++ rep
        | none => w ++ "s"
      | none => w ++ "s"

/-- The singular of a word. -/
def singularOf (w : String) : String :=
  if uncountable.contains w then w
  else match irregularSingulars.lookup w with
    | some s => s
    | none =>
      let cs := w.toList
      match firstMatch singularRules cs with
      | some (spans, rep) =>
        match captured cs spans 1 with
        | some stem => String.ofList (expandReferences (captured cs spans) (stem ++ rep.toList))
        | none => w
      | none => w

end CrudScaffold.Naming
