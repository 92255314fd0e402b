import CrudScaffold.Schema.Column

/-! Synthetic values: the faker expression a factory fills a field with. A keyword in the
field name decides first (an `email` gets a safe e-mail address, a `price` a decimal
between 10 and 1000); otherwise the type decides. -/

namespace CrudScaffold

/-- A way to make up a value. -/
inductive SyntheticStrategy where
  | safeEmail
  | fullName
  | firstName
  | lastName
  | phoneNumber
  | address
  | city
  | country
  | postcode
  | url
  | imageUrl
  | sentence (words : Nat)
  | slug
  | paragraph
  | paragraphs (count : Nat)
  | integerBetween (lo hi : Int)
  /-- A decimal with `places` digits after the point, between whole-number bounds. -/
  | decimalBetween (places lo hi : Nat)
  | boolean
  | date
  | dateTime
  | time
  | jsonObject
  | choice (values : List String)
  | hexColor
  | uuid
  | ipv4
  | shortPhrase
deriving Repr, DecidableEq

/-- The faker expression of a strategy. -/
def SyntheticStrategy.expression : SyntheticStrategy → String
  | .safeEmail => "fake()->unique()->safeEmail()"
  | .fullName => "fake()->name()"
  | .firstName => "fake()->firstName()"
  | .lastName => "fake()->lastName()"
  | .phoneNumber => "fake()->phoneNumber()"
  | .address => "fake()->address()"
  | .city => "fake()->city()"
  | .country => "fake()->country()"
  | .postcode => "fake()->postcode()"
  | .url => "fake()->url()"
  | .imageUrl => "fake()->imageUrl()"
  | .sentence n => "fake()->sentence(" ++ toString n ++ ")"
  | .slug => "fake()->slug()"
  | .paragraph => "fake()->paragraph()"
  | .paragraphs n => "fake()->paragraphs(" ++ toString n ++ ", true)"
  | .integerBetween lo hi => "fake()->numberBetween(" ++ toString lo ++ ", " ++ toString hi ++ ")"
  | .decimalBetween p lo hi =>
    "fake()->randomFloat(" ++ toString p ++ ", " ++ toString lo ++ ", " ++ toString hi ++ ")"
  | .boolean => "fake()->boolean()"
  | .date => "fake()->date()"
  | .dateTime => "fake()->dateTime()"
  | .time => "fake()->time()"
  | .jsonObject => "json_encode(['key' => fake()->word()])"
  | .choice vs => "fake()->randomElement([" ++ quotedList vs ++ "])"
  | .hexColor => "fake()->hexColor()"
  | .uuid => "fake()->uuid()"
  | .ipv4 => "fake()->ipv4()"
  | .shortPhrase => "fake()->sentence()"

/-- Name keywords with the strategy they select, in the order they are tried. -/
def nameKeywordStrategies : List (List String × SyntheticStrategy) :=
  [(["email"], .safeEmail), (["name"], .fullName), (["first_name"], .firstName),
   (["last_name"], .lastName), (["phone"], .phoneNumber), (["address"], .address),
   (["city"], .city), (["country"], .country), (["zip", "postal"], .postcode),
   (["url", "website"], .url), (["image", "avatar"], .imageUrl), (["title"], .sentence 4),
   (["slug"], .slug), (["description", "summary"], .paragraph),
   (["price", "amount", "cost"], .decimalBetween 2 10 1000),
   (["quantity", "stock"], .integerBetween 0 100), (["color"], .hexColor), (["uuid"], .uuid),
   (["ip"], .ipv4)]

/-- The strategy a field's type selects. -/
def typeStrategy (f : Field) : SyntheticStrategy :=
  match f.type with
  | .text => .paragraphs 3
  | .integer => .integerBetween 1 100
  | .bigInteger => .integerBetween 1 1000000
  | .float | .decimal => .decimalBetween 2 0 1000
  | .boolean => .boolean
  | .date => .date
  | .dateTime | .timestamp => .dateTime
  | .time => .time
  | .json => .jsonObject
  | .enum => .choice f.effectiveEnumValues
  | _ => .shortPhrase

/-- The strategy for a field: the first keyword group found in its name, else its type. -/
def syntheticStrategy (f : Field) : SyntheticStrategy :=
  match nameKeywordStrategies.find? (fun g => g.1.any f.nameContains) with
  | some g => g.2
  | none => typeStrategy f

end CrudScaffold
