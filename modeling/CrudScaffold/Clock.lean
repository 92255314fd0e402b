import CrudScaffold.Text.Basic

/-! The generation clock: a date and time of day without a zone, read from
`YYYY-MM-DD HH:MM:SS`, moved on by whole seconds and written into migration file names as
`YYYY_MM_DD_HHMMSS`.

Reading is lenient about white space: any white space (or none) may stand before each number
and between the date and the time, while the dashes and colons must follow the numbers
directly. The year has one to four digits, or a sign and any number of digits; every other
part has one or two. The calendar is then checked: the proleptic Gregorian calendar, years
from -262143 to 262142, hours below 24, minutes below 60, and seconds up to 60, where 60 is a
leap second that the next second leaves as if it were second 59. Moving on past the last
second of year 262142 fails. A year outside 0 to 9999 is written with its sign and at least
four digits. -/

namespace CrudScaffold

/-- A date and time of day. -/
structure Moment where
  year : Int
  month : Nat
  day : Nat
  hour : Nat
  minute : Nat
  second : Nat
deriving Repr, DecidableEq

namespace Moment

/-- Whether a year is a leap year of the Gregorian calendar. -/
def isLeapYear (y : Int) : Bool := y % 4 == 0 && (y % 100 != 0 || y % 400 == 0)

/-- The number of days of a month. -/
def daysIn (y : Int) (m : Nat) : Nat :=
  if m == 2 then (if isLeapYear y then 29 else 28)
  else if m == 4 || m == 6 || m == 9 || m == 11 then 30 else 31

/-- The first year of the calendar. -/
def firstYear : Int := -262143

/-- The last year of the calendar. -/
def lastYear : Int := 262142

/-- Whether the parts name a real date and time. -/
def isValid (m : Moment) : Bool :=
  firstYear ≤ m.year && m.year ≤ lastYear &&
    1 ≤ m.month && m.month ≤ 12 && 1 ≤ m.day && m.day ≤ daysIn m.year m.month &&
    m.hour < 24 && m.minute < 60 && m.second ≤ 60

/-- One second later. -/
def tick (m : Moment) : Moment :=
  if m.second + 1 < 60 then { m with second := m.second + 1 }
  else if m.minute + 1 < 60 then { m with second := 0, minute := m.minute + 1 }
  else if m.hour + 1 < 24 then { m with second := 0, minute := 0, hour := m.hour + 1 }
  else if m.day + 1 ≤ daysIn m.year m.month then
    { m with second := 0, minute := 0, hour := 0, day := m.day + 1 }
  else if m.month + 1 ≤ 12 then
    { m with second := 0, minute := 0, hour := 0, day := 1, month := m.month + 1 }
  else ⟨m.year + 1, 1, 1, 0, 0, 0⟩

/-- One second later, unless that leaves the calendar. -/
def next? (m : Moment) : Option Moment :=
  let n := m.tick
  if n.year ≤ lastYear then some n else none

/-- Some seconds later, unless that leaves the calendar. -/
def addSeconds? (m : Moment) : Nat → Option Moment
  | 0 => some m
  | n + 1 => (m.addSeconds? n).bind next?

/-- A number written with at least `width` digits, zeros in front. -/
def padded (width n : Nat) : String :=
  let digits := toString n
  String.ofList (List.replicate (width - digits.length) '0') ++ digits

/-- The year as file names write it: four digits, or outside 0 to 9999 its sign and at least
four digits. -/
def yearText (y : Int) : String :=
  if 0 ≤ y && y ≤ 9999 then padded 4 y.toNat
  else (if y < 0 then "-" else "+") ++ padded 4 y.natAbs

/-- The stamp of migration file names: `YYYY_MM_DD_HHMMSS`. -/
def stamp (m : Moment) : String :=
  yearText m.year ++ "_" ++ padded 2 m.month ++ "_" ++ padded 2 m.day ++ "_" ++
    padded 2 m.hour ++ padded 2 m.minute ++ padded 2 m.second

/-- Reads a number of one to `width` digits. -/
def readDigits (width : Nat) (s : List Char) : Option (Nat × List Char) :=
  let ds := (s.takeWhile Char.isDigit).take width
  if ds.isEmpty then none
  else some (ds.foldl (fun n c => 10 * n + (c.toNat - '0'.toNat)) 0, s.drop ds.length)

/-- Reads a number of one to `width` digits after any white space. -/
def readNumber (width : Nat) (s : List Char) : Option (Nat × List Char) :=
  readDigits width (Text.dropBlank s)

/-- Reads the year after any white space: a sign directly followed by any number of digits,
or one to four digits. -/
def readYear (s : List Char) : Option (Int × List Char) :=
  match Text.dropBlank s with
  | '-' :: rest => (readDigits rest.length rest).map fun (n, r) => (-(n : Int), r)
  | '+' :: rest => (readDigits rest.length rest).map fun (n, r) => ((n : Int), r)
  | s => (readDigits 4 s).map fun (n, r) => ((n : Int), r)

/-- Expects one character. -/
def expect (c : Char) : List Char → Option (List Char)
  | d :: rest => if c == d then some rest else none
  | [] => none

/-- Reads `YYYY-MM-DD HH:MM:SS`. -/
def parse? (text : String) : Option Moment := do
  let s := text.toList
  let (year, s) ← readYear s
  let s ← expect '-' s
  let (month, s) ← readNumber 2 s
  let s ← expect '-' s
  let (day, s) ← readNumber 2 s
  let (hour, s) ← readNumber 2 s
  let s ← expect ':' s
  let (minute, s) ← readNumber 2 s
  let s ← expect ':' s
  let (second, s) ← readNumber 2 s
  if !s.isEmpty then none
  let m : Moment := ⟨year, month, day, hour, minute, second⟩
  if m.isValid then some m else none

/-- The default clock: 2024-01-15 10:30:00. -/
def default : Moment := ⟨2024, 1, 15, 10, 30, 0⟩

example : (parse? "2024-01-15 10:30:00").map stamp = some "2024_01_15_103000" := by
  decide +kernel
example : ((parse? "9999-12-31 23:59:59").bind fun m => (m.addSeconds? 1).map stamp) =
    some "+10000_01_01_000000" := by decide +kernel
example : (parse? "-0001-12-31 23:59:59").map stamp = some "-0001_12_31_235959" := by
  decide +kernel
example : ((parse? "2024-06-30 23:59:60").bind fun m =>
    (m.addSeconds? 1).map (m.stamp, ·.stamp)) =
    some ("2024_06_30_235960", "2024_07_01_000000") := by decide +kernel
example : (parse? "+262143-01-01 00:00:00").isNone ∧ (parse? "-262144-12-31 23:59:59").isNone :=
  by decide +kernel
example : ((parse? "+262142-12-31 23:59:58").map fun m =>
    (m.addSeconds? 1).isSome && (m.addSeconds? 2).isNone) = some true := by decide +kernel
example : (parse? "2024- 1-15 10: 30: 00").map stamp = some "2024_01_15_103000" := by
  decide +kernel
example : parse? "2024 -01-15 10:30:00" = none := by decide +kernel

end Moment

end CrudScaffold
