/-! The double nearest to an exact rational, ties going to the even neighbour, as reading a
decimal number or converting an integer to a double gives it.

The value is scaled to a 53-bit integer part by its binary exponent, rounded once with the
exact remainder, and packed into the bits of a double; values past the largest double become
infinity and values below half the smallest subnormal become zero. -/

namespace CrudScaffold.Number

/-- `a / b` rounded to the nearest integer, ties to even. -/
def roundHalfEven (a b : Nat) : Nat :=
  let q := a / b
  let r := a % b
  if 2 * r > b || (2 * r == b && q % 2 == 1) then q + 1 else q

/-- The bits of the positive double nearest to `num / den` (both positive). -/
def nearestBits (num den : Nat) : Nat :=
  let a := Nat.log2 num
  let b := Nat.log2 den
  let guess : Int := (a : Int) - b
  -- the binary exponent e with 2^e ≤ num / den < 2^(e+1)
  let atLeast (e : Int) : Bool :=
    if e ≥ 0 then num ≥ den * Nat.pow 2 e.toNat else num * Nat.pow 2 (-e).toNat ≥ den
  let e := if atLeast guess then guess else guess - 1
  let q : Int := max (e - 52) (-1074)
  let m := if q ≥ 0 then roundHalfEven num (den * Nat.pow 2 q.toNat)
    else roundHalfEven (num * Nat.pow 2 (-q).toNat) den
  let (m, q) := if m == Nat.pow 2 53 then (Nat.pow 2 52, q + 1) else (m, q)
  if m < Nat.pow 2 52 then m
  else
    let biased := q + 1075
    if biased ≥ 2047 then 2047 * Nat.pow 2 52
    else biased.toNat * Nat.pow 2 52 + (m - Nat.pow 2 52)

/-- A double from the bits of its magnitude and a sign. -/
def signedDouble (negative : Bool) (magnitude : Nat) : Float :=
  Float.ofBits (if negative then magnitude + Nat.pow 2 63 else magnitude).toUInt64

/-- The double nearest to `num / den` (with `den` positive), negated when asked; zero stays
a signed zero. -/
def nearestDouble (negative : Bool) (num den : Nat) : Float :=
  signedDouble negative (if num == 0 then 0 else nearestBits num den)

/-- The double nearest to `digits · 10^exponent`. Far outside the range of doubles the
result is infinity or zero without computing the power. -/
def decimalToDouble (negative : Bool) (digits : Nat) (exponent : Int) : Float :=
  let width : Int := (Nat.toDigits 10 digits).length
  if digits == 0 || width + exponent < -330 then signedDouble negative 0
  else if width + exponent > 330 then signedDouble negative (2047 * Nat.pow 2 52)
  else if exponent ≥ 0 then nearestDouble negative (digits * Nat.pow 10 exponent.toNat) 1
  else nearestDouble negative digits (Nat.pow 10 (-exponent).toNat)

/-- The double nearest to an integer. -/
def intToDouble (i : Int) : Float := nearestDouble (i < 0) i.natAbs 1

/-- The value of a list of decimal digits. -/
def digitsValue (ds : List Char) : Nat :=
  ds.foldl (fun v d => 10 * v + (d.toNat - '0'.toNat)) 0

/-- Reads a double as the standard library reads one: an optional sign, then `inf`,
`infinity` or `nan` in any case, or digits with an optional fraction (at least one digit in
all) and an optional exponent `e` or `E` with an optional sign. Nothing else may surround it. -/
def readDouble? (text : String) : Option Float :=
  let (negative, cs) := match text.toList with
    | '+' :: rest => (false, rest)
    | '-' :: rest => (true, rest)
    | cs => (false, cs)
  let word := String.ofList (cs.map Char.toLower)
  if word == "inf" || word == "infinity" then
    some (if negative then -1.0 / 0.0 else 1.0 / 0.0)
  else if word == "nan" then some (0.0 / 0.0)
  else
    let whole := cs.takeWhile Char.isDigit
    let cs := cs.drop whole.length
    let (fraction, cs) := match cs with
      | '.' :: rest => (rest.takeWhile Char.isDigit, rest.drop (rest.takeWhile Char.isDigit).length)
      | _ => ([], cs)
    if whole.isEmpty && fraction.isEmpty then none
    else
      let exponent : Option Int := match cs with
        | [] => some 0
        | e :: rest =>
          if e == 'e' || e == 'E' then
            let (expNegative, ds) := match rest with
              | '+' :: ds => (false, ds)
              | '-' :: ds => (true, ds)
              | ds => (false, ds)
            if ds.isEmpty || !ds.all Char.isDigit then none
            else
              let n := digitsValue ds
              some (if expNegative then -(n : Int) else n)
          else none
      exponent.map fun e =>
        decimalToDouble negative (digitsValue (whole ++ fraction)) (e - fraction.length)

end CrudScaffold.Number
