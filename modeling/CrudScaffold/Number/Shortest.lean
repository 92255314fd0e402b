/-! Shortest decimal text of a double: the fewest significant digits that read back as the
same double, written out in full without an exponent (`1e20` is
`100000000000000000000`, `1e-7` is `0.0000001`, `1.0` is `1`).

A finite double is `m · 2^q`. The reals that round to it form an interval around it, whose
ends belong to it when `m` is even (ties go to the even neighbour). For `n = 1, 2, …, 17`
digits the two neighbours of the value on the grid of `n`-digit decimals are tested, in
exact natural-number arithmetic; the first `n` with a neighbour inside wins, and of two the
nearer one. An exact tie between the two is settled by a `Tie` rule: the full text takes
the larger (`0.25` with one digit after the point would be `0.3`). -/

namespace CrudScaffold.Number

/-- How a choice between two decimals equally near the value is settled. -/
inductive Tie where
  /-- The decimal whose last digit is even. -/
  | toEven
  /-- The decimal of larger magnitude. -/
  | up
deriving DecidableEq

/-- A nonnegative rational `num / den`. -/
structure Ratio where
  num : Nat
  den : Nat

/-- `a ≤ b` for ratios with positive denominators. -/
def Ratio.le (a b : Ratio) : Bool := a.num * b.den ≤ b.num * a.den

/-- `a < b` for ratios with positive denominators. -/
def Ratio.lt (a b : Ratio) : Bool := a.num * b.den < b.num * a.den

/-- `a · 2^e` as a ratio. -/
def scaledTwo (a : Nat) (e : Int) : Ratio :=
  if e ≥ 0 then ⟨a * Nat.pow 2 e.toNat, 1⟩ else ⟨a, Nat.pow 2 (-e).toNat⟩

/-- `d · 10^k` as a ratio. -/
def scaledTen (d : Nat) (k : Int) : Ratio :=
  if k ≥ 0 then ⟨d * Nat.pow 10 k.toNat, 1⟩ else ⟨d, Nat.pow 10 (-k).toNat⟩

/-- The decimal exponent of a positive ratio: the `e` with `10^e ≤ r < 10^(e+1)`. -/
def decimalExponent (r : Ratio) : Int :=
  let whole := r.num / r.den
  if whole > 0 then ((Nat.toDigits 10 whole).length : Int) - 1
  else
    -- r < 1: the first j with r · 10^j ≥ 1
    let j := (List.range 400).find? (fun j => r.num * Nat.pow 10 (j + 1) ≥ r.den)
    Int.neg ((j.getD 399 : Nat) + 1)

/-- Digits and decimal exponent `(d, k)` with `d · 10^k` the shortest decimal that lies in
the rounding interval `[lo, hi]` (ends included when `closed`), nearest to `v`; `tie`
settles two that are equally near. -/
def shortestIn (tie : Tie) (v lo hi : Ratio) (closed : Bool) : Nat × Int :=
  let inside (x : Ratio) : Bool :=
    if closed then lo.le x && x.le hi else lo.lt x && x.lt hi
  let e := decimalExponent v
  let attempt (n : Nat) : Option (Nat × Int) :=
    let k := e - (n : Int) + 1
    let grid := scaledTen 1 k
    -- d = floor (v / 10^k)
    let d := (v.num * grid.den) / (v.den * grid.num)
    let below := scaledTen d k
    let above := scaledTen (d + 1) k
    let inBelow := inside below
    let inAbove := inside above
    if inBelow && inAbove then
      -- nearer to v; a tie as `tie` says
      let dBelow := v.num * below.den * above.den - below.num * v.den * above.den
      let dAbove := above.num * v.den * below.den - v.num * above.den * below.den
      if dBelow < dAbove then some (d, k)
      else if dAbove < dBelow then some (d + 1, k)
      else match tie with
        | .toEven => if d % 2 == 0 then some (d, k) else some (d + 1, k)
        | .up => some (d + 1, k)
    else if inBelow then some (d, k)
    else if inAbove then some (d + 1, k)
    else none
  match (List.range 17).findSome? (fun i => attempt (i + 1)) with
  | some r => r
  | none =>
    let k := e - 16
    let grid := scaledTen 1 k
    ((v.num * grid.den) / (v.den * grid.num), k)

/-- Writes `d · 10^k` in positional notation, without trailing zeros after the point. -/
def positional (d : Nat) (k : Int) : String :=
  let digits := (Nat.toDigits 10 d)
  if k ≥ 0 then String.ofList (digits ++ List.replicate k.toNat '0')
  else
    let frac := (-k).toNat
    let padded := List.replicate (frac + 1 - min (frac + 1) digits.length) '0' ++ digits
    let intPart := padded.take (padded.length - frac)
    let fracPart := (padded.drop (padded.length - frac)).reverse.dropWhile (· = '0') |>.reverse
    if fracPart.isEmpty then String.ofList intPart
    else String.ofList intPart ++ "." ++ String.ofList fracPart

/-- Drops the trailing zeros of `d · 10^k` into the exponent; `fuel` bounds the zeros. -/
def dropZeros : Nat → Nat → Int → Nat × Int
  | 0, d, k => (d, k)
  | fuel + 1, d, k => if d != 0 && d % 10 == 0 then dropZeros fuel (d / 10) (k + 1) else (d, k)

/-- The shortest digits `d` and exponent `k` such that `d · 10^k` reads back as the magnitude
of the finite nonzero double with the bits `bits`; `d` ends in no zero, and `tie` settles two
equally near. -/
def digitsOfBits (tie : Tie) (bits : Nat) : Nat × Int :=
  let e : Nat := (bits / Nat.pow 2 52) % 2048
  let f : Nat := bits % Nat.pow 2 52
  let m : Nat := if e = 0 then f else f + Nat.pow 2 52
  let q : Int := if e = 0 then -1074 else (e : Int) - 1075
  let v := scaledTwo (4 * m) (q - 2)
  let lowGap := if f = 0 && e > 1 then 1 else 2
  let lo := scaledTwo (4 * m - lowGap) (q - 2)
  let hi := scaledTwo (4 * m + 2) (q - 2)
  let (d, k) := shortestIn tie v lo hi (m % 2 = 0)
  dropZeros 20 d k

/-- The shortest digits of a finite nonzero double, as `digitsOfBits` gives them. -/
def shortestDigits (tie : Tie) (x : Float) : Nat × Int := digitsOfBits tie x.toBits.toNat

/-- Whether a double is negative or negative zero. -/
def signBit (x : Float) : Bool := x.toBits.toNat ≥ Nat.pow 2 63

/-- The shortest text of the double with the bits `bits` that reads back as it, a tie going
to the larger digits; `NaN`, `inf` and `-inf` for the values that are no number, and `-0` for
negative zero. -/
def textOfBits (bits : Nat) : String :=
  let e : Nat := (bits / Nat.pow 2 52) % 2048
  let f : Nat := bits % Nat.pow 2 52
  let sign := if bits ≥ Nat.pow 2 63 then "-" else ""
  if e = 2047 then (if f = 0 then sign ++ "inf" else "NaN")
  else if e = 0 && f = 0 then sign ++ "0"
  else
    let (d, k) := digitsOfBits .up bits
    sign ++ positional d k

/-- The shortest text of a double, as `textOfBits` gives it. -/
def shortestText (x : Float) : String := textOfBits x.toBits.toNat

-- 562949953421312.25 lies halfway between two decimals with one digit after the point
example : textOfBits 4827858800541171714 = "562949953421312.3" := by decide +kernel
example : digitsOfBits .toEven 4827858800541171714 = (5629499534213122, -1) := by
  decide +kernel
example : textOfBits 14038167073140049096 = "-77353660212243.13" := by decide +kernel

end CrudScaffold.Number
