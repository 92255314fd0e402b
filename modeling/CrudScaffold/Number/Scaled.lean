import CrudScaffold.Number.Nearest

/-! Decimals read by scaling in double arithmetic. A whole significand `s` below `2^64` and a
decimal exponent `k` give `s · 10^k` in steps, each rounded once to the nearest double: `s`
itself, then a product with (or a quotient by) the double nearest `10^|k|`. Below `10^-308`
the quotient is taken in steps of `10^308` until the value is zero or the rest of the exponent
is in reach. The result may lie a unit in the last place from the double nearest the decimal
(`8732399975731.2956679698` gives the double whose shortest text is `8732399975731.295`); a
product past the largest double, or a positive exponent past `10^308` with a nonzero
significand, is refused.

Doubles are handled as the bits of their magnitude, so every step is exact arithmetic on
natural numbers followed by one rounding. -/

namespace CrudScaffold.Number

/-- The bits of positive infinity. -/
def infinityBits : Nat := 2047 * Nat.pow 2 52

/-- The magnitude of a finite double with the bits `bits` (sign clear) as `(m, q)`, worth
`m · 2^q`. -/
def bitsParts (bits : Nat) : Nat × Int :=
  let e := (bits / Nat.pow 2 52) % 2048
  let f := bits % Nat.pow 2 52
  if e = 0 then (f, -1074) else (f + Nat.pow 2 52, (e : Int) - 1075)

/-- The bits of the double nearest `m · 2^q`, zero for zero. -/
def roundedParts (m : Nat) (q : Int) : Nat :=
  if m = 0 then 0
  else if q ≥ 0 then nearestBits (m * Nat.pow 2 q.toNat) 1
  else nearestBits m (Nat.pow 2 (-q).toNat)

/-- The rounded product of two nonnegative finite doubles. -/
def productBits (a b : Nat) : Nat :=
  let (m, q) := bitsParts a
  let (n, r) := bitsParts b
  roundedParts (m * n) (q + r)

/-- The rounded quotient of a nonnegative finite double by a positive finite one. -/
def quotientBits (a b : Nat) : Nat :=
  let (m, q) := bitsParts a
  let (n, r) := bitsParts b
  if m = 0 then 0
  else if q - r ≥ 0 then nearestBits (m * Nat.pow 2 (q - r).toNat) n
  else nearestBits m (n * Nat.pow 2 (r - q).toNat)

/-- The bits of the double nearest `10^k`. -/
def powerBits (k : Nat) : Nat := nearestBits (Nat.pow 10 k) 1

/-- Divides by `10^308` while the exponent is below `-308` and the value is not zero, then
scales by the rest of the exponent; `fuel` counts the divisions left. -/
def scaleSteps : Nat → Nat → Int → Option Nat
  | fuel, bits, exponent =>
    if exponent.natAbs ≤ 308 then
      if exponent ≥ 0 then
        let p := productBits bits (powerBits exponent.toNat)
        if p = infinityBits then none else some p
      else some (quotientBits bits (powerBits exponent.natAbs))
    else if bits = 0 then some 0
    else if exponent ≥ 0 then none
    else match fuel with
      | 0 => some 0
      | fuel + 1 => scaleSteps fuel (quotientBits bits (powerBits 308)) (exponent + 308)

/-- The bits of the magnitude `significand · 10^exponent` computed in steps, or none past the
largest double. -/
def scaledBits (significand : Nat) (exponent : Int) : Option Nat :=
  scaleSteps ((-exponent).toNat / 308 + 1) (roundedParts significand 0) exponent

-- 8732399975731.2956679698 keeps the nineteen digits that fit 64 bits
example : scaledBits 8732399975731295667 (-6) = some 4800771981097356590 := by decide +kernel
example : scaledBits 1 400 = none ∧ scaledBits 0 400 = some 0 ∧ scaledBits 1 (-400) = some 0 := by
  decide +kernel

end CrudScaffold.Number
