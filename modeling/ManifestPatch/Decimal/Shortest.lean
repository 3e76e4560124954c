import ManifestPatch.Decimal.Binary64

/-!
# Shortest Decimals

The shortest decimal that reads back as a given double. All decimals that round to the double form
an interval around it. For one digit, two digits and so on, the two neighbours of the double on the
grid of decimals of that many digits are tried; the first grid on which one lies in the interval
gives the digits, of two the nearer one, and of two equally near the even one.

## Main definitions

* `Binary64.shortest`: the digits and their decimal exponent.
-/

namespace ManifestPatch.Decimal

/-- A decimal `digits · 10 ^ exponent`. -/
structure Scientific where
  digits : Nat
  exponent : Int
  deriving DecidableEq, Repr

namespace Binary64

/-- The interval of all reals that round to the double, in quarters of its last binary place: its
ends, and whether they belong to it. Below a power of two the gap is half as wide. -/
def quarters (x : Binary64) : Nat × Nat × Bool :=
  let low := if x.significand = Nat.pow 2 52 ∧ -1074 < x.exponent then 1 else 2
  (4 * x.significand - low, 4 * x.significand + 2, x.significand % 2 == 0)

/-- The place of the first decimal digit: `10 ^ (place - 1) ≤ x < 10 ^ place`. -/
def decimalPlace (x : Binary64) : Int :=
  let (num, den) := x.ratio
  ((toString (num * Nat.pow 10 400 / den)).length : Int) - 400

/-- The decimal with this last decimal place that is nearest to the double, if one of its two
neighbours there rounds to it. -/
def decimalAt (x : Binary64) (place : Int) : Option Nat :=
  -- Both sides of every comparison are brought to integers by the same two factors.
  let decimalScale := Nat.pow 10 place.toNat * Nat.pow 2 (2 - x.exponent).toNat
  let binaryScale := Nat.pow 2 (x.exponent - 2).toNat * Nat.pow 10 (-place).toNat
  let (low, high, closed) := x.quarters
  let within (n : Nat) : Bool :=
    let value := n * decimalScale
    if closed then low * binaryScale ≤ value && value ≤ high * binaryScale
    else low * binaryScale < value && value < high * binaryScale
  let exact := 4 * x.significand * binaryScale
  let below := exact / decimalScale
  let above := below + 1
  match within below, within above with
  | true, true =>
    let short := exact - below * decimalScale
    let beyond := above * decimalScale - exact
    if short < beyond then some below
    else if beyond < short then some above
    else some (if below % 2 = 0 then below else above)
  | true, false => some below
  | false, true => some above
  | false, false => none

/-- The first of the digit counts from `count` on, at most `tries` of them, on whose grid some
decimal reads back. -/
def searchDigits (x : Binary64) (place : Int) (count : Nat) : Nat → Option Scientific
  | 0 => none
  | tries + 1 =>
    match x.decimalAt (place - count) with
    | some digits => some { digits, exponent := place - count }
    | none => x.searchDigits place (count + 1) tries

/-- The **shortest** decimal that reads back as the double. Seventeen digits always do. -/
def shortest (x : Binary64) : Scientific :=
  if x.significand = 0 then { digits := 0, exponent := 0 }
  else (x.searchDigits x.decimalPlace 1 17).getD { digits := 0, exponent := 0 }

end Binary64

end ManifestPatch.Decimal
