/-!
# Double Precision Numbers

The non-negative finite numbers of the 64-bit binary floating point format, as exact significands
and exponents, and their arithmetic: every result is the exact ratio rounded to the nearest number
of the format, a tie to the even significand.
-/

namespace ManifestPatch.Decimal

/-- The integer nearest to a quotient; halfway between two, the even one. -/
def roundHalfEven (num den : Nat) : Nat :=
  let quotient := num / den
  let double := 2 * (num % den)
  if double < den then quotient
  else if den < double then quotient + 1
  else if quotient % 2 = 0 then quotient
  else quotient + 1

/-- A non-negative **double**: `significand · 2 ^ exponent`. The significand has 53 bits, or fewer
at the least exponent, which is -1074. -/
structure Binary64 where
  significand : Nat
  exponent : Int
  deriving DecidableEq, Repr

namespace Binary64

/-- Zero. -/
def zero : Binary64 :=
  { significand := 0, exponent := -1074 }

/-- The number as a ratio of naturals. -/
def ratio (x : Binary64) : Nat × Nat :=
  (x.significand * Nat.pow 2 x.exponent.toNat, Nat.pow 2 (-x.exponent).toNat)

/-- The exponent at which the significand of a ratio fills 53 bits, or the least exponent. -/
def exponentFor (num den : Nat) : Int :=
  let guess : Int := (num.log2 : Int) - (den.log2 : Int) - 53
  let significand := (num * Nat.pow 2 (-guess).toNat) / (den * Nat.pow 2 guess.toNat)
  max (if significand < Nat.pow 2 53 then guess else guess + 1) (-1074)

/-- The double nearest to a ratio; none if that is past the largest one. -/
def ofRatio (num den : Nat) : Option Binary64 :=
  let exponent := exponentFor num den
  let significand := roundHalfEven (num * Nat.pow 2 (-exponent).toNat)
    (den * Nat.pow 2 exponent.toNat)
  let rounded : Binary64 :=
    if significand = Nat.pow 2 53 then { significand := Nat.pow 2 52, exponent := exponent + 1 }
    else { significand, exponent }
  if rounded.significand = 0 then some zero
  else if 971 < rounded.exponent then none
  else some rounded

/-- The double nearest to a natural number. -/
def ofNat (n : Nat) : Option Binary64 :=
  ofRatio n 1

/-- The product of two doubles. -/
def mul (x y : Binary64) : Option Binary64 :=
  ofRatio (x.ratio.1 * y.ratio.1) (x.ratio.2 * y.ratio.2)

/-- The quotient of two doubles, the second of which is not zero. -/
def div (x y : Binary64) : Option Binary64 :=
  ofRatio (x.ratio.1 * y.ratio.2) (x.ratio.2 * y.ratio.1)

end Binary64

end ManifestPatch.Decimal
