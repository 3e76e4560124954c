import ManifestPatch.Decimal.Shortest

/-!
# Numbers of JSON

A number written without fraction and exponent is an integer if it fits 64 bits, signed or
unsigned; every other number is a double. The significand of a double is read digit by digit as
far as it fits 64 bits, and scaled by a power of ten in double precision; a number too large for a
double is refused.

## Main definitions

* `Number.parse`: the number that a text denotes.
* `Number.render`: integers in decimal, doubles as the shortest decimal that reads back.
-/

namespace ManifestPatch.Json

open Decimal (Binary64 Scientific)

/-- A **number**. -/
inductive Number where
  | integer (n : Int)
  | double (negative : Bool) (magnitude : Binary64)
  deriving DecidableEq, Repr

namespace Number

/-! ### Reading -/

/-- A significand with more digits taken into it, as long as it fits 64 bits, and the count of the
digits that did not fit any more. -/
def absorb (significand : Nat) : List Char → Nat × Nat
  | [] => (significand, 0)
  | c :: rest =>
    let longer := 10 * significand + (c.toNat - '0'.toNat)
    if longer < Nat.pow 2 64 then absorb longer rest else (significand, rest.length + 1)

/-- A power of ten, as near as a double comes to it. -/
def powerOfTen (power : Nat) : Option Binary64 :=
  Binary64.ofNat (Nat.pow 10 power)

/-- The largest power of ten among the doubles. -/
def largestPower : Nat := 308

/-- A double divided by the largest power of ten so many times; zero stays zero. -/
def divideRepeatedly (x : Binary64) : Nat → Option Binary64
  | 0 => some x
  | times + 1 =>
    if x.significand = 0 then some x
    else do divideRepeatedly (← x.div (← powerOfTen largestPower)) times

/-- A double divided by a power of ten, in steps that are powers of ten themselves. -/
def divideByPower (x : Binary64) (power : Nat) : Option Binary64 := do
  let times := (power - 1) / largestPower
  let smaller ← divideRepeatedly x times
  if smaller.significand = 0 then return smaller
  smaller.div (← powerOfTen (power - times * largestPower))

/-- A significand times a power of ten, if that is not too large. -/
def scale (significand : Nat) (power : Int) : Option Binary64 := do
  let x ← Binary64.ofNat significand
  if power < 0 then divideByPower x power.natAbs
  else if power ≤ largestPower then x.mul (← powerOfTen power.toNat)
  else if x.significand = 0 then some x
  else none

/-- The digits that a text begins with, and the rest. -/
def spanDigits (s : List Char) : List Char × List Char :=
  (s.takeWhile Char.isDigit, s.dropWhile Char.isDigit)

/-- The power of ten after `e`: its sign and its digits, if the text is nothing else. -/
def exponentPart (s : List Char) : Option (Bool × List Char) :=
  let (negative, digits) := match s with
    | '+' :: rest => (false, rest)
    | '-' :: rest => (true, rest)
    | _ => (false, s)
  if digits.isEmpty || !digits.all Char.isDigit then none else some (negative, digits)

/-- A significand and a power of ten, with a further power of ten written after `e`. A power past
32 bits leaves zero, unless the number is past all bounds. -/
def scaleFurther (significand : Nat) (power : Int) (exponentText : List Char) :
    Option Binary64 := do
  let (negative, digits) ← exponentPart exponentText
  let further := Nat.ofDigitChars 10 digits 0
  if further < Nat.pow 2 31 then
    scale significand (if negative then power - further else power + further)
  else if significand = 0 || negative then some .zero
  else none

/-- The magnitude of a number that has a fraction or an exponent, or too many digits: the
significand so far, the power of ten it stands at, and the rest of the text. -/
def parseDouble (significand : Nat) (power : Int) : List Char → Option Binary64
  | '.' :: rest => do
    let (digits, rest) := spanDigits rest
    guard !digits.isEmpty
    let (significand, ignored) := absorb significand digits
    let power := power - (digits.length - ignored : Nat)
    match rest with
    | [] => scale significand power
    | e :: rest => if e = 'e' ∨ e = 'E' then scaleFurther significand power rest else none
  | [] => scale significand power
  | e :: rest => if e = 'e' ∨ e = 'E' then scaleFurther significand power rest else none

/-- The number without its sign. -/
def parseMagnitude (negative : Bool) (s : List Char) : Option Number := do
  let (digits, rest) := spanDigits s
  guard (!digits.isEmpty && (digits.head? != some '0' || digits.length == 1))
  let (significand, ignored) := absorb 0 digits
  if rest.isEmpty && ignored == 0 && !negative then return .integer significand
  else if rest.isEmpty && ignored == 0 && 0 < significand && significand ≤ Nat.pow 2 63 then
    return .integer (-significand)
  else return .double negative (← parseDouble significand ignored rest)

/-- The **number** that a text denotes. -/
def parse : List Char → Option Number
  | '-' :: rest => parseMagnitude true rest
  | s => parseMagnitude false s

/-! ### Writing -/

/-- Digits with the decimal point set after the first `place` of them. -/
def positional (digits : List Char) (place : Int) : List Char :=
  if place ≤ 0 then ['0', '.'] ++ List.replicate (-place).toNat '0' ++ digits
  else
    let whole := digits.take place.toNat
    let fraction := digits.drop place.toNat
    whole ++ List.replicate (place.toNat - whole.length) '0' ++ ['.']
      ++ if fraction.isEmpty then ['0'] else fraction

/-- Digits in scientific notation, with the sign of the exponent always written. -/
def scientific (digits : List Char) (exponent : Int) : List Char :=
  let mantissa := match digits with
    | [] => []
    | [d] => [d]
    | d :: rest => d :: '.' :: rest
  mantissa ++ 'e' :: (if exponent < 0 then '-' else '+') :: (toString exponent.natAbs).toList

/-- The text of a double: the shortest digits, positional if the exponent of the first digit lies
between -5 and 15, scientific else. -/
def renderDouble (x : Binary64) : List Char :=
  if x.significand = 0 then ['0', '.', '0']
  else
    let short := x.shortest
    let all := (toString short.digits).toList
    let exponent := short.exponent + all.length - 1
    let digits := (all.reverse.dropWhile (· == '0')).reverse
    if -5 ≤ exponent ∧ exponent ≤ 15 then positional digits (exponent + 1)
    else scientific digits exponent

/-- The text of a **number**. -/
def render : Number → String
  | .integer n => toString n
  | .double negative magnitude =>
    .ofList ((if negative then ['-'] else []) ++ renderDouble magnitude)

end Number

end ManifestPatch.Json
