import ManifestPatch.Decimal.Binary64
import ManifestPatch.Text.Scanner
import ManifestPatch.Timestamp.Calendar
import ManifestPatch.Toml.Basic

/-!
# Unquoted TOML Values

Truth values, integers, floats, dates and times, as they stand without quotes. Underscores may
stand between two digits of a number. Integers fit 64 signed bits, and floats are not past the
largest double; dates are dates of the calendar.

## Main definitions

* `Toml.scalar?`: the value that a text without quotes denotes.
-/

namespace ManifestPatch.Toml

open Text (Scanner)
open Text.Scanner (char charThat optionalChar peek? whole?)

/-! ### Numbers -/

/-- A text of digits without its underscores, each of which has to stand between two digits. -/
def ungrouped? (isDigit : Char → Bool) : List Char → Option (List Char)
  | [] => none
  | [c] => if isDigit c then some [c] else none
  | c :: '_' :: rest => if isDigit c then (c :: ·) <$> ungrouped? isDigit rest else none
  | c :: rest => if isDigit c then (c :: ·) <$> ungrouped? isDigit rest else none

/-- The value of a digit in any base up to 16. -/
def digitValue (c : Char) : Nat :=
  if c.isDigit then c.toNat - '0'.toNat else c.toLower.toNat - 'a'.toNat + 10

/-- The value of a run of digits in a base. -/
def numberIn (base : Nat) (digits : List Char) : Nat :=
  digits.foldl (fun value c => base * value + digitValue c) 0

/-- The largest 64-bit integer. -/
def maxInteger : Nat := 0x7FFFFFFFFFFFFFFF

/-- An integer after the mark of its base. -/
def basedInteger? (base : Nat) (isDigit : Char → Bool) (s : List Char) : Option Toml := do
  let value := numberIn base (← ungrouped? isDigit s)
  guard (value ≤ maxInteger)
  return .integer value

/-- Decimal digits without underscores and superfluous zeros in front. -/
def decimalDigits? (s : List Char) : Option (List Char) := do
  let digits ← ungrouped? Char.isDigit s
  guard (digits.head? != some '0' || s.length == 1)
  return digits

/-- A text without its sign, and whether that is a minus. -/
def splitSign : List Char → Bool × List Char
  | '-' :: rest => (true, rest)
  | '+' :: rest => (false, rest)
  | s => (false, s)

/-- A decimal integer. -/
def decimalInteger? (s : List Char) : Option Toml := do
  let (negative, s) := splitSign s
  let value := numberIn 10 (← decimalDigits? s)
  guard (value ≤ if negative then maxInteger + 1 else maxInteger)
  return .integer (if negative then -value else value)

/-- An integer in any base. Only decimal ones have a sign. -/
def integer? : List Char → Option Toml
  | '0' :: 'x' :: rest =>
    basedInteger? 16 (fun c => c.isDigit || ('a' ≤ c.toLower && c.toLower ≤ 'f')) rest
  | '0' :: 'o' :: rest => basedInteger? 8 (fun c => '0' ≤ c && c ≤ '7') rest
  | '0' :: 'b' :: rest => basedInteger? 2 (fun c => c == '0' || c == '1') rest
  | s => decimalInteger? s

/-- Whether a significand times a power of ten is at most the largest double. -/
def fitsDouble (significand : Nat) (power : Int) : Bool :=
  let place := (toString significand).length + power
  significand == 0 || place < 300
    || (place < 400 && (Decimal.Binary64.ofRatio (significand * Nat.pow 10 power.toNat)
      (Nat.pow 10 (-power).toNat)).isSome)

/-- Whether a character sets off the exponent of a float. -/
def isExponentMark (c : Char) : Bool :=
  c == 'e' || c == 'E'

/-- The digits after the point of a mantissa, if it has one. -/
def fractionDigits? (mantissa : List Char) : Option (List Char) :=
  match mantissa.dropWhile (· != '.') with
  | [] => some []
  | _ :: digits => ungrouped? Char.isDigit digits

/-- The exponent of a float, which is zero if it has none. -/
def exponent? (s : List Char) : Option Int :=
  match s.dropWhile fun c => !isExponentMark c with
  | [] => some 0
  | _ :: rest =>
    let (negative, digits) := splitSign rest
    (ungrouped? Char.isDigit digits).map fun digits =>
      let size : Int := numberIn 10 digits
      if negative then -size else size

/-- A float: a decimal integer with a fraction, an exponent or both, or a special value. -/
def float? (s : List Char) : Option Toml := do
  let (_, magnitude) := splitSign s
  if magnitude = "inf".toList ∨ magnitude = "nan".toList then return .float (.ofList s)
  guard (magnitude.any fun c => c == '.' || isExponentMark c)
  let mantissa := magnitude.takeWhile fun c => !isExponentMark c
  let whole ← decimalDigits? (mantissa.takeWhile (· != '.'))
  let fraction ← fractionDigits? mantissa
  let exponent ← exponent? magnitude
  guard (fitsDouble (numberIn 10 (whole ++ fraction)) (exponent - fraction.length))
  return .float (.ofList s)

/-! ### Dates and times -/

/-- A number of exactly so many digits. -/
def fixedNumber : Nat → Scanner Nat
  | 0 => return 0
  | width + 1 => do
    let first ← charThat Char.isDigit
    let rest ← fixedNumber width
    return (first.toNat - '0'.toNat) * Nat.pow 10 width + rest

/-- A date of the calendar. -/
def date : Scanner Unit := do
  let year ← fixedNumber 4
  char '-'
  let month ← fixedNumber 2
  char '-'
  let day ← fixedNumber 2
  guard (Date.isValid { year, month, day })

/-- A time of day. The seconds may be left out. -/
def time : Scanner Unit := do
  let hour ← fixedNumber 2
  char ':'
  let minute ← fixedNumber 2
  guard (hour ≤ 23 && minute ≤ 59)
  if ← optionalChar ':' then
    guard ((← fixedNumber 2) ≤ 60)
    if ← optionalChar '.' then
      guard !(← Text.Scanner.takeWhile Char.isDigit).isEmpty

/-- An offset from universal time, which may be left out. -/
def optionalOffset : Scanner Unit := do
  match ← peek? with
  | none => return
  | some _ =>
    let mark ← charThat fun c => c == 'Z' || c == 'z' || c == '+' || c == '-'
    if mark = '+' ∨ mark = '-' then
      let hour ← fixedNumber 2
      char ':'
      let minute ← fixedNumber 2
      guard (hour ≤ 23 && minute ≤ 59)

/-- A date with a time of day after it, which may be left out. -/
def dateAndTime : Scanner Unit := do
  date
  match ← peek? with
  | none => return
  | some _ =>
    let _ ← charThat fun c => c == 'T' || c == 't' || c == ' '
    time
    optionalOffset

/-- A date, a time, or both. -/
def datetime? (s : List Char) : Option Toml := do
  let _ ← (whole? dateAndTime s).or (whole? time s)
  return .datetime (.ofList s)

/-! ### All together -/

/-- The **value** that a text without quotes denotes. -/
def scalar? (s : List Char) : Option Toml :=
  if s = "true".toList then some (.boolean true)
  else if s = "false".toList then some (.boolean false)
  else (integer? s).or ((float? s).or (datetime? s))

end ManifestPatch.Toml
