import ManifestPatch.Text.Blank
import ManifestPatch.Text.Scanner
import ManifestPatch.Timestamp.Basic

/-!
# Reading Timestamps

A timestamp is written as date and time of day. Two spellings are read.

* With an **offset** from universal time, every field at its full width: `2020-01-01T00:00:00Z`,
  `2020-01-01 01:00:00.5+01:00`.
* **Without offset**, which means universal time. Here fields may be short or have blanks before
  them, and the year may have a sign and then any number of digits: `2020-1-1T0:0:0`.

A fraction of the second has any number of digits, of which nine count. White space around the
timestamp is free.

## Main definitions

* `Instant.parse?`: the instant that a text denotes.
-/

namespace ManifestPatch.Instant

open Text (Scanner)
open Text.Scanner (char charThat whole?)

/-! ### Fields -/

/-- A number of at least one digit (or of exactly `width` digits) and of at most `width` digits. -/
def digits (exact : Bool) (width : Nat) : Scanner Nat := do
  let s ← get
  let run := (s.take width).takeWhile Char.isDigit
  guard (!run.isEmpty && (!exact || run.length == width))
  set (s.drop run.length)
  return Nat.ofDigitChars 10 run 0

/-- The fraction of a second after a point, in nanoseconds; zero if there is no point. -/
def fraction : Scanner Nat := do
  match ← get with
  | '.' :: rest =>
    let run := rest.takeWhile Char.isDigit
    guard !run.isEmpty
    set (rest.drop run.length)
    let counted := run.take 9
    return Nat.ofDigitChars 10 counted 0 * Nat.pow 10 (9 - counted.length)
  | _ => return 0

/-- The blanks in front of the text are passed over. -/
def skipBlanks : Scanner Unit :=
  modify Text.trimStart

/-- Date and time of day, given how years and two-digit numbers are read and what separates the
date from the time. -/
def reading (year : Scanner Int) (twoDigits : Scanner Nat) (separates : Char → Bool) :
    Scanner Clock := do
  let year ← year
  char '-'
  let month ← twoDigits
  char '-'
  let day ← twoDigits
  let _ ← charThat separates
  let hour ← twoDigits
  char ':'
  let minute ← twoDigits
  char ':'
  let second ← twoDigits
  let nanosecond ← fraction
  return { date := { year, month, day }, hour, minute, second, nanosecond }

/-- An offset from universal time in seconds: `Z`, or a sign, hours and minutes. -/
def offset : Scanner Int := do
  match ← get with
  | c :: rest =>
    set rest
    if c = 'Z' ∨ c = 'z' then return 0
    else if c = '+' ∨ c = '-' ∨ c = '−' then
      let hours ← digits true 2
      char ':'
      let minutes ← digits true 2
      guard (hours ≤ 23 && minutes ≤ 59)
      let size : Int := 3600 * hours + 60 * minutes
      return if c = '+' then size else -size
    else failure
  | [] => failure

/-- A year of four digits. -/
def exactYear : Scanner Int :=
  Int.ofNat <$> digits true 4

/-- A number of two digits. -/
def exactNumber : Scanner Nat :=
  digits true 2

/-- What may stand between date and time in a timestamp with an offset. -/
def isSeparator (c : Char) : Bool :=
  c == 'T' || c == 't' || c == ' '

/-- A year with a sign and any number of digits, or with up to four digits. -/
def looseYear : Scanner Int := do
  skipBlanks
  match ← get with
  | '-' :: rest =>
    set rest
    return -(← digits false rest.length)
  | '+' :: rest =>
    set rest
    return ← digits false rest.length
  | _ => return ← digits false 4

/-- A number of one or two digits, with blanks before it. -/
def looseNumber : Scanner Nat := do
  skipBlanks
  digits false 2

/-! ### Timestamps -/

/-- The instant of a timestamp with an offset. -/
def withOffset? (s : List Char) : Option Instant := do
  let (clock, offset) ← whole? (do
    return (← reading exactYear exactNumber isSeparator, ← offset)) s
  ofClock? clock offset

/-- The instant of a timestamp without an offset. -/
def withoutOffset? (s : List Char) : Option Instant := do
  let clock ← whole? (reading looseYear looseNumber (· == 'T')) s
  ofClock? clock 0

/-- The **instant** that a text denotes: as a timestamp with an offset, or else as one without. -/
def parse? (text : String) : Option Instant :=
  let s := Text.trim text.toList
  (withOffset? s).or (withoutOffset? s)

end ManifestPatch.Instant
