import ManifestPatch.Timestamp.Basic

/-!
# Writing Timestamps

An instant is written in universal time. The year has at least four digits, and a sign if it is
negative or past 9999; the fraction of the second has as many groups of three digits as it needs.
-/

namespace ManifestPatch

/-- A number with zeros before it up to a width. -/
def padded (width n : Nat) : String :=
  let digits := Nat.toDigits 10 n
  .ofList (List.replicate (width - digits.length) '0' ++ digits)

/-- A year: four digits, or a sign and at least four digits. -/
def Date.yearText (year : Int) : String :=
  if 0 ≤ year ∧ year ≤ 9999 then padded 4 year.toNat
  else (if year < 0 then "-" else "+") ++ padded 4 year.natAbs

/-- A fraction of a second with its point: no digits, or three, six or nine. -/
def Clock.fractionText (nanosecond : Nat) : String :=
  if nanosecond = 0 then ""
  else if nanosecond % 1000000 = 0 then "." ++ padded 3 (nanosecond / 1000000)
  else if nanosecond % 1000 = 0 then "." ++ padded 6 (nanosecond / 1000)
  else "." ++ padded 9 nanosecond

/-- Date and time of day, without an offset. -/
def Clock.render (c : Clock) : String :=
  Date.yearText c.date.year ++ "-" ++ padded 2 c.date.month ++ "-" ++ padded 2 c.date.day ++ "T"
    ++ padded 2 c.hour ++ ":" ++ padded 2 c.minute ++ ":" ++ padded 2 c.second
    ++ fractionText c.nanosecond

namespace Instant

/-- An instant with the short mark `Z` for universal time. -/
def renderZulu (t : Instant) : String :=
  t.clock.render ++ "Z"

/-- An instant with the offset of universal time written out. -/
def renderOffset (t : Instant) : String :=
  t.clock.render ++ "+00:00"

end Instant

end ManifestPatch
