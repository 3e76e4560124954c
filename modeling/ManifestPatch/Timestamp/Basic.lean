import ManifestPatch.Timestamp.Calendar

/-!
# Instants

An **instant** is a point in universal time, to the nanosecond, within the years that timestamps
may have. A leap second is the second 59 of its minute with more than 10⁹ nanoseconds, so that the
second 60 is kept apart from the one before and the one after.

## Main definitions

* `Clock`: the reading of a calendar and a clock.
* `Instant.ofClock?`: the instant of a reading, given how far its place is ahead of universal
  time.
-/

namespace ManifestPatch

/-- The reading of a calendar and a clock. The second may be 60. -/
structure Clock where
  date : Date
  hour : Nat
  minute : Nat
  second : Nat
  nanosecond : Nat := 0
  deriving DecidableEq, Repr

/-- An **instant**: seconds since the first of January 1970, and nanoseconds. -/
structure Instant where
  seconds : Int
  nanoseconds : Nat
  deriving DecidableEq, Repr

/-- The nanoseconds of a second. -/
def nanosPerSecond : Nat := 1000000000

/-- The seconds of a day. -/
def secondsPerDay : Int := 86400

/-- Whether a reading exists: a date of the calendar in the supported years, and a time of day. -/
def Clock.isValid (clock : Clock) : Bool :=
  -262143 ≤ clock.date.year && clock.date.year ≤ 262142 && clock.date.isValid
    && clock.hour ≤ 23 && clock.minute ≤ 59 && clock.second ≤ 60
    && clock.nanosecond < nanosPerSecond

namespace Instant

/-- The instant at which a clock `offset` seconds ahead of universal time shows the reading. -/
def ofClock? (clock : Clock) (offset : Int) : Option Instant :=
  if clock.isValid then
    let second := min clock.second 59
    let timeOfDay : Int := 3600 * clock.hour + 60 * clock.minute + second
    some {
      seconds := secondsPerDay * clock.date.dayNumber + timeOfDay - offset
      nanoseconds := clock.nanosecond + (if clock.second = 60 then nanosPerSecond else 0) }
  else none

/-- The reading of calendar and clock in universal time. -/
def clock (t : Instant) : Clock :=
  let timeOfDay := (t.seconds % secondsPerDay).toNat
  { date := .ofDayNumber (t.seconds / secondsPerDay)
    hour := timeOfDay / 3600
    minute := timeOfDay / 60 % 60
    second := timeOfDay % 60 + t.nanoseconds / nanosPerSecond
    nanosecond := t.nanoseconds % nanosPerSecond }

end Instant

end ManifestPatch
