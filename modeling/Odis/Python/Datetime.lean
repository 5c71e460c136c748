import Mathlib.Data.Int.Notation
import Mathlib.Data.Nat.Notation

/-!
# Points in time

Aware `datetime` values are compared and subtracted as points on the time line, whatever offset
they are written with. `Instant` is such a point, in microseconds, the resolution of `datetime`;
`Datetime` also keeps the offset, which only the text of the value (`isoformat`) shows.
-/

namespace Odis

/-- An aware `datetime`, in microseconds since the epoch. -/
abbrev Instant : Type := ℤ

/-- An aware `datetime` with the offset it is written with. -/
structure Datetime where
  instant : Instant
  /-- The UTC offset of the value's time zone, in microseconds. -/
  utcOffset : ℤ
  deriving DecidableEq, Repr

namespace Datetime

/-- The same point in time, written in UTC. -/
def utc (instant : Instant) : Datetime := ⟨instant, 0⟩

/-- `datetime.min`, as a wall-clock time in microseconds since the epoch. -/
def minWall : ℤ := -62135596800000000

/-- `t - timedelta(microseconds=delta)`, unless it raises `OverflowError`. -/
def sub? (t : Datetime) (delta : ℕ) : Option Datetime :=
  if t.instant + t.utcOffset - delta < minWall then none
  else some { t with instant := t.instant - delta }

/-- `n` in decimal, with zeros in front up to `width` digits. -/
def zeroPadded (width n : ℕ) : String :=
  let digits := toString n
  String.ofList (List.replicate (width - digits.length) '0') ++ digits

/-- The proleptic Gregorian date (year, month, day) of a day counted from the epoch. -/
def civilFromDays (day : ℤ) : ℤ × ℤ × ℤ :=
  let shifted := day + 719468
  let era := shifted / 146097
  let dayOfEra := shifted % 146097
  let yearOfEra :=
    (dayOfEra - dayOfEra / 1460 + dayOfEra / 36524 - dayOfEra / 146096) / 365
  let dayOfYear := dayOfEra - (365 * yearOfEra + yearOfEra / 4 - yearOfEra / 100)
  let monthFromMarch := (5 * dayOfYear + 2) / 153
  let day := dayOfYear - (153 * monthFromMarch + 2) / 5 + 1
  let month := if monthFromMarch < 10 then monthFromMarch + 3 else monthFromMarch - 9
  (yearOfEra + era * 400 + (if month ≤ 2 then 1 else 0), month, day)

/-- `HH:MM:SS[.ffffff]` of a count of microseconds below a day. -/
def timeText (microseconds : ℕ) : String :=
  let seconds := microseconds / 1000000
  let fraction := microseconds % 1000000
  zeroPadded 2 (seconds / 3600) ++ ":" ++ zeroPadded 2 (seconds / 60 % 60) ++ ":" ++
    zeroPadded 2 (seconds % 60) ++
    if fraction = 0 then "" else "." ++ zeroPadded 6 fraction

/-- The offset as `±HH:MM[:SS[.ffffff]]`. -/
def offsetText (offset : ℤ) : String :=
  let microseconds := offset.natAbs
  let minutes := microseconds / 60000000
  (if offset < 0 then "-" else "+") ++
    if microseconds % 60000000 = 0 then
      zeroPadded 2 (minutes / 60) ++ ":" ++ zeroPadded 2 (minutes % 60)
    else timeText microseconds

/-- `isoformat(sep)`. -/
def isoformatWith (separator : String) (t : Datetime) : String :=
  let wall := t.instant + t.utcOffset
  let (year, month, day) := civilFromDays (wall / 86400000000)
  zeroPadded 4 year.toNat ++ "-" ++ zeroPadded 2 month.toNat ++ "-" ++ zeroPadded 2 day.toNat ++
    separator ++ timeText (wall % 86400000000).toNat ++ offsetText t.utcOffset

/-- `isoformat()`. -/
def isoformat (t : Datetime) : String := t.isoformatWith "T"

/-- `str(t)`. -/
def str (t : Datetime) : String := t.isoformatWith " "

end Datetime

end Odis
