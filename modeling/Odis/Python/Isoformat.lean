import Mathlib.Tactic.IntervalCases
import Odis.Python.Datetime

/-!
# Reading a datetime

`datetime.fromisoformat` reads the ISO 8601 texts that a `datetime` has: a calendar date or a week
date, then any one character, then a time with an optional offset. A value without an offset is
naive, which `IsoDatetime.aware` takes for UTC, as the parsers of the events do.

This is the documented format. Some texts outside of it that CPython happens to read are refused
here. The offset of a `Datetime` is a fixed one: there is no time zone whose hours are repeated
when its clocks go back, so `fold` is left out.

* `daysFromCivil_civilFromDays`: a day is the day of its calendar date.
* `inRange_of_fromIsoformat?`: what is read is in the range of `datetime`.
* `fromIsoformat?_isoformat`: what `isoformat` writes is read back.
-/

namespace Odis

namespace Datetime

/-- `datetime.max`, as a wall-clock time in microseconds since the epoch. -/
def maxWall : ℤ := 253402300799999999

/-- What holds of every `datetime`: its wall-clock time is between `datetime.min` and
`datetime.max`, and its offset is less than a day. -/
structure InRange (t : Datetime) : Prop where
  min_le : minWall ≤ t.instant + t.utcOffset
  le_max : t.instant + t.utcOffset ≤ maxWall
  offset_lt : t.utcOffset.natAbs < 86400000000

instance (t : Datetime) : Decidable t.InRange :=
  decidable_of_iff (minWall ≤ t.instant + t.utcOffset ∧ t.instant + t.utcOffset ≤ maxWall ∧
      t.utcOffset.natAbs < 86400000000)
    ⟨fun h => ⟨h.1, h.2.1, h.2.2⟩, fun h => ⟨h.min_le, h.le_max, h.offset_lt⟩⟩

/-! ## Days and dates -/

/-- The day of a date, counted from the epoch. -/
def daysFromCivil (year month day : ℤ) : ℤ :=
  -- years start in March, so that the leap day is the last of its year
  let shiftedYear := if month ≤ 2 then year - 1 else year
  let monthFromMarch := if month ≤ 2 then month + 9 else month - 3
  let yearOfEra := shiftedYear % 400
  let dayOfYear := (153 * monthFromMarch + 2) / 5 + day - 1
  shiftedYear / 400 * 146097 + (365 * yearOfEra + yearOfEra / 4 - yearOfEra / 100 + dayOfYear) -
    719468

/-- An era has 400 years. -/
theorem yearOfEra_bounds {dayOfEra : ℤ} (hnonneg : 0 ≤ dayOfEra) (hlt : dayOfEra < 146097) :
    0 ≤ (dayOfEra - dayOfEra / 1460 + dayOfEra / 36524 - dayOfEra / 146096) / 365 ∧
      (dayOfEra - dayOfEra / 1460 + dayOfEra / 36524 - dayOfEra / 146096) / 365 ≤ 399 := by
  omega

/-- A year of an era has 366 days at most. -/
theorem dayOfYear_bounds {dayOfEra yearOfEra : ℤ} (hnonneg : 0 ≤ dayOfEra)
    (hlt : dayOfEra < 146097)
    (hyear : yearOfEra =
      (dayOfEra - dayOfEra / 1460 + dayOfEra / 36524 - dayOfEra / 146096) / 365) :
    0 ≤ dayOfEra - (365 * yearOfEra + yearOfEra / 4 - yearOfEra / 100) ∧
      dayOfEra - (365 * yearOfEra + yearOfEra / 4 - yearOfEra / 100) ≤ 365 := by
  have hcentury : 0 ≤ dayOfEra / 36524 ∧ dayOfEra / 36524 ≤ 4 := by omega
  have hlast : 0 ≤ dayOfEra / 146096 ∧ dayOfEra / 146096 ≤ 1 := by omega
  have hcenturies : 0 ≤ yearOfEra / 100 ∧ yearOfEra / 100 ≤ 3 := by omega
  generalize hc : dayOfEra / 36524 = century at *
  generalize hl : dayOfEra / 146096 = last at *
  generalize hcs : yearOfEra / 100 = centuries at *
  obtain ⟨hc0, hc4⟩ := hcentury
  obtain ⟨hl0, hl1⟩ := hlast
  obtain ⟨hcs0, hcs3⟩ := hcenturies
  -- once the century is known, what is left is linear
  interval_cases last <;> interval_cases century <;> interval_cases centuries <;> omega

/-- The day of a date that is given by its era, and by the year and the day of the year, from March,
in it. -/
theorem daysFromCivil_parts (era : ℤ) {yearOfEra dayOfYear : ℤ} (hyear0 : 0 ≤ yearOfEra)
    (hyear399 : yearOfEra ≤ 399) (hday0 : 0 ≤ dayOfYear) (hday365 : dayOfYear ≤ 365) :
    let monthFromMarch := (5 * dayOfYear + 2) / 153
    let month := if monthFromMarch < 10 then monthFromMarch + 3 else monthFromMarch - 9
    daysFromCivil (yearOfEra + era * 400 + if month ≤ 2 then 1 else 0) month
        (dayOfYear - (153 * monthFromMarch + 2) / 5 + 1) =
      era * 146097 + (365 * yearOfEra + yearOfEra / 4 - yearOfEra / 100 + dayOfYear) - 719468 := by
  intro monthFromMarch month
  have hmonth : 0 ≤ monthFromMarch ∧ monthFromMarch ≤ 11 := by omega
  simp only [daysFromCivil, month]
  split_ifs <;> omega

/-- A day is the day of its date. -/
theorem daysFromCivil_civilFromDays (day : ℤ) :
    daysFromCivil (civilFromDays day).1 (civilFromDays day).2.1 (civilFromDays day).2.2 = day := by
  have hnonneg : 0 ≤ (day + 719468) % 146097 := Int.emod_nonneg _ (by decide)
  have hlt : (day + 719468) % 146097 < 146097 := Int.emod_lt_of_pos _ (by decide)
  obtain ⟨hyear0, hyear399⟩ := yearOfEra_bounds hnonneg hlt
  obtain ⟨hday0, hday365⟩ := dayOfYear_bounds hnonneg hlt rfl
  have hparts := daysFromCivil_parts ((day + 719468) / 146097) hyear0 hyear399 hday0
    hday365
  refine hparts.trans ?_
  have hday := Int.mul_ediv_add_emod (day + 719468) 146097
  omega

/-- The months and the days of dates. -/
theorem civilFromDays_bounds (day : ℤ) :
    (1 ≤ (civilFromDays day).2.1 ∧ (civilFromDays day).2.1 ≤ 12) ∧
      1 ≤ (civilFromDays day).2.2 ∧ (civilFromDays day).2.2 ≤ 31 := by
  have hnonneg : 0 ≤ (day + 719468) % 146097 := Int.emod_nonneg _ (by decide)
  have hlt : (day + 719468) % 146097 < 146097 := Int.emod_lt_of_pos _ (by decide)
  have hparts : ∀ dayOfYear : ℤ, 0 ≤ dayOfYear → dayOfYear ≤ 365 →
      let monthFromMarch := (5 * dayOfYear + 2) / 153
      let month := if monthFromMarch < 10 then monthFromMarch + 3 else monthFromMarch - 9
      (1 ≤ month ∧ month ≤ 12) ∧ 1 ≤ dayOfYear - (153 * monthFromMarch + 2) / 5 + 1 ∧
        dayOfYear - (153 * monthFromMarch + 2) / 5 + 1 ≤ 31 := by
    intro dayOfYear hday0 hday365 monthFromMarch month
    simp only [month]
    split_ifs <;> omega
  obtain ⟨hday0, hday365⟩ := dayOfYear_bounds hnonneg hlt rfl
  exact hparts _ hday0 hday365

/-- The years of the days that a `datetime` can be on. -/
theorem year_bounds {day : ℤ} (hmin : -719162 ≤ day) (hmax : day ≤ 2932896) :
    1 ≤ (civilFromDays day).1 ∧ (civilFromDays day).1 ≤ 9999 := by
  have hday := daysFromCivil_civilFromDays day
  obtain ⟨hmonth, hdate⟩ := civilFromDays_bounds day
  simp only [daysFromCivil] at hday
  split_ifs at hday <;> omega

/-! ## The reader -/

/-- A number of `width` digits at the start of a text, and the rest. -/
def digits? (width : ℕ) (s : List Char) : Option (ℕ × List Char) :=
  if (s.take width).length = width ∧ (s.take width).all Char.isDigit then
    some (Nat.ofDigitChars 10 (s.take width) 0, s.drop width)
  else none

/-- A time of day, or an offset without its sign. -/
structure Clock where
  hour : ℕ
  minute : ℕ
  second : ℕ
  microsecond : ℕ
  deriving DecidableEq, Repr

/-- The time since midnight. -/
def Clock.microseconds (clock : Clock) : ℕ :=
  ((clock.hour * 60 + clock.minute) * 60 + clock.second) * 1000000 + clock.microsecond

/-- A fraction of a second. At most six of its digits count. -/
def fraction? : List Char → Option ℕ
  | [] => some 0
  | mark :: digits =>
      if (mark = '.' ∨ mark = ',') ∧ digits ≠ [] ∧ digits.all Char.isDigit then
        some (Nat.ofDigitChars 10 (digits.take 6) 0 * 10 ^ (6 - (digits.take 6).length))
      else none

/-- `HH[:MM[:SS[.ffffff]]]`, with colons between all numbers or between none. -/
def clock? (s : List Char) : Option Clock := do
  let (hour, s) ← digits? 2 s
  if s = [] then return ⟨hour, 0, 0, 0⟩
  let separated := s.head? = some ':'
  let (minute, s) ← digits? 2 (if separated then s.tail else s)
  if s = [] then return ⟨hour, minute, 0, 0⟩
  if separated ∧ s.head? ≠ some ':' then none
  let (second, s) ← digits? 2 (if separated then s.tail else s)
  let microsecond ← fraction? s
  return ⟨hour, minute, second, microsecond⟩

/-- An offset: `Z`, or a sign and the size, less than a day. There may be none. -/
def offset? : List Char → Option (Option ℤ)
  | [] => some none
  | sign :: size =>
      if sign = 'Z' then if size = [] then some (some 0) else none
      else (clock? size).bind fun clock =>
        if clock.microseconds < 86400000000 then
          some (some (if sign = '-' then -(clock.microseconds : ℤ) else clock.microseconds))
        else none

/-- A character that ends the time of day. -/
def startsOffset (c : Char) : Bool := c = '+' ∨ c = '-' ∨ c = 'Z'

/-- A time of day and an offset. -/
def time? (s : List Char) : Option (ℕ × Option ℤ) := do
  let clock ← clock? (s.takeWhile fun c => !startsOffset c)
  if clock.hour < 24 ∧ clock.minute < 60 ∧ clock.second < 60 then
    let offset ← offset? (s.dropWhile fun c => !startsOffset c)
    return (clock.microseconds, offset)
  else none

/-- The day of a calendar date, if there is that date. -/
def calendarDay? (year month day : ℕ) : Option ℤ :=
  if civilFromDays (daysFromCivil year month day) = ((year : ℤ), (month : ℤ), (day : ℤ)) then
    some (daysFromCivil year month day)
  else none

/-- The Monday of the first week of a year, which is the week of the fourth of January. -/
def firstMonday (year : ℤ) : ℤ :=
  daysFromCivil year 1 4 - (daysFromCivil year 1 4 + 3) % 7

/-- The day of a week date, if there is that date. -/
def weekDay? (year week weekday : ℕ) : Option ℤ :=
  let monday := firstMonday year + 7 * ((week : ℤ) - 1)
  if 1 ≤ week ∧ monday < firstMonday (year + 1) ∧ 1 ≤ weekday ∧ weekday ≤ 7 then
    some (monday + weekday - 1)
  else none

/-- Whether a weekday follows the week, by the text after the week. After `YYYY-Www-`, two digits
are a time; after `YYYYWww`, the digits may be the separator and a time. -/
def hasWeekday (separated : Bool) (rest : List Char) : Bool :=
  let digits := (rest.takeWhile Char.isDigit).length
  if separated then rest.head? = some '-' ∧ ¬ (rest.drop 2).head?.any Char.isDigit
  else digits = 1 ∨ (digits ≠ 0 ∧ digits % 2 = 0)

/-- A date at the start of a text, and the rest. -/
def date? (s : List Char) : Option (ℤ × List Char) := do
  let (year, s) ← digits? 4 s
  let separated : Bool := s.head? = some '-'
  let s := if separated then s.tail else s
  -- a week date, of which the weekday may be left out
  if s.head? = some 'W' then
    let (week, s) ← digits? 2 s.tail
    if hasWeekday separated s then
      let (weekday, s) ← digits? 1 (if separated then s.tail else s)
      let day ← weekDay? year week weekday
      return (day, s)
    else
      let day ← weekDay? year week 1
      return (day, s)
  else
    let (month, s) ← digits? 2 s
    if separated ∧ s.head? ≠ some '-' then none
    let (day, s) ← digits? 2 (if separated then s.tail else s)
    let day ← calendarDay? year month day
    return (day, s)

/-- A `datetime` as it is read: its wall-clock time and, unless it is naive, its offset. -/
structure IsoDatetime where
  wall : ℤ
  utcOffset : Option ℤ
  deriving DecidableEq, Repr

/-- `datetime.fromisoformat`, unless it raises `ValueError`. -/
def fromIsoformat? (text : String) : Option IsoDatetime := do
  let (day, rest) ← date? text.toList
  if day < -719162 ∨ 2932896 < day then none
  -- one character separates the date and the time, whatever it is
  let (microseconds, offset) ← if rest.tail = [] then some (0, none) else time? rest.tail
  return ⟨day * 86400000000 + microseconds, offset⟩

/-- The value, taken for UTC if it is naive. -/
def IsoDatetime.aware (read : IsoDatetime) : Datetime :=
  ⟨read.wall - read.utcOffset.getD 0, read.utcOffset.getD 0⟩

/-! ## What is read is a `datetime` -/

section Range

/-- What holds of every `datetime`, naive or aware. -/
structure IsoDatetime.InRange (read : IsoDatetime) : Prop where
  min_le : minWall ≤ read.wall
  le_max : read.wall ≤ maxWall
  offset_lt : ∀ offset, read.utcOffset = some offset → offset.natAbs < 86400000000

/-- A number of so many digits is less than this power of ten. -/
theorem ofDigitChars_lt {digits : List Char} (hdigit : ∀ c ∈ digits, c.isDigit = true) (n : ℕ) :
    Nat.ofDigitChars 10 digits n < (n + 1) * 10 ^ digits.length := by
  induction digits generalizing n with
  | nil => simp
  | cons c digits ih =>
      -- a character that is a digit stands for less than ten
      have hc : c.toNat - '0'.toNat < 10 := by
        have hrange := hdigit c List.mem_cons_self
        simp only [Char.isDigit, Bool.and_eq_true, decide_eq_true_eq,
          UInt32.le_iff_toNat_le] at hrange
        simp only [Char.toNat]
        have h9 : c.val.toNat ≤ 57 := hrange.2
        have h0 : '0'.val.toNat = 48 := rfl
        omega
      have hrest := ih (fun d hd => hdigit d (List.mem_cons_of_mem c hd))
        (10 * n + (c.toNat - '0'.toNat))
      rw [Nat.ofDigitChars_cons, List.length_cons, pow_succ']
      refine hrest.trans_le ?_
      rw [← Nat.mul_assoc]
      exact Nat.mul_le_mul_right _ (by omega)

/-- A fraction that is read is less than a second. -/
theorem fraction?_lt {s : List Char} {n : ℕ} (h : fraction? s = some n) : n < 1000000 := by
  cases s with
  | nil =>
      rw [fraction?, Option.some.injEq] at h
      omega
  | cons mark digits =>
      rw [fraction?] at h
      split_ifs at h with hdigits
      rw [Option.some.injEq] at h
      have hlt : Nat.ofDigitChars 10 (digits.take 6) 0 < (0 + 1) * 10 ^ (digits.take 6).length :=
        ofDigitChars_lt (fun c hc => List.all_eq_true.mp hdigits.2.2 c (List.mem_of_mem_take hc)) 0
      rw [Nat.zero_add, Nat.one_mul] at hlt
      have hlength : (digits.take 6).length ≤ 6 := List.length_take_le 6 digits
      calc n = Nat.ofDigitChars 10 (digits.take 6) 0 * 10 ^ (6 - (digits.take 6).length) := h.symm
        _ < 10 ^ (digits.take 6).length * 10 ^ (6 - (digits.take 6).length) :=
            Nat.mul_lt_mul_of_pos_right hlt (by positivity)
        _ = 1000000 := by rw [← pow_add, Nat.add_sub_cancel' hlength]; rfl

/-- What holds of every result of the second step holds of every result of both. -/
theorem forall_mem_bind {α β : Type} {P : β → Prop} {o : Option α} {f : α → Option β}
    (h : ∀ a ∈ o, ∀ b ∈ f a, P b) : ∀ b ∈ o.bind f, P b := by
  intro b hb
  obtain ⟨a, ha, hfa⟩ := Option.bind_eq_some_iff.mp hb
  exact h a ha b hfa

/-- The microseconds of a clock that is read are fewer than a second. -/
theorem clock?_microsecond_lt {s : List Char} {clock : Clock} (h : clock? s = some clock) :
    clock.microsecond < 1000000 := by
  suffices hall : ∀ clock ∈ clock? s, clock.microsecond < 1000000 from hall clock h
  -- hours and minutes alone have no microseconds
  have hwhole : ∀ hour minute, ∀ clock ∈ some (Clock.mk hour minute 0 0),
      clock.microsecond < 1000000 := by
    rintro hour minute _ ⟨⟩
    exact Nat.zero_lt_succ _
  have hseconds : ∀ (hour minute : ℕ) (rest : List Char),
      ∀ clock ∈ (digits? 2 rest).bind fun second =>
        (fraction? second.2).bind fun microsecond =>
          some (Clock.mk hour minute second.1 microsecond), clock.microsecond < 1000000 := by
    intro hour minute rest
    refine forall_mem_bind fun second _ => forall_mem_bind fun microsecond hmicrosecond => ?_
    rintro _ ⟨⟩
    exact fraction?_lt hmicrosecond
  rw [clock?]
  refine forall_mem_bind fun ⟨hour, rest⟩ _ => ?_
  dsimp only
  split
  · exact hwhole _ _
  refine forall_mem_bind fun ⟨minute, rest'⟩ _ => ?_
  dsimp only
  split
  · exact hwhole _ _
  split
  · exact forall_mem_bind fun _ h => absurd h (by simp)
  · exact hseconds _ _ _

/-- An offset that is read is less than a day. -/
theorem offset?_lt {s : List Char} {size : ℤ} (h : offset? s = some (some size)) :
    size.natAbs < 86400000000 := by
  cases s with
  | nil => cases h
  | cons sign digits =>
      rw [offset?] at h
      by_cases hutc : sign = 'Z'
      · rw [if_pos hutc] at h
        split_ifs at h
        rw [← Option.some.inj (Option.some.inj h)]
        decide
      · rw [if_neg hutc] at h
        -- any other offset is a time, which is checked to be less than a day
        obtain ⟨clock, -, hclock⟩ := Option.bind_eq_some_iff.mp h
        by_cases hlt : clock.microseconds < 86400000000
        · rw [if_pos hlt] at hclock
          rw [← Option.some.inj (Option.some.inj hclock)]
          split_ifs <;> omega
        · rw [if_neg hlt] at hclock
          cases hclock

/-- A time that is read is within a day, and so is its offset. -/
theorem time?_bounds {s : List Char} {microseconds : ℕ} {offset : Option ℤ}
    (h : time? s = some (microseconds, offset)) :
    microseconds < 86400000000 ∧ ∀ size, offset = some size → size.natAbs < 86400000000 := by
  rw [time?] at h
  obtain ⟨clock, hclock, h⟩ := Option.bind_eq_some_iff.mp h
  split_ifs at h with hbounds
  obtain ⟨offset', hoffset, h⟩ := Option.bind_eq_some_iff.mp h
  obtain ⟨rfl, rfl⟩ := Prod.mk.inj (Option.some.inj h)
  have hmicrosecond := clock?_microsecond_lt hclock
  constructor
  · rw [Clock.microseconds]
    omega
  · rintro size rfl
    exact offset?_lt hoffset

/-- What is read is a `datetime`. -/
theorem inRange_of_fromIsoformat? {text : String} {read : IsoDatetime}
    (h : fromIsoformat? text = some read) : read.InRange := by
  suffices hall : ∀ read ∈ fromIsoformat? text, read.InRange from hall read h
  rw [fromIsoformat?]
  refine forall_mem_bind fun ⟨day, rest⟩ _ => ?_
  dsimp only
  split
  · exact forall_mem_bind fun _ hnone => absurd hnone (by simp)
  next hday =>
    -- a day that exists, and a time within it
    have hread : ∀ (microseconds : ℕ) (offset : Option ℤ), microseconds < 86400000000 →
        (∀ size, offset = some size → size.natAbs < 86400000000) →
        IsoDatetime.InRange ⟨day * 86400000000 + microseconds, offset⟩ := by
      intro microseconds offset hlt hoffset
      exact ⟨by simp only [minWall]; omega, by simp only [maxWall]; omega, hoffset⟩
    split
    · rintro _ ⟨⟩
      exact hread 0 none (by decide) fun _ hsize => absurd hsize (by simp)
    · refine forall_mem_bind fun ⟨microseconds, offset⟩ htime => ?_
      rintro _ ⟨⟩
      obtain ⟨hlt, hoffset⟩ := time?_bounds htime
      exact hread microseconds offset hlt hoffset

/-- Taken for UTC if need be, it is an aware `datetime`. -/
theorem IsoDatetime.InRange.aware {read : IsoDatetime} (h : read.InRange) : read.aware.InRange := by
  have hwall : read.aware.instant + read.aware.utcOffset = read.wall := by
    rw [IsoDatetime.aware]
    exact Int.sub_add_cancel _ _
  refine ⟨hwall ▸ h.min_le, hwall ▸ h.le_max, ?_⟩
  show (read.utcOffset.getD 0).natAbs < 86400000000
  cases hoffset : read.utcOffset with
  | none => decide
  | some offset => exact h.offset_lt offset hoffset

end Range

/-! ## What is written is read back -/

section RoundTrip

/-- The digits are those of a number, with zeros in front up to a width. -/
structure DigitsOf (width n : ℕ) (digits : List Char) : Prop where
  length : digits.length = width
  isDigit : ∀ c ∈ digits, c.isDigit = true
  value : Nat.ofDigitChars 10 digits 0 = n

/-- A padded number has its width in digits. -/
theorem digitsOf_zeroPadded {width n : ℕ} (hpos : 0 < width) (hlt : n < 10 ^ width) :
    DigitsOf width n (zeroPadded width n).toList := by
  have hdigits : (toString n).toList = Nat.toDigits 10 n := by
    rw [Nat.toString_eq_ofList_toDigits, String.toList_ofList]
  have hlength : (Nat.toDigits 10 n).length ≤ width :=
    (Nat.length_toDigits_le_iff (by decide) hpos).mpr hlt
  -- the text is the number behind as many zeros as are missing
  have htext : (zeroPadded width n).toList =
      List.replicate (width - (Nat.toDigits 10 n).length) '0' ++ Nat.toDigits 10 n := by
    rw [zeroPadded, String.toList_append, String.toList_ofList, hdigits, ← String.length_toList,
      hdigits]
  rw [htext]
  refine ⟨?_, ?_, ?_⟩
  · rw [List.length_append, List.length_replicate]
    omega
  · intro c hc
    rcases List.mem_append.mp hc with hzero | hdigit
    · rw [List.eq_of_mem_replicate hzero]
      decide
    · exact Nat.isDigit_of_mem_toDigits (by decide) (by decide) hdigit
  · rw [Nat.ofDigitChars_append, Nat.ofDigitChars_replicate_zero, Nat.mul_zero,
      Nat.ofDigitChars_ten_toDigits]

variable {width n : ℕ} {digits : List Char}

/-- A number is read off its digits. -/
theorem DigitsOf.digits? (h : DigitsOf width n digits) (rest : List Char) :
    Datetime.digits? width (digits ++ rest) = some (n, rest) := by
  have htake : (digits ++ rest).take width = digits := by
    rw [← h.length, List.take_left]
  have hdrop : (digits ++ rest).drop width = rest := by
    rw [← h.length, List.drop_left]
  rw [Datetime.digits?, htake, hdrop, if_pos ⟨h.length, List.all_eq_true.mpr h.isDigit⟩, h.value]

/-- A fraction of six digits. -/
theorem DigitsOf.fraction? (h : DigitsOf 6 n digits) :
    Datetime.fraction? ('.' :: digits) = some n := by
  have htake : digits.take 6 = digits := List.take_of_length_le (Nat.le_of_eq h.length)
  have hne : digits ≠ [] := by
    rintro rfl
    exact absurd h.length (by decide)
  rw [Datetime.fraction?, if_pos ⟨Or.inl rfl, hne, List.all_eq_true.mpr h.isDigit⟩, htake,
    h.length, h.value]
  simp

/-- Hours and minutes. -/
theorem clock?_minutes {hours minutes : List Char} {hour minute : ℕ} (hh : DigitsOf 2 hour hours)
    (hm : DigitsOf 2 minute minutes) :
    clock? (hours ++ ':' :: minutes) = some ⟨hour, minute, 0, 0⟩ := by
  have hminute := hm.digits? []
  rw [List.append_nil] at hminute
  simp [clock?, hh.digits?, hminute]

/-- Hours, minutes and seconds, with a fraction. -/
theorem clock?_seconds {hours minutes seconds fraction : List Char}
    {hour minute second microsecond : ℕ} (hh : DigitsOf 2 hour hours)
    (hm : DigitsOf 2 minute minutes) (hs : DigitsOf 2 second seconds)
    (hfraction : fraction? fraction = some microsecond) :
    clock? (hours ++ ':' :: (minutes ++ ':' :: (seconds ++ fraction))) =
      some ⟨hour, minute, second, microsecond⟩ := by
  simp [clock?, hh.digits?, hm.digits?, hs.digits?, hfraction]

/-- The clock of a count of microseconds below a day. -/
def clockOf (microseconds : ℕ) : Clock :=
  ⟨microseconds / 1000000 / 3600, microseconds / 1000000 / 60 % 60, microseconds / 1000000 % 60,
    microseconds % 1000000⟩

/-- The clock of a time has its microseconds. -/
theorem microseconds_clockOf (microseconds : ℕ) :
    (clockOf microseconds).microseconds = microseconds := by
  simp only [clockOf, Clock.microseconds]
  omega

/-- The text of a time is read back as its clock. -/
theorem clock?_timeText {microseconds : ℕ} (hlt : microseconds < 86400000000) :
    clock? (timeText microseconds).toList = some (clockOf microseconds) := by
  have hh : DigitsOf 2 (microseconds / 1000000 / 3600) _ :=
    digitsOf_zeroPadded (by decide) (by omega)
  have hm : DigitsOf 2 (microseconds / 1000000 / 60 % 60) _ :=
    digitsOf_zeroPadded (by decide) (by omega)
  have hs : DigitsOf 2 (microseconds / 1000000 % 60) _ :=
    digitsOf_zeroPadded (by decide) (by omega)
  -- a fraction is written only if there is one
  have hfraction : fraction? (if microseconds % 1000000 = 0 then ""
      else "." ++ zeroPadded 6 (microseconds % 1000000)).toList =
        some (microseconds % 1000000) := by
    split_ifs with hzero
    · rw [hzero]
      rfl
    · rw [String.toList_append]
      exact (digitsOf_zeroPadded (by decide) (by omega)).fraction?
  rw [clockOf, ← clock?_seconds hh hm hs hfraction, timeText]
  simp [String.toList_append]

/-- The characters of a time do not start an offset. -/
theorem not_startsOffset_timeText {microseconds : ℕ} (hlt : microseconds < 86400000000) :
    ∀ c ∈ (timeText microseconds).toList, startsOffset c = false := by
  have hdigits : ∀ {width n : ℕ}, 0 < width → n < 10 ^ width →
      ∀ c ∈ (zeroPadded width n).toList, startsOffset c = false := by
    intro width n hpos hn c hc
    have hdigit := (digitsOf_zeroPadded hpos hn).isDigit c hc
    rw [startsOffset, decide_eq_false_iff_not]
    rintro (rfl | rfl | rfl) <;> exact absurd hdigit (by decide)
  -- the other characters are colons and the decimal point
  have hcolon : ∀ c ∈ (":" : String).toList, startsOffset c = false := by
    intro c hc
    rw [show c = ':' by simpa using hc]
    decide
  intro c hc
  simp only [timeText, String.toList_append, List.mem_append] at hc
  rcases hc with ((((hc | hc) | hc) | hc) | hc) | hc
  · exact hdigits (by decide) (by omega) c hc
  · exact hcolon c hc
  · exact hdigits (by decide) (by omega) c hc
  · exact hcolon c hc
  · exact hdigits (by decide) (by omega) c hc
  · split_ifs at hc
    · cases hc
    · rw [String.toList_append] at hc
      rcases List.mem_append.mp hc with hpoint | hc
      · rw [show c = '.' by simpa using hpoint]
        decide
      · exact hdigits (by decide) (by omega) c hc

/-- The size of an offset. -/
theorem clock?_offsetSize {microseconds : ℕ} (hlt : microseconds < 86400000000) :
    ∃ clock, clock? (if microseconds % 60000000 = 0 then
      zeroPadded 2 (microseconds / 60000000 / 60) ++ ":" ++
        zeroPadded 2 (microseconds / 60000000 % 60)
      else timeText microseconds).toList = some clock ∧ clock.microseconds = microseconds := by
  split_ifs with hzero
  · have hh : DigitsOf 2 (microseconds / 60000000 / 60) _ :=
      digitsOf_zeroPadded (by decide) (by omega)
    have hm : DigitsOf 2 (microseconds / 60000000 % 60) _ :=
      digitsOf_zeroPadded (by decide) (by omega)
    refine ⟨⟨microseconds / 60000000 / 60, microseconds / 60000000 % 60, 0, 0⟩, ?_, ?_⟩
    · rw [← clock?_minutes hh hm]
      simp [String.toList_append]
    · simp only [Clock.microseconds]
      omega
  · exact ⟨_, clock?_timeText hlt, microseconds_clockOf _⟩

/-- An offset is written as a sign and its size. -/
theorem toList_offsetText {offset : ℤ} (hlt : offset.natAbs < 86400000000) :
    ∃ size clock, (offsetText offset).toList = (if offset < 0 then '-' else '+') :: size ∧
      clock? size = some clock ∧ clock.microseconds = offset.natAbs := by
  obtain ⟨clock, hclock, hmicroseconds⟩ := clock?_offsetSize hlt
  have hsign : ∀ size : String, ((if offset < 0 then "-" else "+") ++ size).toList =
      (if offset < 0 then '-' else '+') :: size.toList := by
    intro size
    rw [String.toList_append]
    split_ifs <;> rfl
  exact ⟨_, clock, hsign _, hclock, hmicroseconds⟩

/-- The text of an offset is read back. -/
theorem offset?_offsetText {offset : ℤ} (hlt : offset.natAbs < 86400000000) :
    offset? (offsetText offset).toList = some (some offset) := by
  obtain ⟨size, clock, htext, hclock, hmicroseconds⟩ := toList_offsetText hlt
  have hsize : clock.microseconds < 86400000000 := by omega
  rw [htext]
  by_cases hneg : offset < 0
  · rw [if_pos hneg, offset?, if_neg (by decide), hclock, Option.bind_some, if_pos hsize,
      if_pos rfl]
    exact congrArg _ (congrArg _ (by omega))
  · rw [if_neg hneg, offset?, if_neg (by decide), hclock, Option.bind_some, if_pos hsize,
      if_neg (by decide)]
    exact congrArg _ (congrArg _ (by omega))

/-- A time of day and its offset are read apart. -/
theorem time?_append {microseconds : ℕ} (hlt : microseconds < 86400000000) {offset : ℤ}
    (hoffset : offset.natAbs < 86400000000) :
    time? ((timeText microseconds).toList ++ (offsetText offset).toList) =
      some (microseconds, some offset) := by
  -- no character of the time begins an offset, and the first one after it does
  have hquiet : ∀ c ∈ (timeText microseconds).toList, (!startsOffset c) = true := by
    intro c hc
    rw [not_startsOffset_timeText hlt c hc]
    rfl
  obtain ⟨size, _, htext, _⟩ := toList_offsetText hoffset
  have hstarts : (!startsOffset (if offset < 0 then '-' else '+')) = false := by
    split_ifs <;> decide
  have htake : ((timeText microseconds).toList ++ (offsetText offset).toList).takeWhile
      (fun c => !startsOffset c) = (timeText microseconds).toList := by
    rw [List.takeWhile_append_of_pos hquiet, htext, List.takeWhile_cons, hstarts]
    simp
  have hdrop : ((timeText microseconds).toList ++ (offsetText offset).toList).dropWhile
      (fun c => !startsOffset c) = (offsetText offset).toList := by
    rw [List.dropWhile_append_of_pos hquiet, htext, List.dropWhile_cons, hstarts]
    simp
  have hclock : (clockOf microseconds).hour < 24 ∧ (clockOf microseconds).minute < 60 ∧
      (clockOf microseconds).second < 60 := by
    simp only [clockOf]
    omega
  rw [time?, htake, hdrop, clock?_timeText hlt, offset?_offsetText hoffset]
  simp [hclock, microseconds_clockOf]

/-- The date of a day is read back as this day. -/
theorem calendarDay?_civilFromDays {day : ℤ} (hmin : -719162 ≤ day) (hmax : day ≤ 2932896) :
    calendarDay? (civilFromDays day).1.toNat (civilFromDays day).2.1.toNat
      (civilFromDays day).2.2.toNat = some day := by
  obtain ⟨⟨hmonth, _⟩, hdate, _⟩ := civilFromDays_bounds day
  obtain ⟨hyear, _⟩ := year_bounds hmin hmax
  rw [calendarDay?, Int.toNat_of_nonneg (by omega), Int.toNat_of_nonneg (by omega),
    Int.toNat_of_nonneg (by omega), daysFromCivil_civilFromDays, if_pos rfl]

/-- A calendar date is read with the text after it. -/
theorem date?_append {years months dates rest : List Char} {year month date : ℕ} {day : ℤ}
    (hyear : DigitsOf 4 year years) (hmonth : DigitsOf 2 month months)
    (hdate : DigitsOf 2 date dates) (hday : calendarDay? year month date = some day) :
    date? (years ++ '-' :: (months ++ '-' :: (dates ++ rest))) = some (day, rest) := by
  -- a month starts with a digit, and not with the mark of a week
  have hweek : ¬ months.head?.getD '-' = 'W' := by
    cases months with
    | nil => decide
    | cons c cs =>
        rintro rfl
        exact absurd (hmonth.isDigit 'W' List.mem_cons_self) (by decide)
  simp [date?, hyear.digits?, hmonth.digits?, hdate.digits?, hday, hweek]

/-- The days that a `datetime` can be on. -/
theorem day_bounds {wall : ℤ} (hmin : minWall ≤ wall) (hmax : wall ≤ maxWall) :
    -719162 ≤ wall / 86400000000 ∧ wall / 86400000000 ≤ 2932896 := by
  rw [minWall] at hmin
  rw [maxWall] at hmax
  constructor <;> omega

/-- The date is read off a text that `isoformat` wrote. -/
theorem date?_isoformat {t : Datetime} (h : t.InRange) :
    date? t.isoformat.toList = some ((t.instant + t.utcOffset) / 86400000000,
      'T' :: ((timeText ((t.instant + t.utcOffset) % 86400000000).toNat).toList ++
        (offsetText t.utcOffset).toList)) := by
  obtain ⟨hmin, hmax⟩ := day_bounds h.min_le h.le_max
  obtain ⟨hyear, hyear'⟩ := year_bounds hmin hmax
  obtain ⟨⟨hmonth, hmonth'⟩, hdate, hdate'⟩ :=
    civilFromDays_bounds ((t.instant + t.utcOffset) / 86400000000)
  have hy : DigitsOf 4 (civilFromDays ((t.instant + t.utcOffset) / 86400000000)).1.toNat _ :=
    digitsOf_zeroPadded (by decide) (by omega)
  have hm : DigitsOf 2 (civilFromDays ((t.instant + t.utcOffset) / 86400000000)).2.1.toNat _ :=
    digitsOf_zeroPadded (by decide) (by omega)
  have hd : DigitsOf 2 (civilFromDays ((t.instant + t.utcOffset) / 86400000000)).2.2.toNat _ :=
    digitsOf_zeroPadded (by decide) (by omega)
  rw [← date?_append hy hm hd (calendarDay?_civilFromDays hmin hmax)]
  simp [isoformat, isoformatWith, String.toList_append]

/-- What `isoformat` writes, `fromisoformat` reads. -/
theorem fromIsoformat?_isoformat {t : Datetime} (h : t.InRange) :
    fromIsoformat? t.isoformat = some ⟨t.instant + t.utcOffset, some t.utcOffset⟩ := by
  obtain ⟨hmin, hmax⟩ := day_bounds h.min_le h.le_max
  have hnonneg := Int.emod_nonneg (t.instant + t.utcOffset) (b := 86400000000) (by decide)
  have hlt := Int.emod_lt_of_pos (t.instant + t.utcOffset) (b := 86400000000) (by decide)
  have hdiv := Int.mul_ediv_add_emod (t.instant + t.utcOffset) 86400000000
  have hmicroseconds : ((t.instant + t.utcOffset) % 86400000000).toNat < 86400000000 := by omega
  have htime := time?_append hmicroseconds h.offset_lt
  have hday : ¬ ((t.instant + t.utcOffset) / 86400000000 < -719162 ∨
      2932896 < (t.instant + t.utcOffset) / 86400000000) :=
    not_or.mpr ⟨Int.not_lt.mpr hmin, Int.not_lt.mpr hmax⟩
  -- there is a time after the date
  have hrest : (timeText ((t.instant + t.utcOffset) % 86400000000).toNat).toList ++
      (offsetText t.utcOffset).toList ≠ [] := by
    intro hnil
    rw [hnil] at htime
    simp [time?, clock?, digits?] at htime
  rw [fromIsoformat?, date?_isoformat h]
  simp only [Option.bind_eq_bind, Option.bind_some, if_neg hday, List.tail_cons, if_neg hrest,
    htime]
  -- days and microseconds add up to the time on the wall
  have hwall : (t.instant + t.utcOffset) / 86400000000 * 86400000000 +
      (((t.instant + t.utcOffset) % 86400000000).toNat : ℤ) = t.instant + t.utcOffset := by
    rw [Int.toNat_of_nonneg hnonneg, Int.mul_comm]
    exact hdiv
  rw [hwall]
  rfl

/-- Read with the offset it was written with, an aware `datetime` is itself. -/
theorem aware_fromIsoformat?_isoformat {t : Datetime} (h : t.InRange) :
    (fromIsoformat? t.isoformat).map IsoDatetime.aware = some t := by
  rw [fromIsoformat?_isoformat h, Option.map_some, IsoDatetime.aware]
  simp

end RoundTrip

end Datetime

end Odis
