set_option autoImplicit false

/-!
# Instants

An `Instant` is a count of seconds since the start of 1970 in universal time and a count of
nanoseconds, which reaches into a second billion during a leap second. Dates are those of the
proleptic Gregorian calendar, counted in eras of 400 years; the years an instant may fall in are
bounded.
-/

namespace Mooring

/-- A point in universal time. -/
structure Instant where
  seconds : Int
  nanos : Nat
  deriving DecidableEq, Repr, Inhabited

/-- A day of the Gregorian calendar. -/
structure Date where
  year : Int
  month : Nat
  day : Nat
  deriving DecidableEq, Repr

namespace Date

/-- Whether a year has a twenty-ninth of February. -/
def isLeapYear (year : Int) : Bool :=
  (year % 4 == 0 && year % 100 != 0) || year % 400 == 0

/-- The number of days of a month. -/
def monthLength (year : Int) (month : Nat) : Nat :=
  if month = 2 then (if isLeapYear year then 29 else 28)
  else if month = 4 ∨ month = 6 ∨ month = 9 ∨ month = 11 then 30
  else 31

/-- Whether the day exists and its year can be represented. -/
def isValid (d : Date) : Bool :=
  -262143 ≤ d.year && d.year ≤ 262142 && 1 ≤ d.month && d.month ≤ 12 && 1 ≤ d.day &&
    d.day ≤ monthLength d.year d.month

/-- Days since the start of 1970. The year is taken to begin in March, so that the leap day is its
last. -/
def toDays (d : Date) : Int :=
  let y := if d.month ≤ 2 then d.year - 1 else d.year
  let m := (d.month + 9) % 12
  let era := y / 400
  let yearOfEra := y - era * 400
  let dayOfYear : Int := ((153 * m + 2) / 5 + d.day - 1 : Nat)
  era * 146097 + yearOfEra * 365 + yearOfEra / 4 - yearOfEra / 100 + dayOfYear - 719468

/-- The date a number of days since the start of 1970. -/
def ofDays (days : Int) : Date :=
  let z := days + 719468
  let era := z / 146097
  let dayOfEra := (z - era * 146097).toNat
  let yearOfEra := (dayOfEra - dayOfEra / 1460 + dayOfEra / 36524 - dayOfEra / 146096) / 365
  let dayOfYear := dayOfEra - (365 * yearOfEra + yearOfEra / 4 - yearOfEra / 100)
  let m := (5 * dayOfYear + 2) / 153
  let month := if m < 10 then m + 3 else m - 9
  ⟨(yearOfEra : Int) + era * 400 + (if month ≤ 2 then 1 else 0), month,
    dayOfYear - (153 * m + 2) / 5 + 1⟩

end Date

namespace Instant

/-- The start of 1970. -/
def epoch : Instant := ⟨0, 0⟩

/-- The first second of the first year. -/
def leastSeconds : Int := (Date.toDays ⟨-262143, 1, 1⟩) * 86400

/-- The last second of the last year. -/
def greatestSeconds : Int := (Date.toDays ⟨262142, 12, 31⟩) * 86400 + 86399

/-- Whether a second lies in the years that can be represented. -/
def inRange (seconds : Int) : Bool :=
  leastSeconds ≤ seconds && seconds ≤ greatestSeconds

/-- The instant a number of milliseconds since the start of 1970, if it can be represented. -/
def ofMillis? (millis : Int) : Option Instant :=
  if inRange (millis / 1000) then some ⟨millis / 1000, (millis % 1000).toNat * 1000000⟩ else none

/-- Whole milliseconds since the start of 1970. -/
def toMillis (t : Instant) : Int :=
  t.seconds * 1000 + (t.nanos / 1000000 : Nat)

/-- The order of time. -/
def compare (a b : Instant) : Ordering :=
  (Ord.compare a.seconds b.seconds).then (Ord.compare a.nanos b.nanos)

/-- An instant made of milliseconds counts as many. -/
theorem toMillis_ofMillis? {millis : Int} {t : Instant} (h : ofMillis? millis = some t) :
    t.toMillis = millis := by
  simp only [ofMillis?] at h
  split at h
  · cases h
    simp only [toMillis]
    omega
  · simp at h

end Instant

end Mooring
