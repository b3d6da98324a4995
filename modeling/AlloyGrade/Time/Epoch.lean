import AlloyGrade.Time.Instant

/-! Instants counted from the first of January 1970. Years are taken to begin in March, so that a leap day
is the last day of its year, and in groups of 400, which all have the same number of days. -/

namespace AlloyGrade.Instant

def daysPerEra : Nat := 146097

/-- Days from the first of March of the year 0 to the first of January 1970. -/
def epochShift : Int := 719468

/-- The year within a group of 400, and the day within that year. -/
def yearOfEra (dayOfEra : Nat) : Nat × Nat :=
  let year := (dayOfEra - dayOfEra / 1460 + dayOfEra / 36524 - dayOfEra / 146096) / 365
  (year, dayOfEra - (365 * year + year / 4 - year / 100))

/-- The date that is so many days after the epoch. -/
def dateOfDays (days : Int) : Int × Nat × Nat :=
  let shifted := days + epochShift
  let era := shifted.fdiv daysPerEra
  let (year, dayOfYear) := yearOfEra (shifted.fmod daysPerEra).toNat
  let month := (5 * dayOfYear + 2) / 153
  let day := dayOfYear - (153 * month + 2) / 5 + 1
  if month < 10 then (400 * era + year, month + 3, day) else (400 * era + year + 1, month - 9, day)

def ofEpoch (seconds : Int) (nanos : Nat) : Instant :=
  let (year, month, day) := dateOfDays (seconds.fdiv secondsPerDay)
  let rest := (seconds.fmod secondsPerDay).toNat
  ⟨year, month, day, rest / 3600, rest / 60 % 60, rest % 60, nanos⟩

example : (ofEpoch 0 0).display = "1970-01-01T00:00:00Z" := by decide +kernel

example : (ofEpoch 1709210096 0).display = "2024-02-29T12:34:56Z" := by decide +kernel

example : (ofEpoch (-1) 500000000).display = "1969-12-31T23:59:59.500Z" := by decide +kernel

end AlloyGrade.Instant
