/-! Moments in UTC, to the nanosecond, in the proleptic Gregorian calendar. A leap second is the last
second of its minute with the nanoseconds counted past a thousand million. -/

namespace AlloyGrade

structure Instant where
  year : Int
  month : Nat
  day : Nat
  hour : Nat
  minute : Nat
  second : Nat
  nanos : Nat
deriving DecidableEq, Repr

namespace Instant

def nanosPerSecond : Nat := 1000000000

def minYear : Int := -262143

def maxYear : Int := 262142

def isLeapYear (year : Int) : Bool :=
  year % 4 == 0 && (year % 100 != 0 || year % 400 == 0)

def daysInMonth (year : Int) : Nat → Nat
  | 2 => if isLeapYear year then 29 else 28
  | 4 | 6 | 9 | 11 => 30
  | _ => 31

/-- A day of the calendar, in a year that the calendar covers. -/
def isDate (year : Int) (month day : Nat) : Bool :=
  minYear ≤ year && year ≤ maxYear && 1 ≤ month && month ≤ 12 && 1 ≤ day && day ≤ daysInMonth year month

/-- The next day, unless it lies past the last year. -/
def nextDay? (t : Instant) : Option Instant :=
  if t.day < daysInMonth t.year t.month then some { t with day := t.day + 1 }
  else if t.month < 12 then some { t with month := t.month + 1, day := 1 }
  else if t.year < maxYear then some { t with year := t.year + 1, month := 1, day := 1 }
  else none

/-- The day before, unless it lies before the first year. -/
def previousDay? (t : Instant) : Option Instant :=
  if 1 < t.day then some { t with day := t.day - 1 }
  else if 1 < t.month then some { t with month := t.month - 1, day := daysInMonth t.year (t.month - 1) }
  else if minYear < t.year then some { t with year := t.year - 1, month := 12, day := 31 }
  else none

def secondsPerDay : Int := 86400

/-- The moment in UTC of a local time that is `offset` seconds ahead; the offset is below a day. -/
def ofLocal? (t : Instant) (offset : Int) : Option Instant :=
  let total : Int := (t.hour * 3600 + t.minute * 60 + t.second : Nat) - offset
  let clock := (total % secondsPerDay).toNat
  let moved := { t with hour := clock / 3600, minute := clock / 60 % 60, second := clock % 60 }
  if total < 0 then moved.previousDay?
  else if secondsPerDay ≤ total then moved.nextDay?
  else some moved

/-! ### Text -/

/-- A number with leading zeros up to the given width. -/
def padded (width n : Nat) : List Char :=
  let digits := (toString n).toList
  List.replicate (width - digits.length) '0' ++ digits

/-- Four digits, or a sign and at least four outside the first ten thousand years. -/
def yearText (year : Int) : List Char :=
  if 0 ≤ year ∧ year ≤ 9999 then padded 4 year.toNat
  else (if year < 0 then '-' else '+') :: padded 4 year.natAbs

/-- No fraction, or the first of 3, 6 or 9 digits that is exact. -/
def fractionText (nanos : Nat) : List Char :=
  if nanos = 0 then []
  else if nanos % 1000000 = 0 then '.' :: padded 3 (nanos / 1000000)
  else if nanos % 1000 = 0 then '.' :: padded 6 (nanos / 1000)
  else '.' :: padded 9 nanos

def display (t : Instant) : String :=
  let leap := nanosPerSecond ≤ t.nanos
  let second := if leap then t.second + 1 else t.second
  let nanos := if leap then t.nanos - nanosPerSecond else t.nanos
  String.ofList (yearText t.year ++ ['-'] ++ padded 2 t.month ++ ['-'] ++ padded 2 t.day ++ ['T'] ++
    padded 2 t.hour ++ [':'] ++ padded 2 t.minute ++ [':'] ++ padded 2 second ++ fractionText nanos ++ ['Z'])

end Instant

end AlloyGrade
