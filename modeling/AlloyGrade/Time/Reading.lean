import AlloyGrade.Text.Alphanumeric
import AlloyGrade.Text.Scan
import AlloyGrade.Time.Instant

/-! Reading a moment from text. Date, time and offset stand in that order; blanks are allowed around the
numbers, a `T`, a `t` or a blank divides date from time, and the offset may be `Z` or `UTC`. -/

namespace AlloyGrade

inductive TimeError where
  | outOfRange
  | impossible
  | invalid
  | tooShort
  | tooLong
deriving DecidableEq, Repr

def TimeError.message : TimeError → String
  | .outOfRange => "input is out of range"
  | .impossible => "no possible date and time matching input"
  | .invalid => "input contains invalid characters"
  | .tooShort => "premature end of input"
  | .tooLong => "trailing input"

namespace Instant

abbrev TimeScan := Scan TimeError

def skipBlanks : TimeScan Unit := Scan.skipWhile Text.isBlank

def digitsValue (ds : List Char) : Nat := ds.foldl (fun n c => n * 10 + (c.toNat - 48)) 0

/-- At least one digit, and at most `width` of them if a width is given. -/
def digits (width : Option Nat) : TimeScan (List Char) := fun cs =>
  let ds := (match width with
    | some w => cs.take w
    | none => cs).takeWhile Char.isDigit
  match cs, ds with
  | [], _ => .error .tooShort
  | _, [] => .error .invalid
  | _, _ => .ok (ds, cs.drop ds.length)

def number (width : Option Nat) (low high : Nat) : TimeScan Nat := do
  let ds ← digits width
  let n := digitsValue ds
  if low ≤ n ∧ n ≤ high then return n else Scan.fail .outOfRange

def twoDigits (low high : Nat) : TimeScan Nat := do
  skipBlanks
  number (some 2) low high

/-- Four digits, or a sign and any number of digits. Years past 32 bits are refused at once. -/
def yearNumber : TimeScan Int := do
  skipBlanks
  match ← Scan.peek? with
  | some '-' =>
    Scan.skip
    let n ← number none 0 2147483648
    return -n
  | some '+' =>
    Scan.skip
    let n ← number none 0 2147483647
    return n
  | _ =>
    let n ← number (some 4) 0 9999
    return n

/-- One character out of `allowed`. -/
def oneOf (allowed : List Char) : TimeScan Unit := do
  match ← Scan.peek? with
  | none => Scan.fail .tooShort
  | some c => if c ∈ allowed then Scan.skip else Scan.fail .invalid

def mark (c : Char) : TimeScan Unit := do
  skipBlanks
  oneOf [c]

/-- The digits after a point as nanoseconds, cut to nine. -/
def fraction : TimeScan Nat := do
  match ← Scan.peek? with
  | some '.' =>
    Scan.skip
    let ds ← digits (some 9)
    Scan.skipWhile Char.isDigit
    return digitsValue ds * Nat.pow 10 (9 - ds.length)
  | _ => return 0

/-- Two digits of an offset. -/
def offsetDigits : TimeScan (Nat × Nat)
  | a :: b :: rest =>
    if a.isDigit && b.isDigit then .ok ((a.toNat - 48, b.toNat - 48), rest) else .error .invalid
  | [a] => if a.utf8Size < 2 then .error .tooShort else .error .invalid
  | [] => .error .tooShort

/-- Hours and minutes after the sign, in seconds. -/
def offsetSeconds : TimeScan Nat := do
  let (h₁, h₂) ← offsetDigits
  Scan.skipWhile fun c => c == ':' || Text.isBlank c
  let (m₁, m₂) ← offsetDigits
  if 5 < m₁ then Scan.fail .outOfRange else return (h₁ * 10 + h₂) * 3600 + (m₁ * 10 + m₂) * 60

/-- U+2212, which may stand for a hyphen. -/
def minusSign : Char := Char.ofNat 0x2212

/-- How many seconds the local time is ahead. -/
def offset : TimeScan Int := fun cs =>
  if (cs.take 3).map Char.toUpper = ['U', 'T', 'C'] then .ok (0, cs.drop 3)
  else match cs with
    | [] => .error .tooShort
    | c :: rest =>
      if c = 'Z' ∨ c = 'z' then .ok (0, rest)
      else if c = '+' then
        match offsetSeconds rest with
        | .error e => .error e
        | .ok (n, rest) => .ok ((n : Int), rest)
      else if c = '-' ∨ c = minusSign then
        match offsetSeconds rest with
        | .error e => .error e
        | .ok (n, rest) => .ok (-(n : Int), rest)
      else .error .invalid

/-- A local time and how many seconds it is ahead. -/
def localTime : TimeScan (Instant × Int) := do
  let year ← yearNumber
  mark '-'
  let month ← twoDigits 1 12
  mark '-'
  let day ← twoDigits 1 31
  oneOf ['T', 't', ' ']
  let hour ← twoDigits 0 23
  mark ':'
  let minute ← twoDigits 0 59
  mark ':'
  let second ← twoDigits 0 60
  let nanos ← fraction
  skipBlanks
  let ahead ← offset
  skipBlanks
  if second = 60 then return (⟨year, month, day, hour, minute, 59, nanos + nanosPerSecond⟩, ahead)
  else return (⟨year, month, day, hour, minute, second, nanos⟩, ahead)

/-- The moment that a text names. -/
def read (s : String) : Except TimeError Instant :=
  match localTime s.toList with
  | .error e => .error e
  | .ok ((t, ahead), rest) =>
    if !rest.isEmpty then .error .tooLong
    else if !isDate t.year t.month t.day then .error .outOfRange
    else if secondsPerDay ≤ ahead.natAbs then .error .outOfRange
    else match t.ofLocal? ahead with
      | none => .error .impossible
      | some moment => .ok moment

end Instant

end AlloyGrade
