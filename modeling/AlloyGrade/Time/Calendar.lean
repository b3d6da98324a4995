import AlloyGrade.Text.Octets
import AlloyGrade.Time.Epoch

/-! Dates as people write them. A moment is a number of nanoseconds since the beginning of 1970, in UTC. -/

namespace AlloyGrade.Calendar

def nanosPerSecond : Int := 1000000000

def nanosPerDay : Int := 86400 * nanosPerSecond

/-- The days from the beginning of 1970 to the first day of a year. -/
def daysToYear (year : Int) : Int :=
  let y := year - 1
  365 * y + y.fdiv 4 - y.fdiv 100 + y.fdiv 400 - 719162

/-- The days from the beginning of a year to the first day of a month. -/
def daysToMonth (year : Int) (month : Nat) : Nat :=
  ((List.range (month - 1)).map fun m => Instant.daysInMonth year (m + 1)).foldl (· + ·) 0

/-- The days from the beginning of 1970 to a date; a month past the last counts into the next years, and a day past
the end of its month into the next months. -/
def dayNumber (year month day : Int) : Int :=
  let year := year + (month - 1).fdiv 12
  let month := ((month - 1).fmod 12).toNat + 1
  daysToYear year + daysToMonth year month + day - 1

def instant (moment : Int) : Instant :=
  Instant.ofEpoch (moment.fdiv nanosPerSecond) (moment.fmod nanosPerSecond).toNat

/-- The day of the week, from Sunday on. -/
def weekday (moment : Int) : Nat := ((moment.fdiv nanosPerDay + 4).fmod 7).toNat

/-- The day of the year, from 1 on. -/
def yearday (moment : Int) : Nat :=
  let t := instant moment
  daysToMonth t.year t.month + t.day

def weekdays : List String := ["Sunday", "Monday", "Tuesday", "Wednesday", "Thursday", "Friday", "Saturday"]

def months : List String :=
  ["January", "February", "March", "April", "May", "June", "July", "August", "September", "October", "November", "December"]

/-- The year and week to which a day belongs when weeks start on Monday and belong to the year that has most of them. -/
def week (moment : Int) : Int × Nat :=
  let t := instant moment
  let fromMonday := (weekday moment + 6) % 7
  let thursday := (yearday moment : Int) + 3 - fromMonday
  let length (year : Int) : Int := if Instant.isLeapYear year then 366 else 365
  if thursday < 1 then (t.year - 1, ((thursday + length (t.year - 1) - 1) / 7).toNat + 1)
  else if length t.year < thursday then (t.year + 1, 1)
  else (t.year, ((thursday - 1) / 7).toNat + 1)

/-! ### Writing -/

/-- How a part of a format is to be filled up and changed. -/
structure Style where
  /-- What it is filled up with, if not in its own way; `none` inside means not at all. -/
  fill : Option (Option Char)
  upper : Bool
  swapped : Bool
  width : Option Nat

def Style.own : Style := ⟨none, false, false, none⟩

/-- A number filled up to a width. -/
def Style.number (s : Style) (fill : Char) (width : Nat) (n : Int) : Octets :=
  let digits := Octets.ofNat n.natAbs
  let sign : Octets := if n < 0 then ['-'] else []
  match s.fill.getD (some fill) with
  | none => sign ++ digits
  | some c =>
    let missing := s.width.getD width - sign.length - digits.length
    if c = '0' then sign ++ List.replicate missing '0' ++ digits else List.replicate missing c ++ sign ++ digits

def Style.text (s : Style) (text : String) : Octets :=
  let cs := if s.upper then text.toList.map Char.toUpper
    else if s.swapped then (if text.all fun c => c.isUpper || !c.isAlpha then text.toList.map Char.toLower else text.toList.map Char.toUpper)
    else text.toList
  List.replicate (s.width.getD 0 - cs.length) (if s.fill = some (some '0') then '0' else ' ') ++ cs

def short (names : List String) (n : Nat) : String := ((names[n]?.getD "").take 3).toString

/-- What a letter of a format stands for, given how a format inside is written; `none` if it stands for nothing. -/
def part (inner : Octets → Octets) (moment : Int) (s : Style) (letter : Char) : Option Octets :=
  let t := instant moment
  let hour12 := if t.hour % 12 = 0 then 12 else t.hour % 12
  let all (text : String) : Option Octets := some (s.text (String.ofList (inner text.toList)))
  match letter with
  | '%' => some ['%']
  | 'n' => some ['\n']
  | 't' => some ['\t']
  | 'a' => some (s.text (short weekdays (weekday moment)))
  | 'A' => some (s.text (weekdays[weekday moment]?.getD ""))
  | 'b' | 'h' => some (s.text (short months (t.month - 1)))
  | 'B' => some (s.text (months[t.month - 1]?.getD ""))
  | 'c' => all "%a %b %e %H:%M:%S %Y"
  | 'C' => some (s.number '0' 2 (t.year.fdiv 100))
  | 'd' => some (s.number '0' 2 t.day)
  | 'D' | 'x' => all "%m/%d/%y"
  | 'e' => some (s.number ' ' 2 t.day)
  | 'F' => all "%Y-%m-%d"
  | 'g' => some (s.number '0' 2 ((week moment).1.fmod 100))
  | 'G' => some (s.number '0' 4 (week moment).1)
  | 'H' => some (s.number '0' 2 t.hour)
  | 'I' => some (s.number '0' 2 hour12)
  | 'j' => some (s.number '0' 3 (yearday moment))
  | 'k' => some (s.number ' ' 2 t.hour)
  | 'l' => some (s.number ' ' 2 hour12)
  | 'm' => some (s.number '0' 2 t.month)
  | 'M' => some (s.number '0' 2 t.minute)
  | 'N' =>
    let digits := Octets.ofNat t.nanos
    let nine := List.replicate (9 - digits.length) '0' ++ digits
    some (match s.width with
      | some w => if w = 0 then nine else nine.take w ++ List.replicate (w - 9) '0'
      | none => nine)
  | 'p' => some (if s.swapped then (if t.hour < 12 then "am".toList else "pm".toList) else s.text (if t.hour < 12 then "AM" else "PM"))
  | 'P' => some (s.text (if t.hour < 12 then "am" else "pm"))
  | 'q' => some (s.number '0' 1 ((t.month - 1) / 3 + 1))
  | 'r' => all "%I:%M:%S %p"
  | 'R' => all "%H:%M"
  | 's' => some (s.number '0' 1 (moment.fdiv nanosPerSecond))
  | 'S' => some (s.number '0' 2 t.second)
  | 'T' | 'X' => all "%H:%M:%S"
  | 'u' => some (s.number '0' 1 (if weekday moment = 0 then 7 else weekday moment))
  | 'U' => some (s.number '0' 2 ((yearday moment + 6 - weekday moment) / 7))
  | 'V' => some (s.number '0' 2 (week moment).2)
  | 'w' => some (s.number '0' 1 (weekday moment))
  | 'W' => some (s.number '0' 2 ((yearday moment + 6 - (weekday moment + 6) % 7) / 7))
  | 'y' => some (s.number '0' 2 (t.year.fmod 100))
  | 'Y' => some (s.number '0' (if 0 ≤ t.year then 4 else 5) t.year)
  | 'z' => some "+0000".toList
  | 'Z' => some (if s.swapped then "utc".toList else s.text "UTC")
  | _ => none

/-- The flags between the sign and the letter of a part. -/
def flags : Style → Octets → Style × Octets
  | s, '-' :: rest => flags { s with fill := some none } rest
  | s, '_' :: rest => flags { s with fill := some (some ' ') } rest
  | s, '0' :: rest => flags { s with fill := some (some '0') } rest
  | s, '+' :: rest => flags { s with fill := some (some '0') } rest
  | s, '^' :: rest => flags { s with upper := true } rest
  | s, '#' :: rest => flags { s with swapped := true } rest
  | s, rest => (s, rest)

/-- Writes a moment in a format. -/
def format : Nat → Octets → Int → Octets
  | 0, cs, _ => cs
  | _, [], _ => []
  | fuel + 1, '%' :: rest, moment =>
    let (style, more) := flags .own rest
    let digits := more.takeWhile Char.isDigit
    let more := more.drop digits.length
    let style := if digits.isEmpty then style else { style with width := Octets.decimal? digits }
    let colons := (more.takeWhile (· == ':')).length
    let more := more.drop colons
    let more := match more with
      | 'E' :: m | 'O' :: m => m
      | m => m
    match more with
    | [] => '%' :: rest
    | letter :: after =>
      if letter = 'z' && colons ≠ 0 then
        (if colons = 1 then "+00:00" else if colons = 2 then "+00:00:00" else "+00").toList ++ format fuel after moment
      else match if colons = 0 then part (fun text => format fuel text moment) moment style letter else none with
        | some text => text ++ format fuel after moment
        | none => '%' :: rest.take (rest.length - after.length) ++ format fuel after moment
  | fuel + 1, c :: rest, moment => c :: format fuel rest moment

/-! ### Reading -/

/-- What has been read of a date. -/
structure Given where
  date : Option (Int × Int × Int)
  /-- Nanoseconds since midnight. -/
  time : Option Int
  /-- Seconds by which the local time is ahead. -/
  zone : Option Int
  weekday : Option (Nat × Int)
  /-- A moment that stands by itself. -/
  moment : Option Int
  months : Int
  days : Int
  nanos : Int

def Given.nothing : Given := ⟨none, none, none, none, none, 0, 0, 0⟩

/-- The moment that is meant, seen from another. -/
def Given.resolve (g : Given) (now : Int) : Int :=
  match g.moment with
  | some m => m + g.days * nanosPerDay + g.nanos
  | none =>
    let t := instant now
    let (year, month, day) := g.date.getD (t.year, t.month, t.day)
    let time := match g.time with
      | some time => time
      | none => if g.date.isSome || g.weekday.isSome then 0 else now.fmod nanosPerDay
    let base := dayNumber year (month + g.months) day
    let ahead := match g.date, g.weekday with
      | some _, _ | none, none => 0
      | none, some (day, count) =>
        let gap := ((day : Int) - (base + 4)).fmod 7
        gap + 7 * (if 0 < count then count - (if gap = 0 then 0 else 1) else count)
    (base + ahead + g.days) * nanosPerDay + time + g.nanos - g.zone.getD 0 * nanosPerSecond

/-- Words, numbers and signs. -/
def tokens : Nat → Octets → List Octets
  | 0, _ => []
  | _, [] => []
  | fuel + 1, c :: rest =>
    if c = ' ' || c = '\t' || c = ',' || c = '\n' then tokens fuel rest
    else if c.isAlpha then
      let word := rest.takeWhile fun d => d.isAlpha || d = '.'
      ((c :: word).map Char.toLower) :: tokens fuel (rest.drop word.length)
    else if c.isDigit then
      let number := rest.takeWhile Char.isDigit
      (c :: number) :: tokens fuel (rest.drop number.length)
    else [c] :: tokens fuel rest

def number? (cs : Octets) : Option Int := (Octets.decimal? cs).map fun (n : Nat) => (n : Int)

def fullYear (cs : Octets) (n : Int) : Int := if cs.length ≤ 2 then (if n < 69 then n + 2000 else n + 1900) else n

/-- The place of a name that is given by its first letters, at least three. -/
def place? (names : List String) (word : Octets) : Option Nat :=
  let word := (word.reverse.dropWhile (· == '.')).reverse
  names.findIdx? fun n =>
    let name := n.toList.map Char.toLower
    word == name || (word == name.take 3) || (n = "September" && word == "sept".toList) || (n = "Tuesday" && word == "tues".toList) ||
      (n = "Thursday" && (word == "thur".toList || word == "thurs".toList)) || (n = "Wednesday" && word == "wednes".toList)

/-- How far a unit of time goes: months, days and nanoseconds. -/
def unit? (word : Octets) : Option (Int × Int × Int) :=
  let word := if word.getLast? = some 's' && 3 < word.length then word.dropLast else word
  match String.ofList word with
  | "year" => some (12, 0, 0)
  | "month" => some (1, 0, 0)
  | "fortnight" => some (0, 14, 0)
  | "week" => some (0, 7, 0)
  | "day" => some (0, 1, 0)
  | "hour" => some (0, 0, 3600 * nanosPerSecond)
  | "minute" | "min" => some (0, 0, 60 * nanosPerSecond)
  | "second" | "sec" => some (0, 0, nanosPerSecond)
  | _ => none

def ordinal? (word : Octets) : Option Int :=
  match String.ofList word with
  | "last" => some (-1)
  | "this" => some 0
  | "next" => some 1
  | _ => none

def Given.later (g : Given) (count : Int) (unit : Int × Int × Int) : Given :=
  { g with months := g.months + count * unit.1, days := g.days + count * unit.2.1, nanos := g.nanos + count * unit.2.2 }

/-- Digits of a fraction as nanoseconds. -/
def fraction (digits : Octets) : Int :=
  let nine := (digits ++ List.replicate 9 '0').take 9
  (number? nine).getD 0

/-- The time of a day behind its hour, and what follows. -/
def clock? (hour : Octets) : List Octets → Option (Int × List Octets)
  | [':'] :: minute :: rest => do
    let h ← number? hour
    let m ← number? minute
    let (s, f, rest) ← match rest with
      | [':'] :: second :: ['.'] :: digits :: more => (number? second).map fun s => (s, fraction digits, more)
      | [':'] :: second :: more => (number? second).map fun s => (s, 0, more)
      | _ => some (0, 0, rest)
    let (h, rest) ← match rest with
      | word :: more =>
        if word == "am".toList || word == "a.m.".toList then
          if 1 ≤ h && h ≤ 12 then some (h % 12, more) else none
        else if word == "pm".toList || word == "p.m.".toList then
          if 1 ≤ h && h ≤ 12 then some (h % 12 + 12, more) else none
        else some (h, rest)
      | [] => some (h, rest)
    if h < 24 && m < 60 && s ≤ 60 then some ((h * 3600 + m * 60 + s) * nanosPerSecond + f, rest) else none
  | _ => none

/-- A difference from UTC behind its sign, in seconds. -/
def zoneOffset? : List Octets → Option (Int × List Octets)
  | hours :: [':'] :: minutes :: rest => do return ((← number? hours) * 3600 + (← number? minutes) * 60, rest)
  | digits :: rest => do
    let n ← number? digits
    return (if digits.length ≤ 2 then n * 3600 else n / 100 * 3600 + n % 100 * 60, rest)
  | [] => none

def isDate (year month day : Int) : Bool :=
  1 ≤ month && month ≤ 12 && 1 ≤ day && day ≤ Instant.daysInMonth year month.toNat

def Given.onDate (g : Given) (year month day : Int) : Option Given :=
  if g.date.isNone && isDate year month day then some { g with date := some (year, month, day) } else none

/-- Reads tokens one after another. -/
def read? (thisYear : Int) : Nat → Given → List Octets → Option Given
  | 0, _, _ => none
  | _, g, [] => some g
  | fuel + 1, g, first :: rest =>
    let isNumber := (first.head?.map Char.isDigit).getD false
    if first == ['@'] then
      let (negative, rest) := match rest with
        | ['-'] :: more => (true, more)
        | _ => (false, rest)
      match rest with
      | seconds :: ['.'] :: digits :: more => do
        let n := (← number? seconds) * nanosPerSecond + fraction digits
        read? thisYear fuel { g with moment := some (if negative then -n else n) } more
      | seconds :: more => do
        let n := (← number? seconds) * nanosPerSecond
        read? thisYear fuel { g with moment := some (if negative then -n else n) } more
      | [] => none
    else if isNumber then
      match clock? first rest with
      | some (time, more) => if g.time.isSome then none else read? thisYear fuel { g with time := some time } more
      | none =>
        match rest with
        | ['-'] :: month :: ['-'] :: day :: more =>
          match number? first, number? month, number? day with
          | some y, some m, some d => do
            let g ← g.onDate (fullYear first y) m d
            match more with
            | ['t'] :: after => read? thisYear fuel g after
            | _ => read? thisYear fuel g more
          | some d, none, some y => do
            let m ← place? months month
            read? thisYear fuel (← g.onDate (fullYear day y) (m + 1) d) more
          | _, _, _ => none
        | ['/'] :: day :: ['/'] :: year :: more => do
          let a ← number? first
          let b ← number? day
          let c ← number? year
          let g ← if 4 ≤ first.length then g.onDate a b c else g.onDate (fullYear year c) a b
          read? thisYear fuel g more
        | ['/'] :: day :: more => do read? thisYear fuel (← g.onDate thisYear (← number? first) (← number? day)) more
        | word :: more =>
          match place? months word with
          | some m =>
            let (year, more) := match more with
              | y :: [':'] :: after => (thisYear, y :: [':'] :: after)
              | y :: after =>
                match number? y with
                | some n => (fullYear y n, after)
                | none => (thisYear, more)
              | [] => (thisYear, [])
            do read? thisYear fuel (← g.onDate year (m + 1) (← number? first)) more
          | none =>
            match unit? word with
            | some unit =>
              let (sign, more) : Int × List Octets := match more with
                | w :: after => if w == "ago".toList then (-1, after) else (1, more)
                | [] => (1, [])
              do read? thisYear fuel (g.later (sign * (← number? first)) unit) more
            | none =>
              if first.length = 8 then do
                let n ← number? first
                read? thisYear fuel (← g.onDate (n / 10000) (n / 100 % 100) (n % 100)) rest
              else none
        | [] =>
          if first.length = 8 then do
            let n ← number? first
            g.onDate (n / 10000) (n / 100 % 100) (n % 100)
          else none
    else if first == ['+'] || first == ['-'] then
      let sign : Int := if first == ['-'] then -1 else 1
      match rest with
      | n :: word :: more =>
        match number? n, unit? word with
        | some n, some unit =>
          let (back, more) : Int × List Octets := match more with
            | w :: after => if w == "ago".toList then (-1, after) else (1, more)
            | [] => (1, [])
          read? thisYear fuel (g.later (sign * back * n) unit) more
        | _, _ =>
          if g.time.isSome && g.zone.isNone then do
            let (offset, more) ← zoneOffset? rest
            read? thisYear fuel { g with zone := some (sign * offset) } more
          else none
      | _ =>
        if g.time.isSome && g.zone.isNone then do
          let (offset, more) ← zoneOffset? rest
          read? thisYear fuel { g with zone := some (sign * offset) } more
        else none
    else
      match String.ofList first with
      | "now" | "today" => read? thisYear fuel g rest
      | "yesterday" => read? thisYear fuel (g.later (-1) (0, 1, 0)) rest
      | "tomorrow" => read? thisYear fuel (g.later 1 (0, 1, 0)) rest
      | "midnight" => read? thisYear fuel { g with time := some 0 } rest
      | "noon" => read? thisYear fuel { g with time := some (nanosPerDay / 2) } rest
      | "z" | "utc" | "gmt" | "ut" => read? thisYear fuel { g with zone := some 0 } rest
      | "t" => read? thisYear fuel g rest
      | _ =>
        match ordinal? first, rest with
        | some count, word :: more =>
          match unit? word, place? weekdays word with
          | some unit, _ => read? thisYear fuel (g.later count unit) more
          | none, some day => read? thisYear fuel { g with weekday := some (day, count) } more
          | none, none => none
        | _, _ =>
          match place? weekdays first, place? months first, unit? first with
          | some day, _, _ => read? thisYear fuel { g with weekday := some (day, 0) } rest
          | none, some m, _ =>
            match rest with
            | day :: more =>
              let (year, more) := match more with
                | y :: [':'] :: after => (thisYear, y :: [':'] :: after)
                | y :: after =>
                  match number? y with
                  | some n => (fullYear y n, after)
                  | none => (thisYear, more)
                | [] => (thisYear, [])
              do read? thisYear fuel (← g.onDate year (m + 1) (← number? day)) more
            | [] => none
          | none, none, some unit =>
            match rest with
            | w :: more =>
              if w == "ago".toList then read? thisYear fuel (g.later (-1) unit) more else read? thisYear fuel (g.later 1 unit) rest
            | [] => some (g.later 1 unit)
          | _, _, _ => none

/-- The moment that a text means, seen from another. -/
def moment? (now : Int) (text : Octets) : Option Int :=
  let ts := tokens (text.length + 1) text
  if ts.isEmpty then some (now - now.fmod nanosPerDay)
  else (read? (instant now).year (ts.length + 1) .nothing ts).map (·.resolve now)

/-- The moment that digits mean: month, day, hour and minute, perhaps behind a year, and seconds behind a point. -/
def stamp? (now : Int) (text : Octets) : Option Int := do
  let digits := text.takeWhile Char.isDigit
  let seconds ← match text.drop digits.length with
    | [] => some 0
    | '.' :: s => if s.length = 2 then number? s else none
    | _ => none
  let pair (i : Nat) : Int := (number? ((digits.drop i).take 2)).getD 0
  let (year, i) ← match digits.length with
    | 8 => some ((instant now).year, 0)
    | 10 => some (if pair 0 < 69 then 2000 + pair 0 else 1900 + pair 0, 2)
    | 12 => some (pair 0 * 100 + pair 2, 4)
    | _ => none
  let (month, day, hour, minute) := (pair i, pair (i + 2), pair (i + 4), pair (i + 6))
  if isDate year month day && hour < 24 && minute < 60 && seconds ≤ 60 then
    some (dayNumber year month day * nanosPerDay + (hour * 3600 + minute * 60 + seconds) * nanosPerSecond)
  else none

end AlloyGrade.Calendar
