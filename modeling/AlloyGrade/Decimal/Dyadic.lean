import AlloyGrade.Decimal.Shortest
import AlloyGrade.Text.Octets

/-! Binary numbers of fixed precision: reading them from text and writing them out, exactly rounded. A number is
`m · 2^e`; a half goes to the even neighbour. -/

namespace AlloyGrade

namespace Dyadic

/-- How many bits a number keeps, the exponent of the smallest unit, and the exponent from which on it is infinite. -/
structure Precision where
  bits : Nat
  lowest : Int
  highest : Int

def double : Precision := ⟨53, -1074, 1024⟩

def extended : Precision := ⟨64, -16445, 16384⟩

inductive Number where
  | finite (negative : Bool) (m : Nat) (e : Int)
  | infinite (negative : Bool)
  | nan (negative : Bool)
deriving DecidableEq, Repr

def Number.negative : Number → Bool
  | .finite n _ _ | .infinite n | .nan n => n

/-- The nearest whole number to a quotient. -/
def roundDiv (num den : Nat) : Nat :=
  let q := num / den
  let r := num % den
  if 2 * r < den || (2 * r = den && q % 2 = 0) then q else q + 1

/-- The exponent of the highest bit of a positive fraction. -/
def highBit (num den : Nat) : Int :=
  let guess : Int := (Nat.log2 num : Int) - Nat.log2 den
  let f := Decimal.Fraction.ofBinary 1 guess
  if num * f.den < f.num * den then guess - 1 else guess

/-- The number nearest to a fraction, and whether it is out of range. -/
def ofFraction (p : Precision) (negative : Bool) (num den : Nat) : Number × Bool :=
  if num = 0 then (.finite negative 0 0, false)
  else
    let high := highBit num den
    let e := max (high - p.bits + 1) p.lowest
    let num' := if e < 0 then num * Nat.pow 2 (-e).toNat else num
    let den' := if e < 0 then den else den * Nat.pow 2 e.toNat
    let m := roundDiv num' den'
    if m ≠ 0 && p.highest ≤ (Nat.log2 m : Int) + e then (.infinite negative, true)
    else (.finite negative m e, high < p.lowest + p.bits - 1 && num' % den' ≠ 0)

/-! ### Reading -/

def lower (cs : Octets) : Octets := cs.map Char.toLower

/-- Digits with a point among them, in a base: the digits' number, how many stand behind the point, how many there
are, and what follows. -/
def pointed (isDigit : Char → Bool) (value : Char → Nat) (base : Nat) (cs : Octets) : Nat × Nat × Nat × Octets :=
  let whole := cs.takeWhile isDigit
  let rest := cs.drop whole.length
  match rest with
  | '.' :: more =>
    let fraction := more.takeWhile isDigit
    if whole.isEmpty && fraction.isEmpty then (0, 0, 0, cs)
    else
      let n := (whole ++ fraction).foldl (fun n c => base * n + value c) 0
      (n, fraction.length, whole.length + fraction.length, more.drop fraction.length)
  | _ => (whole.foldl (fun n c => base * n + value c) 0, 0, whole.length, rest)

/-- An exponent behind its mark, if there is one. -/
def exponent (mark : Char) (cs : Octets) : Int × Octets :=
  match cs with
  | c :: rest =>
    if c.toLower ≠ mark then (0, cs)
    else
      let (negative, digits) := match rest with
        | '-' :: more => (true, more)
        | '+' :: more => (false, more)
        | _ => (false, rest)
      let ds := digits.takeWhile Char.isDigit
      if ds.isEmpty then (0, cs)
      else
        let n : Int := min (Octets.decimal ds) 100000
        (if negative then -n else n, digits.drop ds.length)
  | [] => (0, cs)

def hexValue (c : Char) : Nat := if c.isDigit then c.toNat - '0'.toNat else c.toLower.toNat - 'a'.toNat + 10

def isHexDigit (c : Char) : Bool := c.isDigit || ('a' ≤ c.toLower && c.toLower ≤ 'f')

/-- A number without sign at the start of a text. -/
def unsigned? (p : Precision) (negative : Bool) (cs : Octets) : Option (Number × Bool × Octets) :=
  let l := lower (cs.take 8)
  if "infinity".toList.isPrefixOf l then some (.infinite negative, false, cs.drop 8)
  else if "inf".toList.isPrefixOf l then some (.infinite negative, false, cs.drop 3)
  else if "nan".toList.isPrefixOf l then
    let rest := cs.drop 3
    let tagged := match rest with
      | '(' :: more =>
        match more.dropWhile isNameChar with
        | ')' :: after => some after
        | _ => none
      | _ => none
    some (.nan negative, false, tagged.getD rest)
  else
    let hex := if "0x".toList.isPrefixOf l then
        let (n, places, count, rest) := pointed isHexDigit hexValue 16 (cs.drop 2)
        if count = 0 then none
        else
          let (e, rest) := exponent 'p' rest
          let f := Decimal.Fraction.ofBinary n (e - 4 * places)
          let (x, out) := ofFraction p negative f.num f.den
          some (x, out, rest)
      else none
    match hex with
    | some found => some found
    | none =>
      let (n, places, count, rest) := pointed Char.isDigit (fun c => c.toNat - '0'.toNat) 10 cs
      if count = 0 then none
      else
        let (e, rest) := exponent 'e' rest
        let scale := e - places
        if n = 0 then some (.finite negative 0 0, false, rest)
        else if 20000 < scale + count then some (.infinite negative, true, rest)
        else if scale + count < -20000 then some (.finite negative 0 0, true, rest)
        else
          let f := Decimal.Fraction.ofDecimal n scale
          let (x, out) := ofFraction p negative f.num f.den
          some (x, out, rest)

/-- A number at the start of a text, perhaps behind blanks and a sign; whether it was out of range; and what follows. -/
def leading (p : Precision) (cs : Octets) : Option (Number × Bool × Octets) :=
  let cs := cs.dropWhile fun c => c = ' ' || (9 ≤ c.toNat && c.toNat ≤ 13)
  match cs with
  | '-' :: rest => unsigned? p true rest
  | '+' :: rest => unsigned? p false rest
  | _ => unsigned? p false cs

/-! ### Writing -/

def zeros (n : Nat) : Octets := List.replicate n '0'

/-- Decimal digits with at least `least` of them. -/
def digitsAtLeast (least n : Nat) : Octets :=
  let ds := Octets.ofNat n
  zeros (least - ds.length) ++ ds

/-- A fraction with so many digits behind the point; `keepsPoint` writes the point even if nothing follows. -/
def fixed (places : Nat) (keepsPoint : Bool) (f : Decimal.Fraction) : Octets :=
  let ds := digitsAtLeast (places + 1) (roundDiv (f.num * Nat.pow 10 places) f.den)
  let whole := ds.take (ds.length - places)
  whole ++ if places = 0 then (if keepsPoint then ['.'] else []) else '.' :: ds.drop (ds.length - places)

/-- The exponent of the leading decimal digit of a positive fraction: a guess from its highest bit, which is off by one
at most, put right. -/
def leadingExponent (f : Decimal.Fraction) : Int :=
  let guess := (highBit f.num f.den * 30103).fdiv 100000
  if Decimal.Fraction.le (.ofDecimal 1 (guess + 1)) f then guess + 1
  else if f.lt (.ofDecimal 1 guess) then guess - 1
  else guess

/-- The digits of a fraction, so many behind the first, and the exponent of the first. -/
def rounded (places : Nat) (f : Decimal.Fraction) : Octets × Int :=
  if f.num = 0 then (zeros (places + 1), 0)
  else
    let x := leadingExponent f
    let shift := (places : Int) - x
    let n := if 0 ≤ shift then roundDiv (f.num * Nat.pow 10 shift.toNat) f.den else roundDiv f.num (f.den * Nat.pow 10 (-shift).toNat)
    let ds := Octets.ofNat n
    if places + 1 < ds.length then (ds.take (places + 1), x + 1) else (ds, x)

def exponentText (mark : Char) (least : Nat) (x : Int) : Octets :=
  mark :: (if x < 0 then '-' else '+') :: digitsAtLeast least x.natAbs

def scientificOf (ds : Octets) (x : Int) (keepsPoint : Bool) : Octets :=
  let fraction := ds.drop 1
  ds.take 1 ++ (if fraction.isEmpty then (if keepsPoint then ['.'] else []) else '.' :: fraction) ++ exponentText 'e' 2 x

def scientific (places : Nat) (keepsPoint : Bool) (f : Decimal.Fraction) : Octets :=
  let (ds, x) := rounded places f
  scientificOf ds x keepsPoint

/-- Removes zeros at the end of the digits behind a point. -/
def withoutZeros (cs : Octets) : Octets :=
  if cs.contains '.' then
    let kept := (cs.reverse.dropWhile (· == '0'))
    (if kept.head? = some '.' then kept.drop 1 else kept).reverse
  else cs

/-- The shorter of both notations for a number of significant digits. -/
def general (digits : Nat) (keepsZeros : Bool) (f : Decimal.Fraction) : Octets :=
  let digits := max digits 1
  let (ds, x) := rounded (digits - 1) f
  if -4 ≤ x && x < digits then
    let t := fixed ((digits : Int) - 1 - x).toNat keepsZeros f
    if keepsZeros then t else withoutZeros t
  else
    let ds := if keepsZeros then ds else ds.take 1 ++ ((ds.drop 1).reverse.dropWhile (· == '0')).reverse
    scientificOf ds x keepsZeros

def hexDigits (n count : Nat) : Octets :=
  let ds := Nat.toDigits 16 n
  zeros (count - ds.length) ++ ds

/-- A number in base sixteen with an exponent of two. -/
def hexadecimal (p : Precision) (places : Option Nat) (keepsPoint : Bool) (m : Nat) (e : Int) : Octets :=
  let lead : Nat := if p.bits = 64 then 4 else 1
  let room := p.bits - lead
  let (m, e) : Nat × Int :=
    if m = 0 then (0, -(room : Int))
    else
      let up := min (p.bits - 1 - Nat.log2 m) (e - p.lowest).toNat
      (m * Nat.pow 2 up, e - up)
  let nibbles := (room + 3) / 4
  let m := m * Nat.pow 2 (4 * nibbles - room)
  let x := if m = 0 then 0 else e + room
  let (whole, fraction) : Nat × Octets :=
    match places with
    | none =>
      let ds := hexDigits (m % Nat.pow 2 (4 * nibbles)) nibbles
      (m / Nat.pow 2 (4 * nibbles), (ds.reverse.dropWhile (· == '0')).reverse)
    | some n =>
      if nibbles ≤ n then (m / Nat.pow 2 (4 * nibbles), hexDigits (m % Nat.pow 2 (4 * nibbles)) nibbles ++ zeros (n - nibbles))
      else
        let r := roundDiv m (Nat.pow 2 (4 * (nibbles - n)))
        (r / Nat.pow 2 (4 * n), if n = 0 then [] else hexDigits (r % Nat.pow 2 (4 * n)) n)
  "0x".toList ++ Nat.toDigits 16 whole ++
    (if fraction.isEmpty then (if keepsPoint then ['.'] else []) else '.' :: fraction) ++
    'p' :: (if x < 0 then '-' else '+') :: Octets.ofNat x.natAbs

/-- The text of a number's size, as a conversion letter asks for it. -/
def magnitude (p : Precision) (letter : Char) (places : Option Nat) (alternate : Bool) : Number → Octets
  | .infinite _ => "inf".toList
  | .nan _ => "nan".toList
  | .finite _ m e =>
    let f := Decimal.Fraction.ofBinary m e
    match letter with
    | 'f' => fixed (places.getD 6) alternate f
    | 'e' => scientific (places.getD 6) alternate f
    | 'g' => general (places.getD 6) alternate f
    | _ => hexadecimal p places alternate m e

end Dyadic

end AlloyGrade
