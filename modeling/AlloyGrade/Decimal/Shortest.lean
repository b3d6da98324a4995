/-! The shortest decimal that reads back as a given double. A double is `m · 2 ^ q`; the reals that round
to it form an interval, which holds its ends if `m` is even. For 1, 2, … 17 digits the two neighbours of
the value on that decimal grid are tried, and the first grid with a hit wins. -/

namespace AlloyGrade.Decimal

/-- `digits · 10 ^ (exponent + 1 - length of digits)`: the exponent is that of the leading digit. -/
structure Shortest where
  digits : Nat
  exponent : Int
deriving DecidableEq, Repr

/-- A positive fraction. -/
structure Fraction where
  num : Nat
  den : Nat

namespace Fraction

/-- `n · 2 ^ q`. -/
def ofBinary (n : Nat) (q : Int) : Fraction :=
  if 0 ≤ q then ⟨n * Nat.pow 2 q.toNat, 1⟩ else ⟨n, Nat.pow 2 (-q).toNat⟩

/-- `n · 10 ^ e`. -/
def ofDecimal (n : Nat) (e : Int) : Fraction :=
  if 0 ≤ e then ⟨n * Nat.pow 10 e.toNat, 1⟩ else ⟨n, Nat.pow 10 (-e).toNat⟩

def le (a b : Fraction) : Bool := a.num * b.den ≤ b.num * a.den

def lt (a b : Fraction) : Bool := a.num * b.den < b.num * a.den

/-- The largest whole number of steps `10 ^ e` that does not pass the fraction. -/
def floorAt (a : Fraction) (e : Int) : Nat :=
  if 0 ≤ e then a.num / (a.den * Nat.pow 10 e.toNat) else a.num * Nat.pow 10 (-e).toNat / a.den

/-- The exponent of the leading decimal digit, for fractions between 10⁻⁴⁰⁰ and 10⁴⁰⁰. -/
def leadingExponent (a : Fraction) : Int :=
  match (List.range 800).find? fun (k : Nat) => a.floorAt (400 - (k : Int)) != 0 with
  | some k => 400 - (k : Int)
  | none => -400

end Fraction

/-- The significand `m` and exponent `q` of a positive finite double, from its bits. -/
def significand (bits : UInt64) : Nat × Int :=
  let fraction : Nat := bits.toNat % Nat.pow 2 52
  let exponent : Nat := bits.toNat / Nat.pow 2 52 % Nat.pow 2 11
  if exponent = 0 then (fraction, -1074) else (fraction + Nat.pow 2 52, (exponent : Int) - 1075)

/-- A value with the ends of its rounding interval. -/
structure Interval where
  low : Fraction
  value : Fraction
  high : Fraction
  closed : Bool

/-- The interval of a double. Below a power of two the neighbour is half as far away. -/
def interval (bits : UInt64) : Interval :=
  let (m, q) := significand bits
  let below := if m = Nat.pow 2 52 ∧ -1074 < q then 4 * m - 1 else 4 * m - 2
  ⟨.ofBinary below (q - 2), .ofBinary (4 * m) (q - 2), .ofBinary (4 * m + 2) (q - 2), m % 2 == 0⟩

def Interval.holds (i : Interval) (x : Fraction) : Bool :=
  if i.closed then i.low.le x && x.le i.high else i.low.lt x && x.lt i.high

/-- The better of the value's two neighbours among the multiples of `10 ^ e`, if one rounds back. -/
def neighbour? (i : Interval) (e : Int) : Option Nat :=
  let down := i.value.floorAt e
  let lower := Fraction.ofDecimal down e
  let upper := Fraction.ofDecimal (down + 1) e
  let middle := Fraction.ofDecimal (20 * down + 10) (e - 1)
  let twice : Fraction := ⟨2 * i.value.num, i.value.den⟩
  let preferLower := twice.lt middle || (twice.le middle && down % 2 == 0)
  if i.holds lower && (preferLower || !i.holds upper) then some down
  else if i.holds upper then some (down + 1)
  else none

/-- Digits without trailing zeros. -/
def trimZeros : Nat → Nat → Nat
  | 0, n => n
  | fuel + 1, n => if n ≠ 0 ∧ n % 10 = 0 then trimZeros fuel (n / 10) else n

def digitCount (n : Nat) : Nat := (Nat.toDigits 10 n).length

/-- The shortest decimal of a positive finite double. -/
def ofBits (bits : UInt64) : Shortest :=
  let i := interval bits
  let top := i.value.leadingExponent
  match (List.range 17).findSome? fun (n : Nat) => (neighbour? i (top - (n : Int))).map (·, top - (n : Int)) with
  | some (found, e) => ⟨trimZeros 20 found, e + digitCount found - 1⟩
  | none => ⟨i.value.floorAt (top - 16), top⟩

/-- The exponents that are written positionally. -/
structure Layout where
  lowest : Int
  highest : Int

def Layout.positional (s : Shortest) : List Char :=
  let ds := Nat.toDigits 10 s.digits
  if s.exponent < 0 then ['0', '.'] ++ List.replicate (-s.exponent - 1).toNat '0' ++ ds
  else
    let whole := s.exponent.toNat + 1
    if ds.length ≤ whole then ds ++ List.replicate (whole - ds.length) '0' ++ ['.', '0']
    else ds.take whole ++ ['.'] ++ ds.drop whole

def Layout.scientific (s : Shortest) : List Char :=
  let ds := Nat.toDigits 10 s.digits
  let tail := if ds.length ≤ 1 then [] else '.' :: ds.drop 1
  ds.take 1 ++ tail ++ ['e', if s.exponent < 0 then '-' else '+'] ++ Nat.toDigits 10 s.exponent.natAbs

/-- A finite double in the given layout; a zero keeps its sign. -/
def Layout.render (layout : Layout) (x : Float) : String :=
  let bits := x.toBits
  let sign := if bits.toNat / Nat.pow 2 63 = 1 then ['-'] else []
  let magnitude := UInt64.ofNat (bits.toNat % Nat.pow 2 63)
  let body :=
    if magnitude = 0 then ['0', '.', '0']
    else
      let s := ofBits magnitude
      if layout.lowest ≤ s.exponent ∧ s.exponent ≤ layout.highest then positional s else scientific s
  String.ofList (sign ++ body)

end AlloyGrade.Decimal
