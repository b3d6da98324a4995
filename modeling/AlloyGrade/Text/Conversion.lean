import AlloyGrade.Decimal.Dyadic

/-! Conversions of a format: how a number or a text is brought to a width, a precision and a notation. -/

namespace AlloyGrade

structure Conversion where
  left : Bool
  plus : Bool
  blank : Bool
  alternate : Bool
  zero : Bool
  width : Nat
  precision : Option Nat
deriving DecidableEq, Repr

namespace Conversion

def plain : Conversion := ⟨false, false, false, false, false, 0, none⟩

/-- Sets the flag that a character names. -/
def withFlag (d : Conversion) : Char → Conversion
  | '-' => { d with left := true }
  | '+' => { d with plus := true }
  | ' ' => { d with blank := true }
  | '#' => { d with alternate := true }
  | '0' => { d with zero := true }
  | _ => d

/-- A negative width asks for the left side. -/
def withWidth (d : Conversion) (n : Int) : Conversion :=
  if n < 0 then { d with left := true, width := n.natAbs } else { d with width := n.toNat }

/-- A negative precision counts as none. -/
def withPrecision (d : Conversion) (n : Int) : Conversion :=
  { d with precision := if n < 0 then none else some n.toNat }

/-- Brings a text to the width. -/
def pad (d : Conversion) (cs : Octets) : Octets :=
  let fill := List.replicate (d.width - cs.length) ' '
  if d.left then cs ++ fill else fill ++ cs

/-- Brings a number to the width: zeros go between its sign and its digits. -/
def padNumber (d : Conversion) (zeros : Bool) (sign digits : Octets) : Octets :=
  if zeros && d.zero && !d.left then
    sign ++ List.replicate (d.width - sign.length - digits.length) '0' ++ digits
  else d.pad (sign ++ digits)

def text (d : Conversion) (cs : Octets) : Octets :=
  d.pad (match d.precision with
    | some n => cs.take n
    | none => cs)

/-- The sign in front of a number. -/
def sign (d : Conversion) (negative : Bool) : Octets :=
  if negative then ['-'] else if d.plus then ['+'] else if d.blank then [' '] else []

/-- The digits of a number, at least as many as the precision asks for. -/
def digits (d : Conversion) (base n : Nat) : Octets :=
  let ds := if n = 0 && d.precision = some 0 then [] else Nat.toDigits base n
  List.replicate (d.precision.getD 0 - ds.length) '0' ++ ds

def signed (d : Conversion) (n : Int) : Octets :=
  d.padNumber d.precision.isNone (d.sign (n < 0)) (d.digits 10 n.natAbs)

/-- A number without sign in the notation of a letter. -/
def unsigned (d : Conversion) (letter : Char) (n : Nat) : Octets :=
  match letter with
  | 'o' =>
    let ds := d.digits 8 n
    d.padNumber d.precision.isNone [] (if d.alternate && ds.head? ≠ some '0' then '0' :: ds else ds)
  | 'x' => d.padNumber d.precision.isNone (if d.alternate && n ≠ 0 then "0x".toList else []) (d.digits 16 n)
  | 'X' =>
    d.padNumber d.precision.isNone (if d.alternate && n ≠ 0 then "0X".toList else []) ((d.digits 16 n).map Char.toUpper)
  | _ => d.padNumber d.precision.isNone [] (d.digits 10 n)

/-- A binary number in the notation of a letter. -/
def float (d : Conversion) (p : Dyadic.Precision) (letter : Char) (x : Dyadic.Number) : Octets :=
  let size := Dyadic.magnitude p letter.toLower d.precision d.alternate x
  let size := if letter.isUpper then size.map Char.toUpper else size
  let finite := match x with
    | .finite .. => true
    | _ => false
  let (mark, size) := if letter.toLower = 'a' && finite then (size.take 2, size.drop 2) else ([], size)
  d.padNumber finite (d.sign x.negative ++ mark) size

end Conversion

end AlloyGrade
