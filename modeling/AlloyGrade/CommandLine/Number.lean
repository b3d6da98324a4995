import AlloyGrade.Text.Bytes

/-! Whole numbers on the command line, with the reason why a text is none. -/

namespace AlloyGrade.CommandLine

inductive NumberFault where
  | empty
  | invalidDigit
  | tooLarge
  | tooSmall
  | outside (value : Int) (range : String)
deriving DecidableEq, Repr

namespace NumberFault

def message : NumberFault → String
  | .empty => "cannot parse integer from empty string"
  | .invalidDigit => "invalid digit found in string"
  | .tooLarge => "number too large to fit in target type"
  | .tooSmall => "number too small to fit in target type"
  | .outside value range => toString value ++ " is not in " ++ range

end NumberFault

namespace Number

def digit? (b : UInt8) : Option Nat :=
  if 0x30 ≤ b && b ≤ 0x39 then some (b.toNat - 0x30) else none

/-- Reads digits from the left up to the first fault, be it an octet that is no digit or a number beyond
the limit. -/
def digits (limit : Nat) (overflow : NumberFault) : Bytes → Nat → Except NumberFault Nat
  | [], n => .ok n
  | b :: rest, n =>
    match digit? b with
    | none => .error .invalidDigit
    | some d => if limit < 10 * n + d then .error overflow else digits limit overflow rest (10 * n + d)

def plus : UInt8 := 0x2b

def minus : UInt8 := 0x2d

/-- A number without a sign, or after a plus. -/
def natural (limit : Nat) (bytes : Bytes) : Except NumberFault Nat :=
  match bytes with
  | [] => .error .empty
  | first :: rest =>
    if first = plus && !rest.isEmpty then digits limit .tooLarge rest 0 else digits limit .tooLarge bytes 0

/-- A number of 63 bits and a sign. -/
def integer (bytes : Bytes) : Except NumberFault Int :=
  match bytes with
  | first :: rest =>
    if first = minus && !rest.isEmpty then (digits (Nat.pow 2 63) .tooSmall rest 0).map fun n => -(n : Int)
    else (natural (Nat.pow 2 63 - 1) bytes).map fun n => (n : Int)
  | [] => .error .empty

/-- The scope of the analysis, a number of 32 bits. -/
def scope (bytes : Bytes) : Except NumberFault UInt32 := do
  let n ← integer bytes
  if 0 ≤ n ∧ n < Int.pow 2 32 then return UInt32.ofNat n.toNat else throw (.outside n "0..=4294967295")

/-- A limit in seconds, a number of 64 bits that is not zero. -/
def seconds (bytes : Bytes) : Except NumberFault UInt64 := do
  let n ← natural (Nat.pow 2 64 - 1) bytes
  if n = 0 then throw (.outside 0 "1..18446744073709551615") else return UInt64.ofNat n

end Number

end AlloyGrade.CommandLine
