import AlloyGrade.Decimal.Dyadic
import AlloyGrade.Text.Conversion
import AlloyGrade.Utility.Cat
import AlloyGrade.Utility.Input

/-! The utilities that write numbers: sequences, octets in some base, and prime factors. -/

namespace AlloyGrade.Utility

open Process Tool

/-! ### Sequences -/

/-- A decimal number: its digits, and how many of them stand behind the point. -/
structure Decimal10 where
  value : Int
  places : Nat

/-- Reads a decimal number, perhaps with an exponent. -/
def decimal10? (text : Octets) : Option Decimal10 :=
  let (negative, body) := match text with
    | '-' :: rest => (true, rest)
    | '+' :: rest => (false, rest)
    | _ => (false, text)
  let whole := body.takeWhile Char.isDigit
  let rest := body.drop whole.length
  let (fraction, rest) := match rest with
    | '.' :: more =>
      let ds := more.takeWhile Char.isDigit
      (ds, more.drop ds.length)
    | _ => ([], rest)
  let exponent? : Option Int := match rest with
    | [] => some 0
    | e :: more =>
      if e = 'e' || e = 'E' then
        match more with
        | '-' :: ds => (Octets.decimal? ds).map fun n => -(n : Int)
        | '+' :: ds => (Octets.decimal? ds).map fun n => (n : Int)
        | ds => (Octets.decimal? ds).map fun n => (n : Int)
      else none
  if whole.isEmpty && fraction.isEmpty then none
  else exponent?.map fun e =>
    let digits : Int := Octets.decimal (whole ++ fraction)
    let signed := if negative then -digits else digits
    let places : Int := fraction.length - e
    if places < 0 then ⟨signed * Int.pow 10 (-places).toNat, 0⟩ else ⟨signed, places.toNat⟩

def Decimal10.scaled (d : Decimal10) (places : Nat) : Int := d.value * Int.pow 10 (places - d.places)

/-- A number with so many digits behind the point. -/
def decimalText (places : Nat) (n : Int) : Octets :=
  let digits := Octets.ofNat n.natAbs
  let digits := List.replicate (places + 1 - digits.length) '0' ++ digits
  let whole := digits.take (digits.length - places)
  (if n < 0 then ['-'] else []) ++ whole ++ if places = 0 then [] else '.' :: digits.drop (digits.length - places)

/-- Brings a number with its sign to a width by zeros. -/
def zeroFilled (width : Nat) (text : Octets) : Octets :=
  let (sign, digits) := match text with
    | '-' :: ds => (['-'], ds)
    | ds => (([] : Octets), ds)
  sign ++ List.replicate (width - sign.length - digits.length) '0' ++ digits

/-- A format for numbers: what stands around the one conversion. -/
structure NumberFormat where
  before : Octets
  conversion : Conversion
  letter : Char
  after : Octets

/-- Takes a format apart at its conversion. -/
def numberFormat (format : Octets) : Tool NumberFormat := do
  let literal (cs : Octets) : Octets := (String.ofList cs |>.replace "%%" "%").toList
  let plain := format.zipIdx.find? fun (c, i) => c = '%' && format[i + 1]? ≠ some '%' && (i = 0 || format[i - 1]? ≠ some '%')
  match plain with
  | none => fail 1 ("format ".toList ++ textQuoted format ++ " has no % directive".toList)
  | some (_, i) =>
    let rest := format.drop (i + 1)
    let flags := rest.takeWhile (['-', '+', '#', '0', ' ', '\''].contains ·)
    let d := flags.foldl Conversion.withFlag .plain
    let rest := rest.drop flags.length
    let width := rest.takeWhile Char.isDigit
    let d := if width.isEmpty then d else d.withWidth (Octets.decimal width)
    let rest := rest.drop width.length
    let (d, rest) := match rest with
      | '.' :: more =>
        let ds := more.takeWhile Char.isDigit
        (d.withPrecision (Octets.decimal ds), more.drop ds.length)
      | _ => (d, rest)
    match rest with
    | [] => fail 1 ("format ".toList ++ textQuoted format ++ " ends in %".toList)
    | letter :: after =>
      if !(['a', 'A', 'e', 'E', 'f', 'F', 'g', 'G'].contains letter) then
        fail 1 ("format ".toList ++ textQuoted format ++ " has unknown %".toList ++ [letter] ++ " directive".toList)
      return ⟨literal (format.take i), d, letter, literal after⟩

def seqOptions : Options :=
  { Options.of "w" "sf" [("separator", 's'), ("format", 'f'), ("equal-width", 'w')] with inOrder := true }

/-- Writes numbers one after the other with a separator between them. -/
def putSequence (shown : Int → Octets) (separator : Octets) (last step : Int) : Nat → Int → Bool → Tool Unit
  | 0, _, _ => return ()
  | fuel + 1, n, first => do
    if (0 < step && last < n) || (step < 0 && n < last) then
      unless first do put ['\n']
    else
      put ((if first then [] else separator) ++ shown n)
      if (← get).lost.isSome then finish
      putSequence shown separator last step fuel (n + step) false

def seq : Body := fun args => do
  -- A negative number is no option.
  let isNumber (a : Octets) : Bool := match a with
    | '-' :: c :: _ => c.isDigit || c = '.'
    | _ => false
  let optionPart := args.takeWhile (!isNumber ·)
  let (opts, more) ← seqOptions.find optionPart
  let operands := more ++ args.drop optionPart.length
  let read (text : Octets) : Tool Decimal10 := match decimal10? text with
    | some d => pure d
    | none => misuse 1 ("invalid floating point argument: ".toList ++ textQuoted text)
  let one : Decimal10 := ⟨1, 0⟩
  let (first, step, last) ← match operands with
    | [] => misuse 1 "missing operand".toList
    | [a] => do pure (one, one, ← read a)
    | [a, b] => do pure (← read a, one, ← read b)
    | [a, b, c] => do pure (← read a, ← read b, ← read c)
    | _ :: _ :: _ :: extra :: _ => misuse 1 ("extra operand ".toList ++ textQuoted extra)
  if step.value = 0 then misuse 1 ("invalid Zero increment value: ".toList ++ textQuoted ((operands[1]?).getD []))
  let places := max first.places step.places
  let scale := max places last.places
  let start := first.scaled scale
  let stride := step.scaled scale
  let stop := last.scaled scale
  let text (n : Int) : Octets := decimalText places (n / Int.pow 10 (scale - places))
  let shown : Int → Octets ← match Options.last? opts 'f' with
    | some format => do
      let f ← numberFormat format
      pure fun n =>
        let x := match Dyadic.leading Dyadic.extended (text n) with
          | some (x, _, _) => x
          | none => .finite false 0 0
        f.before ++ f.conversion.float Dyadic.extended f.letter x ++ f.after
    | none => do
      if Options.has opts 'w' then
        let count := if stride = 0 then 0 else ((stop - start) / stride).toNat
        let final := start + stride * count
        let width := max (text start).length (text final).length
        pure fun n => zeroFilled width (text n)
      else pure text
  putSequence shown ((Options.last? opts 's').getD ['\n']) stop stride patience start true

/-! ### Octets in a base -/

/-- How a group of octets is written. -/
structure Cell where
  letter : Char
  size : Nat
  /-- The text follows at the end of the line. -/
  trailer : Bool

namespace Cell

/-- The width of a cell without the blank in front of it. -/
def width (c : Cell) : Nat :=
  match c.letter, c.size with
  | 'a', _ | 'c', _ => 3
  | 'x', n => 2 * n
  | 'o', 1 => 3
  | 'o', 2 => 6
  | 'o', 4 => 11
  | 'o', _ => 22
  | 'u', 1 => 3
  | 'u', 2 => 5
  | 'u', 4 => 10
  | 'u', _ => 20
  | 'd', 1 => 4
  | 'd', 2 => 6
  | 'd', 4 => 11
  | _, _ => 20

def charText (c : Char) : Octets :=
  match c with
  | '\x00' => ['\\', '0']
  | '\x07' => ['\\', 'a']
  | '\x08' => ['\\', 'b']
  | '\x0c' => ['\\', 'f']
  | '\n' => ['\\', 'n']
  | '\r' => ['\\', 'r']
  | '\t' => ['\\', 't']
  | '\x0b' => ['\\', 'v']
  | c =>
    if isPrintable c then [c]
    else
      let ds := Nat.toDigits 8 c.toNat
      List.replicate (3 - ds.length) '0' ++ ds

def controlNames : List String :=
  ["nul", "soh", "stx", "etx", "eot", "enq", "ack", "bel", "bs", "ht", "nl", "vt", "ff", "cr", "so", "si", "dle", "dc1", "dc2",
    "dc3", "dc4", "nak", "syn", "etb", "can", "em", "sub", "esc", "fs", "gs", "rs", "us", "sp"]

def nameText (c : Char) : Octets :=
  let n := c.toNat % 128
  if n = 127 then "del".toList else ((controlNames[n]?).map String.toList).getD [Char.ofNat n]

/-- The text of one group; missing octets count as zero. -/
def text (c : Cell) (group : Octets) : Octets :=
  let n := group.zipIdx.foldl (fun n (x, i) => n + x.toNat * Nat.pow 256 i) 0
  let zeros (base : Nat) : Octets :=
    let ds := Nat.toDigits base n
    List.replicate (c.width - ds.length) '0' ++ ds
  match c.letter with
  | 'a' => nameText (group.headD '\x00')
  | 'c' => charText (group.headD '\x00')
  | 'x' => zeros 16
  | 'o' => zeros 8
  | 'u' => Octets.ofNat n
  | _ => Octets.ofInt (if 2 * n < Nat.pow 256 c.size then n else (n : Int) - Nat.pow 256 c.size)

end Cell

/-- Cuts a list into groups of a size. -/
def groupsOf (size : Nat) : Nat → Octets → List Octets
  | 0, _ => []
  | fuel + 1, cs => if cs.isEmpty then [] else cs.take size :: groupsOf size fuel (cs.drop size)

def leftPadded (width : Nat) (text : Octets) : Octets := List.replicate (width - text.length) ' ' ++ text

/-- Cells with the blanks in front of them: what is left over of the width of a full line is spread over its `fields`. -/
def spread (width pad fields : Nat) : Nat → List Octets → Octets
  | _, [] => []
  | used, text :: rest =>
    let before := pad * (fields - used) / fields
    let after := pad * (fields - used - 1) / fields
    leftPadded (before - after + width) text ++ spread width pad fields (used + 1) rest

/-- One line of octets in the manner of a cell, when full lines are so wide. -/
def cellLine (c : Cell) (lineSize lineWidth : Nat) (line : Octets) : Octets :=
  let cells := groupsOf c.size (line.length + 1) line
  let fields := lineSize / c.size
  let pad := lineWidth - fields * c.width
  let body := spread c.width pad fields 0 (cells.map c.text)
  if c.trailer then
    let blank := fields - cells.length
    let missing := blank * c.width + pad * blank / fields
    body ++ List.replicate missing ' ' ++ "  >".toList ++ line.map (fun c => if isPrintable c then c else '.') ++ ['<']
  else body

/-- The cells that a type asks for. -/
def cells? : Nat → Octets → Option (List Cell)
  | 0, _ => none
  | _, [] => some []
  | fuel + 1, letter :: rest =>
    if !(['a', 'c', 'd', 'o', 'u', 'x'].contains letter) then none
    else
      let named : Octets → Option (Nat × Octets) := fun cs => match cs with
        | 'C' :: r => some (1, r)
        | 'S' :: r => some (2, r)
        | 'I' :: r => some (4, r)
        | 'L' :: r => some (8, r)
        | _ => none
      let (size, rest) := if letter = 'a' || letter = 'c' then (1, rest) else match named rest with
        | some found => found
        | none =>
          let ds := rest.takeWhile Char.isDigit
          (if ds.isEmpty then 4 else Octets.decimal ds, rest.drop ds.length)
      if !([1, 2, 4, 8].contains size) then none
      else
        let trailer := rest.head? = some 'z'
        (cells? fuel (if trailer then rest.drop 1 else rest)).map (⟨letter, size, trailer⟩ :: ·)

def odOptions : Options :=
  .of "abcdfFhHiIlLoOsvxXBDe" "AjNtwSC" [("address-radix", 'A'), ("skip-bytes", 'j'), ("read-bytes", 'N'), ("format", 't'), ("output-duplicates", 'v'),
    ("width", 'w')]

/-- The cells behind the short options. -/
def shortCell? : Char → Option Cell
  | 'a' => some ⟨'a', 1, false⟩
  | 'b' => some ⟨'o', 1, false⟩
  | 'c' => some ⟨'c', 1, false⟩
  | 'd' => some ⟨'u', 2, false⟩
  | 'i' => some ⟨'d', 4, false⟩
  | 'l' => some ⟨'d', 8, false⟩
  | 'o' => some ⟨'o', 2, false⟩
  | 's' => some ⟨'d', 2, false⟩
  | 'x' => some ⟨'x', 2, false⟩
  | 'B' => some ⟨'o', 2, false⟩
  | 'X' => some ⟨'x', 4, false⟩
  | 'h' => some ⟨'x', 2, false⟩
  | 'H' => some ⟨'x', 4, false⟩
  | 'D' => some ⟨'u', 4, false⟩
  | 'I' => some ⟨'d', 8, false⟩
  | 'O' => some ⟨'o', 4, false⟩
  | _ => none

def od : Body := fun args => do
  let (opts, names) ← odOptions.find args
  let lists ← opts.mapM fun (c, value) => do
    if c = 't' then
      match cells? (value.length + 1) value with
      | some cs => return cs
      | none => fail 1 ("invalid type string ".toList ++ textQuoted value)
    else return (shortCell? c).toList
  let cells := if lists.flatten.isEmpty then [(⟨'o', 2, false⟩ : Cell)] else lists.flatten
  let text ← allContents plainComplaint (orInput names)
  let skip := ((Options.last? opts 'j').bind count?).getD 0
  let text := text.drop skip
  let text := match (Options.last? opts 'N').bind count? with
    | some n => text.take n
    | none => text
  let lineSize := ((Options.last? opts 'w').bind count?).getD 16
  let radix := (Options.last? opts 'A').getD ['o']
  let address (n : Nat) : Octets :=
    if radix == ['n'] then []
    else
      let base := if radix == ['x'] then 16 else if radix == ['d'] then 10 else 8
      let ds := Nat.toDigits base n
      List.replicate ((if base = 16 then 6 else 7) - ds.length) '0' ++ ds
  let widest := cells.foldl (fun n c => max n ((c.width + 1) * (lineSize / c.size))) 0
  let margin := (address 0).length
  let verbose := Options.has opts 'v'
  let (stop, _, _) ← (groupsOf lineSize (text.length + 1) text).foldlM
    (fun (state : Nat × Option Octets × Bool) line => do
      let (offset, last, starred) := state
      if !verbose && last == some line && line.length = lineSize then
        unless starred do putLine ['*']
        return (offset + line.length, last, true)
      else
        for (c, i) in cells.zipIdx do
          putLine ((if i = 0 then address offset else List.replicate margin ' ') ++ cellLine c lineSize widest line)
        return (offset + line.length, some line, false)) (skip, none, false)
  unless radix == ['n'] do putLine (address stop)

/-! ### Prime factors -/

def factorsFrom : Nat → Nat → Nat → List Nat
  | 0, _, n => if 1 < n then [n] else []
  | fuel + 1, d, n =>
    if n < d * d then (if 1 < n then [n] else [])
    else if n % d = 0 then d :: factorsFrom fuel d (n / d)
    else factorsFrom fuel (d + 1) n

def factor : Body := fun args => do
  let (_, operands) ← (Options.of "h" "" [("exponents", 'h')]).find args
  let words ← if operands.isEmpty then do
      match ← readAll 0 with
      | .ok text => pure ((Octets.splitOn ' ' (text.map fun c => if c = '\n' || c = '\t' then ' ' else c)).filter (!·.isEmpty))
      | .error _ => pure []
    else pure operands
  for word in words do
    match Octets.decimal? word with
    | some n => putLine (Octets.ofNat n ++ [':'] ++ (factorsFrom 1000000 2 n).flatMap fun p => ' ' :: Octets.ofNat p)
    | none => wrong (textQuoted word ++ " is not a valid positive integer".toList)

end AlloyGrade.Utility
