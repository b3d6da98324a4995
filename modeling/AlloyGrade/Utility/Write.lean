import AlloyGrade.Shell.Arithmetic
import AlloyGrade.Text.Conversion
import AlloyGrade.Utility.Quoting

/-! The utilities that write their arguments: plainly, or as a format asks for. -/

namespace AlloyGrade.Utility

open Process Tool

def isOctalDigit (c : Char) : Bool := '0' ≤ c && c ≤ '7'

def isHexDigit (c : Char) : Bool := c.isDigit || ('a' ≤ c.toLower && c.toLower ≤ 'f')

def numberIn (base : Nat) (cs : Octets) : Nat := cs.foldl (fun n c => base * n + Shell.Arithmetic.digitValue c) 0

/-- The letters behind a backslash that stand for one control character. -/
def controlLetter? : Char → Option Char
  | 'a' => some '\x07'
  | 'b' => some '\x08'
  | 'e' => some '\x1b'
  | 'f' => some '\x0c'
  | 'n' => some '\n'
  | 'r' => some '\r'
  | 't' => some '\t'
  | 'v' => some '\x0b'
  | '\\' => some '\\'
  | _ => none

/-! ### Plain writing -/

/-- A text with its escapes replaced, and whether it asked for silence afterwards. -/
def expandEscapes : Nat → Octets → Octets → Octets × Bool
  | 0, _, acc => (acc.reverse, false)
  | _, [], acc => (acc.reverse, false)
  | fuel + 1, '\\' :: c :: rest, acc =>
    if c = 'c' then (acc.reverse, true)
    else if c = 'x' && (rest.head?).any isHexDigit then
      let ds := (rest.take 2).takeWhile isHexDigit
      expandEscapes fuel (rest.drop ds.length) (Octets.octet (numberIn 16 ds) :: acc)
    else if isOctalDigit c then
      let body := if c = '0' then rest else c :: rest
      let ds := (body.take 3).takeWhile isOctalDigit
      expandEscapes fuel (body.drop ds.length) (Octets.octet (numberIn 8 ds) :: acc)
    else match controlLetter? c with
      | some meant => expandEscapes fuel rest (meant :: acc)
      | none => expandEscapes fuel rest (c :: '\\' :: acc)
  | fuel + 1, c :: rest, acc => expandEscapes fuel rest (c :: acc)

/-- Takes the options off: whether the line is left open, and whether escapes count. -/
def echoOptions : List Octets → Bool → Bool → Bool × Bool × List Octets
  | ('-' :: c :: cs) :: rest, openLine, escapes =>
    let letters := c :: cs
    if letters.all (['n', 'e', 'E'].contains ·) then
      let escapes := letters.foldl (fun e c => if c = 'e' then true else if c = 'E' then false else e) escapes
      echoOptions rest (openLine || letters.contains 'n') escapes
    else (openLine, escapes, ('-' :: letters) :: rest)
  | rest, openLine, escapes => (openLine, escapes, rest)

def echo : Body := fun args => do
  let (openLine, escapes, words) := echoOptions args false false
  let text := [' '].intercalate words
  if escapes then
    let (shown, silent) := expandEscapes (text.length + 1) text []
    put shown
    unless silent || openLine do put ['\n']
  else
    put text
    unless openLine do put ['\n']

/-! ### Formats -/

/-- Where a format stands: the arguments still to be used. -/
abbrev Formatting := StateT (List Octets) Tool

namespace Formatting

def nextArg? : Formatting (Option Octets) := modifyGet fun args => (args.head?, args.drop 1)

/-- Complains about an argument that is not quite a number. -/
def checked (text rest : Octets) (outOfRange : Bool) : Formatting Unit := do
  if outOfRange then wrong (textQuoted text ++ ": Numerical result out of range".toList)
  else if !rest.isEmpty then
    wrong (textQuoted text ++ (if rest.length = text.length then ": expected a numeric value"
      else ": value not completely converted").toList)

/-- The number of a character behind a quote, if that is what an argument is. -/
def character? (text : Octets) : Formatting (Option Nat) := do
  match text with
  | '"' :: c :: more | '\'' :: c :: more =>
    unless more.isEmpty do
      warn ("warning: ".toList ++ more ++ ": character(s) following character constant have been ignored".toList)
    return some c.toNat
  | _ => return none

/-- A whole number from an argument, with sign or modulo 2^64. -/
def integer (signed : Bool) (text : Octets) : Formatting Int := do
  match ← character? text with
  | some n => return n
  | none =>
    let body := text.dropWhile Shell.Arithmetic.isBlank
    let negative := body.head? = some '-'
    let body := if negative || body.head? = some '+' then body.drop 1 else body
    match Shell.Arithmetic.unsigned body with
    | none =>
      checked text text false
      return 0
    | some (n, rest) =>
      if signed then
        let value : Int := if negative then -(n : Int) else n
        let bounded := max Shell.Arithmetic.smallest (min Shell.Arithmetic.largest value)
        checked text rest (bounded != value)
        return bounded
      else
        let tooBig := Nat.pow 2 64 ≤ n
        checked text rest tooBig
        return if tooBig then Int.pow 2 64 - 1 else (if negative then -(n : Int) else n) % Int.pow 2 64

def float (text : Octets) : Formatting Dyadic.Number := do
  match ← character? text with
  | some n => return .finite false n 0
  | none =>
    match Dyadic.leading Dyadic.extended text with
    | none =>
      checked text text false
      return .finite false 0 0
    | some (x, outOfRange, rest) =>
      checked text rest outOfRange
      return x

/-- The escape behind a backslash: writes it, and gives what follows; `zeroLeads` allows a zero in front of three
octal digits. -/
def escape (zeroLeads : Bool) (cs : Octets) : Formatting Octets := do
  match cs with
  | [] =>
    put ['\\']
    return []
  | c :: rest =>
    if c = 'x' then
      let ds := (rest.take 2).takeWhile isHexDigit
      if ds.isEmpty then fail 1 "missing hexadecimal number in escape".toList
      put [Octets.octet (numberIn 16 ds)]
      return rest.drop ds.length
    else if isOctalDigit c then
      let body := if zeroLeads && c = '0' then rest else cs
      let ds := (body.take 3).takeWhile isOctalDigit
      put [Octets.octet (numberIn 8 ds)]
      return body.drop ds.length
    else if c = 'c' then exit (if (← getThe State).failed then 1 else 0)
    else if c = '"' then
      put ['"']
      return rest
    else if c = 'u' || c = 'U' then
      let size := if c = 'u' then 4 else 8
      let ds := (rest.take size).takeWhile isHexDigit
      if ds.length < size then fail 1 "missing hexadecimal number in escape".toList
      let n := numberIn 16 ds
      let shown := '\\' :: c :: ds.map Char.toLower
      if (0xd800 ≤ n && n ≤ 0xdfff) || (n < 0xa0 && !([0x24, 0x40, 0x60].contains n)) then
        fail 1 ("invalid universal character name ".toList ++ shown)
      put (if n < 128 then [Char.ofNat n] else
        '\\' :: (if n < 65536 then 'u' else 'U') :: (ds.drop (if n < 65536 then size - 4 else 0)).map Char.toUpper)
      return rest.drop size
    else match controlLetter? c with
      | some meant =>
        put [meant]
        return rest
      | none =>
        put ['\\', c]
        return rest

/-- Writes an argument with its escapes. -/
def escapedArg : Nat → Octets → Formatting Unit
  | 0, _ => return ()
  | _, [] => return ()
  | fuel + 1, '\\' :: rest => do escapedArg fuel (← escape true rest)
  | fuel + 1, c :: rest => do
    put [c]
    escapedArg fuel rest

/-- The conversions that a flag rules out. -/
def ruledOut : Char → List Char
  | 'I' | '\'' => ['a', 'A', 'c', 'e', 'E', 'o', 's', 'x', 'X']
  | '#' => ['c', 'd', 'i', 's', 'u']
  | '0' => ['c', 's']
  | _ => []

/-- A width or a precision: a number, or an argument that is one. -/
def size (what : String) (cs : Octets) : Formatting (Option Int × Octets) := do
  match cs with
  | '*' :: rest =>
    match ← nextArg? with
    | none => return (some 0, rest)
    | some text =>
      let n ← integer true text
      if n < -Int.pow 2 31 || Int.pow 2 31 ≤ n then fail 1 (("invalid " ++ what ++ ": ").toList ++ textQuoted text)
      return (some n, rest)
  | _ =>
    let ds := cs.takeWhile Char.isDigit
    return (if ds.isEmpty then none else some (Octets.decimal ds), cs.drop ds.length)

/-- Writes one conversion; the text starts behind the percent sign. -/
def conversion (cs : Octets) : Formatting Octets := do
  match cs with
  | '%' :: rest =>
    put ['%']
    return rest
  | 'b' :: rest =>
    let text := (← nextArg?).getD []
    escapedArg (text.length + 1) text
    return rest
  | 'q' :: rest =>
    if let some text := ← nextArg? then put (nameShown text)
    return rest
  | _ =>
    let flags := cs.takeWhile (['-', '+', ' ', '#', '0', '\'', 'I'].contains ·)
    let out := flags.flatMap ruledOut
    let d := flags.foldl Conversion.withFlag .plain
    let (width, rest) ← size "field width" (cs.drop flags.length)
    let d := match width with
      | some n => d.withWidth n
      | none => d
    let (d, out, rest) ← match rest with
      | '.' :: rest => do
        let (precision, rest) ← size "precision" rest
        pure (d.withPrecision (precision.getD 0), 'c' :: out, rest)
      | _ => pure (d, out, rest)
    let rest := rest.dropWhile (['l', 'L', 'h', 'j', 't', 'z'].contains ·)
    let letter := rest.head?.getD '\x00'
    if out.contains letter || !"aAcdeEfFgGiosuxX".toList.contains letter then
      let shown := '%' :: cs.take (cs.length - rest.length + 1)
      fail 1 (shown ++ ": invalid conversion specification".toList)
    let text := (← nextArg?).getD []
    match letter with
    | 'd' | 'i' => put (d.signed (← if text.isEmpty then pure 0 else integer true text))
    | 'o' | 'u' | 'x' | 'X' => put (d.unsigned letter (← if text.isEmpty then pure 0 else integer false text).toNat)
    | 'c' => put (d.pad [text.head?.getD '\x00'])
    | 's' => put (d.text text)
    | _ => put (d.float Dyadic.extended letter (← if text.isEmpty then pure (.finite false 0 0) else float text))
    return rest.drop 1

/-- Writes a format once. -/
def once : Nat → Octets → Formatting Unit
  | 0, _ => return ()
  | _, [] => return ()
  | fuel + 1, '\\' :: rest => do once fuel (← escape false rest)
  | fuel + 1, '%' :: rest => do once fuel (← conversion rest)
  | fuel + 1, c :: rest => do
    put [c]
    once fuel rest

/-- Writes a format again and again until the arguments are used up. -/
def all (format : Octets) : Nat → Formatting Unit
  | 0 => return ()
  | fuel + 1 => do
    let before := (← get).length
    once (format.length + 1) format
    let left := (← get).length
    if left < before && 0 < left then all format fuel
    else if 0 < left then
      warn ("warning: ignoring excess arguments, starting with ".toList ++ textQuoted ((← get).headD []))

end Formatting

def printf : Body := fun args => do
  match if args.head? == some ['-', '-'] then args.drop 1 else args with
  | [] => misuse 1 "missing operand".toList
  | format :: args =>
    let _ ← (Formatting.all format (args.length + 1)).run args

end AlloyGrade.Utility
