import AlloyGrade.Decimal.Shortest
import AlloyGrade.Digest.Hex
import AlloyGrade.Text.Quoted
import AlloyGrade.Text.Scan

/-! The tokens of JSON text, read from left to right up to the first fault. A value that nobody asked for
is skipped with looser rules than one that is wanted: surrogates need not pair, and a number cut off by
the end of the text is malformed rather than unfinished. -/

namespace AlloyGrade.Json

/-- Why a text is refused. -/
inductive ReadError where
  /-- The text ends too early. -/
  | unfinished
  | malformed
  /-- Well-formed so far, but not what was expected here. -/
  | data (message : String)
deriving DecidableEq, Repr

abbrev Reader := Scan ReadError

def isSpace (c : Char) : Bool := c == ' ' || c == '\n' || c == '\t' || c == '\r'

def skipSpace : Reader Unit := Scan.skipWhile isSpace

/-- The first character of the next token, which stays where it is. -/
def peekToken : Reader Char := do
  skipSpace
  match ← Scan.peek? with
  | none => Scan.fail .unfinished
  | some c => return c

/-- The rest of a word such as `null`, whose first letter is known. -/
def letters : List Char → Reader Unit
  | [] => return
  | c :: cs => do
    match ← Scan.peek? with
    | none => Scan.fail .unfinished
    | some d =>
      if c = d then
        Scan.skip
        letters cs
      else Scan.fail .malformed

/-! ### Strings -/

def hexQuad? (a b c d : Char) : Option Nat :=
  match Hex.value? a, Hex.value? b, Hex.value? c, Hex.value? d with
  | some a, some b, some c, some d => some (((a * 16 + b) * 16 + c) * 16 + d)
  | _, _, _, _ => none

/-- Fewer than four characters are left for a `\u` escape. Four octets would have been enough to see
that it is malformed. -/
def shortQuad (rest : List Char) : ReadError :=
  if 4 ≤ (rest.map Char.utf8Size).foldl (· + ·) 0 then .malformed else .unfinished

def isLeading (n : Nat) : Bool := 0xd800 ≤ n && n ≤ 0xdbff

def isTrailing (n : Nat) : Bool := 0xdc00 ≤ n && n ≤ 0xdfff

/-- The character of a surrogate pair. -/
def ofSurrogates (leading trailing : Nat) : Char :=
  Char.ofNat (0x10000 + (leading - 0xd800) * 0x400 + (trailing - 0xdc00))

def simpleEscape? (c : Char) : Option Char :=
  if c = '"' then some '"'
  else if c = '\\' then some '\\'
  else if c = '/' then some '/'
  else if c = 'b' then some (Char.ofNat 8)
  else if c = 'f' then some (Char.ofNat 12)
  else if c = 'n' then some '\n'
  else if c = 'r' then some '\r'
  else if c = 't' then some '\t'
  else none

/-- The characters up to the closing quote, collected last first in `acc`. -/
def stringBody : List Char → List Char → Except ReadError (List Char × List Char)
  | [], _ => .error .unfinished
  | c :: rest, acc =>
    if c = '"' then .ok (acc.reverse, rest)
    else if c = '\\' then
      match rest with
      | [] => .error .unfinished
      | e :: rest =>
        if e = 'u' then
          match rest with
          | h₁ :: h₂ :: h₃ :: h₄ :: rest =>
            match hexQuad? h₁ h₂ h₃ h₄ with
            | none => .error .malformed
            | some n =>
              if isTrailing n then .error .malformed
              else if isLeading n then
                match rest with
                | [] => .error .unfinished
                | s :: rest =>
                  if s ≠ '\\' then .error .malformed
                  else match rest with
                    | [] => .error .unfinished
                    | u :: rest =>
                      if u ≠ 'u' then .error .malformed
                      else match rest with
                        | l₁ :: l₂ :: l₃ :: l₄ :: rest =>
                          match hexQuad? l₁ l₂ l₃ l₄ with
                          | none => .error .malformed
                          | some m =>
                            if isTrailing m then stringBody rest (ofSurrogates n m :: acc)
                            else .error .malformed
                        | short => .error (shortQuad short)
              else stringBody rest (Char.ofNat n :: acc)
          | short => .error (shortQuad short)
        else match simpleEscape? e with
          | some d => stringBody rest (d :: acc)
          | none => .error .malformed
    else if c.toNat < 0x20 then .error .malformed
    else stringBody rest (c :: acc)

/-- A string whose opening quote comes next. -/
def string : Reader String := fun cs =>
  match stringBody (cs.drop 1) [] with
  | .error e => .error e
  | .ok (body, rest) => .ok (String.ofList body, rest)

/-- Passes over a string up to its closing quote. -/
def skipStringBody : List Char → Except ReadError (List Char)
  | [] => .error .unfinished
  | c :: rest =>
    if c = '"' then .ok rest
    else if c = '\\' then
      match rest with
      | [] => .error .unfinished
      | e :: rest =>
        if e = 'u' then
          match rest with
          | h₁ :: h₂ :: h₃ :: h₄ :: rest =>
            match hexQuad? h₁ h₂ h₃ h₄ with
            | none => .error .malformed
            | some _ => skipStringBody rest
          | short => .error (shortQuad short)
        else match simpleEscape? e with
          | some _ => skipStringBody rest
          | none => .error .malformed
    else if c.toNat < 0x20 then .error .malformed
    else skipStringBody rest

/-! ### Numbers -/

inductive Number where
  | unsigned (n : Nat)
  | negative (n : Int)
  | float (x : Float)

def maxWord : Nat := 18446744073709551615

/-- Whole and fractional digits go into a 64-bit significand as long as it holds them. -/
structure Significand where
  value : Nat
  exponent : Int
  full : Bool

/-- One more digit before the point: dropped and counted once the significand is full. -/
def Significand.whole (s : Significand) (c : Char) : Significand :=
  let next := s.value * 10 + (c.toNat - 48)
  if s.full || maxWord < next then { s with exponent := s.exponent + 1, full := true }
  else { s with value := next }

/-- One more digit after the point: dropped once the significand is full. -/
def Significand.fractional (s : Significand) (c : Char) : Significand :=
  let next := s.value * 10 + (c.toNat - 48)
  if s.full || maxWord < next then { s with full := true }
  else { s with value := next, exponent := s.exponent - 1 }

def powerOfTen (n : Nat) : Float := Float.ofScientific 1 false n

/-- The double nearest to the significand, scaled by one power of ten, or step by step below 10⁻³⁰⁸. -/
def scale : Nat → Float → Int → Option Float
  | 0, x, _ => some x
  | fuel + 1, x, e =>
    if e.natAbs ≤ 308 then
      if 0 ≤ e then
        let y := x * powerOfTen e.natAbs
        if y.isInf then none else some y
      else some (x / powerOfTen e.natAbs)
    else if x == 0.0 then some x
    else if 0 ≤ e then none
    else scale fuel (x / powerOfTen 308) (e + 308)

def floatOf (positive : Bool) (s : Significand) (exponent : Int) : Reader Number :=
  match scale 8 (UInt64.ofNat s.value).toFloat (s.exponent + exponent) with
  | none => Scan.fail .malformed
  | some x => return .float (if positive then x else -x)

/-- The digits at the front. -/
def takeDigits : Reader (List Char) := fun cs =>
  let ds := cs.takeWhile Char.isDigit
  .ok (ds, cs.drop ds.length)

def maxExponent : Nat := 2147483647

/-- An exponent, after its letter, and the number it completes. An exponent past 32 bits gives zero, or is
out of range if it is positive and the significand is not zero. -/
def exponentTail (positive : Bool) (s : Significand) : Reader Number := do
  let sign ← Scan.peek?
  if sign = some '+' ∨ sign = some '-' then Scan.skip
  match ← Scan.peek? with
  | none => Scan.fail .unfinished
  | some c =>
    if !c.isDigit then Scan.fail .malformed
    else
      let ds ← takeDigits
      let e := ds.foldl (fun n c => n * 10 + (c.toNat - 48)) 0
      if maxExponent < e then
        if s.value ≠ 0 ∧ sign ≠ some '-' then Scan.fail .malformed
        else return .float (if positive then 0.0 else -0.0)
      else floatOf positive s (if sign = some '-' then -(e : Int) else e)

/-- What may follow the whole part. -/
def numberTail (positive : Bool) (s : Significand) : Reader Number := do
  match ← Scan.peek? with
  | some '.' =>
    Scan.skip
    let ds ← takeDigits
    if ds.isEmpty then
      match ← Scan.peek? with
      | none => Scan.fail .unfinished
      | some _ => Scan.fail .malformed
    else
      let s := ds.foldl Significand.fractional { s with full := false }
      let next ← Scan.peek?
      if next = some 'e' ∨ next = some 'E' then
        Scan.skip
        exponentTail positive s
      else floatOf positive s 0
  | some 'e' | some 'E' =>
    Scan.skip
    exponentTail positive s
  | _ =>
    if s.full then floatOf positive s 0
    else if positive then return .unsigned s.value
    else if s.value = 0 ∨ Nat.pow 2 63 < s.value then floatOf false s 0
    else return .negative (-(s.value : Int))

/-- A number whose first character comes next. -/
def number : Reader Number := do
  let positive := (← Scan.peek?) ≠ some '-'
  if !positive then Scan.skip
  match ← Scan.peek? with
  | none => Scan.fail .unfinished
  | some c =>
    if !c.isDigit then Scan.fail .malformed
    else
      let ds ← takeDigits
      if c = '0' ∧ 1 < ds.length then Scan.fail .malformed
      else numberTail positive (ds.foldl Significand.whole ⟨0, 0, false⟩)

/-- Passes over a fraction, if one comes next. -/
def skipFraction : Reader Unit := do
  if (← Scan.peek?) = some '.' then
    Scan.skip
    if (← takeDigits).isEmpty then Scan.fail .malformed

/-- Passes over an exponent, if one comes next. -/
def skipExponent : Reader Unit := do
  let next ← Scan.peek?
  if next = some 'e' ∨ next = some 'E' then
    Scan.skip
    let sign ← Scan.peek?
    if sign = some '+' ∨ sign = some '-' then Scan.skip
    if (← takeDigits).isEmpty then Scan.fail .malformed

/-- Passes over a number whose first character comes next. -/
def skipNumber : Reader Unit := do
  if (← Scan.peek?) = some '-' then Scan.skip
  let ds ← takeDigits
  if ds.isEmpty ∨ (ds.head? = some '0' ∧ 1 < ds.length) then Scan.fail .malformed
  skipFraction
  skipExponent

/-! ### Values nobody asked for -/

/-- What encloses the place that is read. -/
inductive Frame where
  | array
  | object
deriving DecidableEq, Repr

def Frame.closer : Frame → Char
  | .array => ']'
  | .object => '\x7d'

/-- Where the machine that passes over a value stands. -/
inductive Phase where
  | value
  | opened
  | member
  | closed
deriving DecidableEq, Repr

def skipScalar (c : Char) : Reader Unit :=
  if c = 'n' then letters "null".toList
  else if c = 't' then letters "true".toList
  else if c = 'f' then letters "false".toList
  else if c = '-' ∨ c.isDigit then skipNumber
  else if c = '"' then fun cs =>
    match skipStringBody (cs.drop 1) with
    | .error e => .error e
    | .ok rest => .ok ((), rest)
  else Scan.fail .malformed

/-- The name of a member and its colon. -/
def skipName : Reader Unit := do
  if (← peekToken) = '"' then
    skipScalar '"'
    if (← peekToken) = ':' then Scan.skip else Scan.fail .malformed
  else Scan.fail .malformed

/-- Passes over a value and all it encloses, holding the open brackets innermost first. -/
def skipFrom : Nat → Phase → List Frame → Reader Unit
  | 0, _, _ => Scan.fail .malformed
  | fuel + 1, .value, frames => do
    let c ← peekToken
    if c = '[' then
      Scan.skip
      skipFrom fuel .opened (.array :: frames)
    else if c = '\x7b' then
      Scan.skip
      skipFrom fuel .opened (.object :: frames)
    else
      skipScalar c
      skipFrom fuel .closed frames
  | _ + 1, .opened, [] => Scan.fail .malformed
  | fuel + 1, .opened, frame :: frames => do
    if (← peekToken) = frame.closer then
      Scan.skip
      skipFrom fuel .closed frames
    else skipFrom fuel .member (frame :: frames)
  | fuel + 1, .member, frames => do
    if frames.head? = some .object then skipName
    skipFrom fuel .value frames
  | _ + 1, .closed, [] => return
  | fuel + 1, .closed, frame :: frames => do
    let c ← peekToken
    if c = ',' then
      Scan.skip
      skipFrom fuel .member (frame :: frames)
    else if c = frame.closer then
      Scan.skip
      skipFrom fuel .closed frames
    else Scan.fail .malformed

/-- Each character is met in at most four phases. -/
def skipValue : Reader Unit := fun cs => skipFrom (4 * cs.length + 4) .value [] cs

end AlloyGrade.Json
