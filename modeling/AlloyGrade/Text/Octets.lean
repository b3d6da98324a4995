import AlloyGrade.Path

/-! Text as processes see it. Each octet is held as the character of that number, so that it can be compared
with ASCII letters and turned back. -/

namespace AlloyGrade

abbrev Octets := List Char

namespace Octets

def ofBytes (bytes : Bytes) : Octets := bytes.map fun b => Char.ofNat b.toNat

def toBytes (cs : Octets) : Bytes := cs.map fun c => UInt8.ofNat c.toNat

/-- The UTF-8 octets of a text. -/
def ofString (s : String) : Octets := ofBytes (Bytes.ofString s)

def toPath (cs : Octets) : Path := ⟨toBytes cs⟩

def ofPath (p : Path) : Octets := ofBytes p.bytes

def ofNat (n : Nat) : Octets := (toString n).toList

def ofInt (n : Int) : Octets := (toString n).toList

/-- An octet by its number. -/
def octet (n : Nat) : Char := Char.ofNat (n % 256)

/-- The number that decimal digits spell. -/
def decimal (cs : Octets) : Nat := cs.foldl (fun n c => 10 * n + (c.toNat - '0'.toNat)) 0

/-- The number that a text of decimal digits spells. -/
def decimal? (cs : Octets) : Option Nat := if !cs.isEmpty && cs.all Char.isDigit then some (decimal cs) else none

/-- The number that octal digits spell. -/
def octalNumber (cs : Octets) : Nat := cs.foldl (fun n c => 8 * n + (c.toNat - '0'.toNat)) 0

/-- Splits at every `sep`; the pieces joined by `sep` give the whole back. -/
def splitOn (sep : Char) (cs : Octets) : List Octets :=
  let (piece, pieces) := cs.foldr (fun c (piece, pieces) => if c = sep then ([], piece :: pieces) else (c :: piece, pieces)) ([], [])
  piece :: pieces

/-- The text in front of the first occurrence of a part, and the text behind it. -/
def splitAtText (part : Octets) : Octets → Option (Octets × Octets)
  | [] => if part.isEmpty then some ([], []) else none
  | c :: rest =>
    if part.isPrefixOf (c :: rest) then some ([], (c :: rest).drop part.length)
    else (splitAtText part rest).map fun (before, after) => (c :: before, after)

/-- What stands before the first `mark`, and what behind it. -/
def cutAt (mark : Char) : Octets → Octets → Option (Octets × Octets)
  | [], _ => none
  | c :: rest, acc => if c = mark then some (acc.reverse, rest) else cutAt mark rest (c :: acc)

/-- The lines of a text, without their ends; a text that does not end with a line end has a last line too. -/
def lines (cs : Octets) : List Octets :=
  match cs with
  | [] => []
  | _ =>
    let pieces := splitOn '\n' cs
    if pieces.getLast? = some [] then pieces.dropLast else pieces

/-- The strict order by octets. -/
def lt : Octets → Octets → Bool
  | _, [] => false
  | [], _ :: _ => true
  | a :: as, b :: bs => a < b || (a == b && lt as bs)

/-- Whether a text ends with another. -/
def endsWith (cs tail : Octets) : Bool := tail.length ≤ cs.length && cs.drop (cs.length - tail.length) == tail

/-- The position where a text first occurs in another. -/
def find? (needle : Octets) : Octets → Nat → Option Nat
  | [], at_ => if needle.isEmpty then some at_ else none
  | c :: cs, at_ => if needle.isPrefixOf (c :: cs) then some at_ else find? needle cs (at_ + 1)

end Octets

def isNameStart (c : Char) : Bool := c.isAlpha || c == '_'

def isNameChar (c : Char) : Bool := c.isAlphanum || c == '_'

/-- A text that can name a variable. -/
def isVariableName : Octets → Bool
  | [] => false
  | c :: cs => isNameStart c && cs.all isNameChar

end AlloyGrade
