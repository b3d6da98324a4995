import AlloyGrade.Text.Octets

/-! Patterns: a star stands for any text, a question mark for one character, and brackets for one of a set. -/

namespace AlloyGrade.Shell

/-- The character between parameters. -/
def joint : Char := '\x00'

/-- A pattern's characters, each with whether it stands for itself only. -/
abbrev Pattern := List (Char × Bool)

namespace Pattern

/-- A text without special characters. -/
def ofText (cs : Octets) : Pattern := cs.map ((·, true))

/-- A backslash takes away the meaning of what follows it. -/
def unescape : Pattern → Pattern
  | ('\\', false) :: (c, _) :: rest => (c, true) :: unescape rest
  | ('\\', false) :: [] => [('\\', true)]
  | pc :: rest => pc :: unescape rest
  | [] => []

inductive Member where
  | between (low high : Char)
  | kind (holds : Char → Bool)

/-- The kinds of characters that brackets can name. -/
def kinds : List (String × (Char → Bool)) :=
  [("alnum", Char.isAlphanum), ("cntrl", fun c => c.toNat < 32 || c.toNat = 127),
    ("lower", Char.isLower), ("space", fun c => c = ' ' || (9 ≤ c.toNat && c.toNat ≤ 13)),
    ("alpha", Char.isAlpha), ("digit", Char.isDigit), ("print", fun c => 32 ≤ c.toNat && c.toNat < 127),
    ("upper", Char.isUpper), ("blank", fun c => c = ' ' || c = '\t'), ("graph", fun c => 32 < c.toNat && c.toNat < 127),
    ("punct", fun c => 32 < c.toNat && c.toNat < 127 && !c.isAlphanum),
    ("xdigit", fun c => c.isDigit || ('a' ≤ c && c ≤ 'f') || ('A' ≤ c && c ≤ 'F'))]

/-- The kind named at the start, behind an opening bracket, and what follows it. -/
def kind? (p : Pattern) : Option ((Char → Bool) × Pattern) :=
  kinds.findSome? fun (name, holds) =>
    let text := (":" ++ name ++ ":]").toList
    if (p.take text.length).map (·.1) == text && (p.take text.length).all (!·.2) then some (holds, p.drop text.length)
    else none

/-- Octets above the ASCII range count as negative. -/
def rank (c : Char) : Int := if 128 ≤ c.toNat then (c.toNat : Int) - 256 else c.toNat

def Member.has (c : Char) : Member → Bool
  | .between low high => rank low ≤ rank c && rank c ≤ rank high
  | .kind holds => holds c

/-- The members of a bracket expression and what follows it. The first character is a member whatever it is. -/
def members : Nat → Bool → Pattern → List Member → Option (List Member × Pattern)
  | 0, _, _, _ => none
  | _, _, [], _ => none
  | fuel + 1, first, (c, quoted) :: rest, acc =>
    if c = ']' && !quoted && !first then some (acc, rest)
    else match if c = '[' && !quoted then kind? rest else none with
      | some (holds, rest) => members fuel false rest (.kind holds :: acc)
      | none =>
        match rest with
        | ('-', false) :: (high, quoted) :: after =>
          if high = ']' && !quoted then members fuel false rest (.between c c :: acc)
          else members fuel false after (.between c high :: acc)
        | _ => members fuel false rest (.between c c :: acc)

/-- A bracket expression behind its opening bracket: whether it is negated, its members, and what follows. -/
def bracket? (p : Pattern) : Option (Bool × List Member × Pattern) :=
  match p with
  | ('!', false) :: rest => (members (rest.length + 1) true rest []).map fun (ms, after) => (true, ms, after)
  | _ => (members (p.length + 1) true p []).map fun (ms, after) => (false, ms, after)

/-- A list and all that is left of it when elements are taken away from the front. -/
def suffixes {α : Type} : List α → List (List α)
  | [] => [[]]
  | a :: as => (a :: as) :: suffixes as

def fitsFrom : Nat → Pattern → Octets → Bool
  | 0, _, _ => false
  | _, [], cs => cs.isEmpty
  | fuel + 1, (p, quoted) :: rest, cs =>
    if p = '*' && !quoted then (suffixes cs).any (fitsFrom fuel rest)
    else match cs with
      | [] => false
      | c :: cs =>
        if p = '?' && !quoted then fitsFrom fuel rest cs
        else match if p = '[' && !quoted then bracket? rest else none with
          | some (negated, ms, after) => ms.any (Member.has c) != negated && fitsFrom fuel after cs
          | none => p = c && fitsFrom fuel rest cs

/-- Whether a text has the shape of a pattern. -/
def fits (p : Pattern) (cs : Octets) : Bool := fitsFrom (p.length + 1) (unescape p) cs

/-- Whether a pattern has characters that stand for others. -/
def isSpecial (p : Pattern) : Bool :=
  let p := unescape p
  p.any (fun (c, quoted) => !quoted && (c = '*' || c = '?')) ||
    (suffixes p).any fun t => match t with
      | ('[', false) :: rest => (bracket? rest).isSome
      | _ => false

/-- Ways to cut a text in two, with the front growing. -/
def cuts (cs : Octets) : List (Octets × Octets) := (List.range (cs.length + 1)).map fun n => (cs.take n, cs.drop n)

/-- Takes the shortest, or the longest, front off that fits. A pattern is held against what precedes a joint only; the shortest
front is looked for there as well. -/
def cutStart (p : Pattern) (longest : Bool) (cs : Octets) : Octets :=
  let ways := if longest then (cuts cs).reverse else (cuts cs).take ((cs.takeWhile (· ≠ joint)).length + 1)
  match ways.find? fun (front, _) => p.fits (front.takeWhile (· ≠ joint)) with
  | some (_, rest) => rest
  | none => cs

/-- Takes the shortest, or the longest, end off that fits, with all that follows a joint behind it. -/
def cutEnd (p : Pattern) (longest : Bool) (cs : Octets) : Octets :=
  let ways := if longest then (cuts cs).take ((cs.takeWhile (· ≠ joint)).length + 1) else (cuts cs).reverse
  match ways.find? fun (_, back) => p.fits (back.takeWhile (· ≠ joint)) with
  | some (front, _) => front
  | none => cs

end Pattern

end AlloyGrade.Shell
