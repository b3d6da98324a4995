import AlloyGrade.Text.Alphanumeric

/-! Which texts are regular expressions. Only the form is checked, since nothing is ever matched against one. An
expression reads characters, or octets where it has left the characters behind; it may not match half a
character. Whatever needs tables of characters is refused: properties, letters regardless of case, and the classes
and word boundaries of all scripts. Counted repetition needs a brace, which no expression can hold here. -/

namespace AlloyGrade.Log.Expression

/-- How the text is read at some place. -/
structure Modes where
  /-- Letters of both cases are the same. -/
  ignoresCase : Bool
  /-- By characters, not by octets. -/
  unicode : Bool
  /-- White space and comments are passed over. -/
  spaced : Bool
deriving DecidableEq, Repr

namespace Modes

def initial : Modes := ⟨false, true, false⟩

/-- Whether a character that stands for itself can be told from others. -/
def tellsLetters (m : Modes) : Bool := !(m.ignoresCase && m.unicode)

/-- Switches the property of a letter on or off. -/
def switch (m : Modes) (letter : Char) (on : Bool) : Modes :=
  match letter with
  | 'i' => { m with ignoresCase := on }
  | 'u' => { m with unicode := on }
  | 'x' => { m with spaced := on }
  | _ => m

/-- Passes over white space and comments, from inside a comment if so told. -/
def skipFrom : Bool → List Char → List Char
  | _, [] => []
  | true, c :: rest => skipFrom (c != '\n') rest
  | false, c :: rest =>
    if Text.isBlank c then skipFrom false rest
    else if c = '#' then skipFrom true rest
    else c :: rest

def skip (m : Modes) (cs : List Char) : List Char := if m.spaced then skipFrom false cs else cs

/-- The character to come, white space apart. A comment is not passed over to its end, only its sign is. -/
def ahead? (m : Modes) (cs : List Char) : Option Char :=
  if m.spaced then
    let first := Text.skipBlanks cs
    let second := match first with
      | '#' :: rest => Text.skipBlanks rest
      | _ => first
    match second with
    | [] => cs.head?
    | c :: _ => some c
  else cs.head?

end Modes

/-! ### Escapes -/

def isHex (c : Char) : Bool := c.isDigit || ('a' ≤ c && c ≤ 'f') || ('A' ≤ c && c ≤ 'F')

def hexValue (cs : List Char) : Nat :=
  cs.foldl (fun n c => 16 * n + if c.isDigit then c.toNat - '0'.toNat else c.toLower.toNat - 'a'.toNat + 10) 0

/-- So many hexadecimal digits, white space between them apart. -/
def hexDigits? (m : Modes) : Nat → List Char → Option (List Char × List Char)
  | 0, cs => some ([], cs)
  | n + 1, cs =>
    match cs with
    | [] => none
    | c :: rest => if isHex c then (hexDigits? m n (m.skip rest)).map fun (digits, rest) => (c :: digits, rest) else none

/-- What an escape stands for. -/
inductive Escape where
  /-- A character; as an octet if it was given by two digits. -/
  | char (c : Char) (octet : Bool)
  /-- The beginning or the end of the text. -/
  | edge
  | wordEdge
  /-- Digits, white space or the letters of words, or everything but these. -/
  | kind (negated : Bool)
deriving DecidableEq, Repr

/-- A character by its number in so many hexadecimal digits. -/
def hexChar? (m : Modes) (digits : Nat) (cs : List Char) : Option (Escape × List Char) :=
  match hexDigits? m digits (m.skip cs) with
  | none => none
  | some (number, rest) =>
    let n := hexValue number
    if n.isValidChar then some (.char (Char.ofNat n) (digits == 2), rest) else none

/-- Reads an escape behind its backslash. -/
def escape? (m : Modes) : List Char → Option (Escape × List Char)
  | [] => none
  | c :: rest =>
    match c with
    | 'x' => hexChar? m 2 rest
    | 'u' => hexChar? m 4 rest
    | 'U' => hexChar? m 8 rest
    | 'd' | 's' | 'w' => some (.kind false, rest)
    | 'D' | 'S' | 'W' => some (.kind true, rest)
    | 'a' => some (.char '\x07' false, rest)
    | 'f' => some (.char '\x0c' false, rest)
    | 't' => some (.char '\t' false, rest)
    | 'n' => some (.char '\n' false, rest)
    | 'r' => some (.char '\r' false, rest)
    | 'v' => some (.char '\x0b' false, rest)
    | 'A' | 'z' => some (.edge, rest)
    | 'b' | 'B' | '<' | '>' => some (.wordEdge, rest)
    | _ => if c.toNat < 0x80 && !c.isAlphanum then some (.char c false, rest) else none

/-! ### Classes -/

/-- How deep members stand that are put together: alone as deep as they are, several one deeper. -/
def together : List Nat → Nat
  | [] => 0
  | [n] => n
  | ns => ns.foldl max 0 + 1

namespace Class

/-- A class of characters by name, behind its bracket: whether it is negated, and the rest. -/
def named? : List Char → Option (Bool × List Char)
  | ':' :: rest =>
    let (negated, rest) := match rest with
      | '^' :: more => (true, more)
      | _ => (false, rest)
    let name := rest.takeWhile (· != ':')
    match rest.drop name.length with
    | ':' :: ']' :: more =>
      if ["alnum", "alpha", "ascii", "blank", "cntrl", "digit", "graph", "lower", "print", "punct", "space", "upper",
          "word", "xdigit"].contains (String.ofList name) then some (negated, more)
      else none
    | _ => none
  | _ => none

/-- Whether a character may be a member. -/
def admits (m : Modes) (c : Char) : Bool := m.tellsLetters && (m.unicode || c.toNat < 0x80)

/-- One end of a range, or a member by itself. -/
def item? (m : Modes) : List Char → Option (Escape × List Char)
  | [] => none
  | '\\' :: rest => escape? m rest
  | c :: rest => some (.char c false, rest)

/-- A member or a range of them. -/
def member? (m : Modes) (cs : List Char) : Option (List Char) := do
  let (first, rest) ← item? m cs
  let rest := m.skip rest
  let single : Option (List Char) := match first with
    | .char c _ => if admits m c then some rest else none
    | .kind negated => if m.unicode || negated then none else some rest
    | _ => none
  match rest with
  | '-' :: more =>
    if m.ahead? more = some ']' || m.ahead? more = some '-' then single
    else
      let (last, rest) ← item? m (m.skip more)
      match first, last with
      | .char low _, .char high _ => if low ≤ high && admits m low && admits m high then some rest else none
      | _, _ => none
  | _ => single

/-- Passes over the sign of a negated class and the signs in front that stand for themselves, which are counted. -/
def start (m : Modes) (cs : List Char) : Bool × Nat × List Char :=
  let cs := m.skip cs
  let (negated, cs) := match cs with
    | '^' :: rest => (true, m.skip rest)
    | _ => (false, cs)
  let rec signs : Nat → List Char → Nat × List Char
    | 0, cs => (0, cs)
    | fuel + 1, '-' :: rest =>
      let (n, rest) := signs fuel (m.skip rest)
      (n + 1, rest)
    | _, cs => (0, cs)
  match signs cs.length cs with
  | (0, ']' :: rest) => (negated, 1, m.skip rest)
  | (n, rest) => (negated, n, rest)

/-- The depth of what stands before an operator or the end, given what stood before the last operator. -/
def joined (left : Option Nat) (members : List Nat) : Nat :=
  match left with
  | none => together members
  | some n => max n (together members) + 1

/-- Reads a class behind its bracket; how deep it nests, and the rest. -/
def read? (m : Modes) : Nat → Option Nat → List Nat → List Char → Option (Nat × List Char)
  | 0, _, _, _ => none
  | fuel + 1, left, members, cs =>
    match m.skip cs with
    | [] => none
    | ']' :: rest => some (joined left members + 1, rest)
    | '&' :: '&' :: rest | '-' :: '-' :: rest | '~' :: '~' :: rest => read? m fuel (some (joined left members)) [] rest
    | '[' :: rest =>
      match named? rest with
      | some (negated, rest) =>
        if m.tellsLetters && !(negated && !m.unicode) then read? m fuel left (0 :: members) rest else none
      | none =>
        match start m rest with
        | (negated, signs, rest) =>
          if (negated && !m.unicode) || (signs != 0 && !m.tellsLetters) then none
          else
            match read? m fuel none (List.replicate signs 0) rest with
            | some (depth, rest) => read? m fuel left (depth :: members) rest
            | none => none
    | cs =>
      match member? m cs with
      | some rest => read? m fuel left (0 :: members) rest
      | none => none

/-- Reads a class from its bracket on. -/
def opened? (m : Modes) (cs : List Char) : Option (Nat × List Char) :=
  match start m cs with
  | (negated, signs, rest) =>
    if (negated && !m.unicode) || (signs != 0 && !m.tellsLetters) then none
    else read? m (rest.length + 1) none (List.replicate signs 0) rest

end Class

/-! ### Groups -/

/-- The letters of the properties that can be switched. -/
def switches : List Char := "imsUuRx".toList

/-- Switches of modes: letters, each at most once, perhaps some of them behind one minus sign. -/
def switched? (m : Modes) (letters : List Char) : Option Modes :=
  let on := letters.takeWhile (· != '-')
  let off := letters.drop (on.length + 1)
  let all := on ++ off
  if all.all (switches.contains ·) && all.eraseDups.length = all.length && !(on.length < letters.length && off.isEmpty) then
    some (off.foldl (·.switch · false) (on.foldl (·.switch · true) m))
  else none

/-- What a parenthesis opens. -/
inductive Head where
  | group (modes : Modes) (name : Option (List Char))
  /-- Nothing: the modes change from here on. -/
  | modes (modes : Modes)
deriving DecidableEq, Repr

def isName : List Char → Bool
  | [] => false
  | first :: rest =>
    (first == '_' || Text.Alphanumeric.isLetter first) &&
      rest.all fun c => c == '_' || c == '.' || c == '[' || c == ']' || Text.Alphanumeric.holds c

def named? (m : Modes) (cs : List Char) : Option (Head × List Char) :=
  let name := cs.takeWhile (· != '>')
  match cs.drop name.length with
  | _ :: rest => if isName name then some (.group m (some name), rest) else none
  | [] => none

/-- Reads on behind a parenthesis. -/
def head? (m : Modes) (cs : List Char) : Option (Head × List Char) :=
  match m.skip cs with
  | '?' :: 'P' :: '<' :: rest => named? m rest
  | '?' :: '<' :: rest => named? m rest
  | '?' :: rest =>
    let letters := rest.takeWhile fun c => c != ':' && c != ')'
    match rest.drop letters.length with
    | ':' :: more => (switched? m letters).map fun inner => (.group inner none, more)
    | ')' :: more => if letters.isEmpty then none else (switched? m letters).map fun later => (.modes later, more)
    | _ => none
  | rest => some (.group m none, rest)

/-! ### Whole expressions -/

/-- What has been read of a group, innermost last: the depths of its finished branches and of the parts of the
branch at hand, latest first; a part that cannot be repeated has none. -/
structure Branches where
  finished : List Nat
  parts : List (Option Nat)
deriving DecidableEq, Repr

namespace Branches

def none_ : Branches := ⟨[], []⟩

def add (b : Branches) (depth : Nat) : Branches := { b with parts := some depth :: b.parts }

def branch (b : Branches) : Nat := together (b.parts.map (·.getD 0))

def depth (b : Branches) : Nat := together (b.branch :: b.finished)

end Branches

/-- Where a reader is: the modes, the names given to groups, what is open around, with the modes to come back to,
and what has been read of the innermost group. -/
structure Place where
  modes : Modes
  names : List (List Char)
  around : List (Modes × Branches)
  branches : Branches
deriving DecidableEq, Repr

namespace Place

def start : Place := ⟨.initial, [], [], .none_⟩

def add (p : Place) (depth : Nat) : Place := { p with branches := p.branches.add depth }

/-- Opens what a parenthesis opens; no two groups have one name. -/
def opening? (p : Place) : Head → Option Place
  | .modes later => some { p with modes := later, branches := { p.branches with parts := none :: p.branches.parts } }
  | .group inner name =>
    if name.any (p.names.contains ·) then none
    else some ⟨inner, name.toList ++ p.names, (p.modes, p.branches) :: p.around, .none_⟩

def closing? (p : Place) : Option Place :=
  match p.around with
  | [] => none
  | (modes, branches) :: around => some { p with modes, around, branches := branches.add (p.branches.depth + 1) }

/-- Repeats the last part. -/
def repeated? (p : Place) : Option Place :=
  match p.branches.parts with
  | some depth :: parts => some { p with branches := { p.branches with parts := some (depth + 1) :: parts } }
  | _ => none

def branching (p : Place) : Place := { p with branches := ⟨p.branches.branch :: p.branches.finished, []⟩ }

/-- Whether an escape can stand here. -/
def admits (p : Place) : Escape → Bool
  | .char c octet => p.modes.tellsLetters && !(octet && !p.modes.unicode && 0x80 ≤ c.toNat)
  | .edge => true
  | .wordEdge => !p.modes.unicode
  | .kind negated => !p.modes.unicode && !negated

end Place

/-- How deep an expression may nest. -/
def deepest : Nat := 250

/-- Reads to the end. -/
def scan : Nat → Place → List Char → Bool
  | 0, _, _ => false
  | fuel + 1, p, cs =>
    match p.modes.skip cs with
    | [] => p.around.isEmpty && p.branches.depth ≤ deepest
    | c :: rest =>
      match c with
      | '(' =>
        match head? p.modes rest with
        | some (head, rest) =>
          match p.opening? head with
          | some p => scan fuel p rest
          | none => false
        | none => false
      | ')' =>
        match p.closing? with
        | some p => scan fuel p rest
        | none => false
      | '|' => scan fuel p.branching rest
      | '*' | '+' | '?' =>
        match p.repeated? with
        | some p =>
          match rest with
          | '?' :: rest => scan fuel p rest
          | _ => scan fuel p rest
        | none => false
      | '\x7b' => false
      | '[' =>
        match Class.opened? p.modes rest with
        | some (depth, rest) => scan fuel (p.add depth) rest
        | none => false
      | '\\' =>
        match escape? p.modes rest with
        | some (e, rest) => p.admits e && scan fuel (p.add 0) rest
        | none => false
      | '.' => p.modes.unicode && scan fuel (p.add 0) rest
      | '^' | '$' => scan fuel (p.add 0) rest
      | _ => p.modes.tellsLetters && scan fuel (p.add 0) rest

def isWellFormed (cs : List Char) : Bool := scan (cs.length + 1) .start cs

end AlloyGrade.Log.Expression
