import AlloyGrade.Text.Regex

/-! The two dialects of regular expressions. In the basic one, groups, intervals and alternatives stand behind
backslashes; in the extended one they stand by themselves. -/

namespace AlloyGrade

namespace Regex

structure Dialect where
  extended : Bool
  /-- A backslash and a letter can stand for a control character, also in brackets. -/
  controls : Bool
  /-- A repetition with nothing to repeat is an error. -/
  strict : Bool

inductive Fault where
  | unmatchedBracket
  | unmatchedOpen
  | unmatchedClose
  | unmatchedBrace
  | badInterval
  | badRange
  | nothingToRepeat
  | trailingBackslash
  | badReference
  | badClass
deriving DecidableEq, Repr

namespace Fault

def message : Fault → String
  | .unmatchedBracket => "Unmatched [, [^, [:, [., or [="
  | .unmatchedOpen => "Unmatched ( or \\("
  | .unmatchedClose => "Unmatched ) or \\)"
  | .unmatchedBrace => "Unmatched \\\x7b"
  | .badInterval => "Invalid content of \\\x7b\\\x7d"
  | .badRange => "Invalid range end"
  | .nothingToRepeat => "Invalid preceding regular expression"
  | .trailingBackslash => "Trailing backslash"
  | .badReference => "Invalid back reference"
  | .badClass => "Invalid character class name"

end Fault

/-- What is still to be read, how many groups have begun and which have ended, and letters with a needless backslash. -/
structure Reading where
  rest : Octets
  groups : Nat
  closed : List Nat
  strays : List Char

abbrev Read := StateT Reading (Except Fault)

/-! ### Brackets -/

def className? (name : String) : Option (List (Char × Char)) :=
  match name with
  | "alpha" => some [('a', 'z'), ('A', 'Z')]
  | "digit" => some [('0', '9')]
  | "alnum" => some [('a', 'z'), ('A', 'Z'), ('0', '9')]
  | "upper" => some [('A', 'Z')]
  | "lower" => some [('a', 'z')]
  | "space" => some [(' ', ' '), ('\t', '\r')]
  | "blank" => some [(' ', ' '), ('\t', '\t')]
  | "punct" => some [('!', '/'), (':', '@'), ('[', '\x60'), ('\x7b', '~')]
  | "print" => some [(' ', '~')]
  | "graph" => some [('!', '~')]
  | "cntrl" => some [('\x00', '\x1f'), ('\x7f', '\x7f')]
  | "xdigit" => some [('0', '9'), ('a', 'f'), ('A', 'F')]
  | _ => none

def wordRanges : List (Char × Char) := [('a', 'z'), ('A', 'Z'), ('0', '9'), ('_', '_')]

def spaceRanges : List (Char × Char) := [(' ', ' '), ('\t', '\r')]

/-- The control character that a letter behind a backslash stands for. -/
def control? : Char → Option Char
  | 'n' => some '\n'
  | 't' => some '\t'
  | 'r' => some '\r'
  | 'f' => some '\x0c'
  | 'v' => some '\x0b'
  | 'a' => some '\x07'
  | _ => none

/-- The text up to a mark such as `:]`, and what follows. -/
def upTo (mark : Char) : Octets → Octets → Option (Octets × Octets)
  | [], _ => none
  | c :: rest, acc => if c = mark && rest.head? = some ']' then some (acc.reverse, rest.drop 1) else upTo mark rest (c :: acc)

/-- One end of a range: a character, perhaps named. -/
def rangeEnd (controls : Bool) (cs : Octets) : Except Fault (Char × Octets) :=
  match cs with
  | '[' :: '.' :: rest =>
    match upTo '.' rest [] with
    | some ([c], rest) => .ok (c, rest)
    | some _ => .error .badClass
    | none => .error .unmatchedBracket
  | '\\' :: c :: rest =>
    match if controls then control? c else none with
    | some meant => .ok (meant, rest)
    | none => .ok ('\\', c :: rest)
  | c :: rest => .ok (c, rest)
  | [] => .error .unmatchedBracket

/-- The ranges of a bracket expression up to its end. -/
def bracketItems (controls : Bool) : Nat → Bool → Octets → List (Char × Char) → Except Fault (List (Char × Char) × Octets)
  | 0, _, _, _ => .error .unmatchedBracket
  | fuel + 1, first, cs, acc =>
    match cs with
    | [] => .error .unmatchedBracket
    | ']' :: rest => if first then single fuel (']' :: rest) acc else .ok (acc, rest)
    | '[' :: ':' :: rest =>
      match upTo ':' rest [] with
      | none => .error .unmatchedBracket
      | some (name, rest) =>
        match className? (String.ofList name) with
        | none => .error .badClass
        | some ranges => bracketItems controls fuel false rest (ranges ++ acc)
    | '[' :: '=' :: rest =>
      match upTo '=' rest [] with
      | some ([c], rest) => bracketItems controls fuel false rest ((c, c) :: acc)
      | some _ => .error .badClass
      | none => .error .unmatchedBracket
    | _ => single fuel cs acc
where
  /-- A character or a range. -/
  single (fuel : Nat) (cs : Octets) (acc : List (Char × Char)) : Except Fault (List (Char × Char) × Octets) := do
    let (lo, rest) ← rangeEnd controls cs
    match rest with
    | '-' :: c :: more =>
      if c = ']' then bracketItems controls fuel false rest ((lo, lo) :: acc)
      else
        let (hi, rest) ← rangeEnd controls (c :: more)
        if hi < lo then throw .badRange
        bracketItems controls fuel false rest ((lo, hi) :: acc)
    | _ => bracketItems controls fuel false rest ((lo, lo) :: acc)

/-- A bracket expression behind its opening bracket. -/
def bracket (controls : Bool) (cs : Octets) : Except Fault (Regex × Octets) := do
  let (negated, cs) := match cs with
    | '^' :: rest => (true, rest)
    | _ => (false, cs)
  let (ranges, rest) ← bracketItems controls (cs.length + 1) true cs []
  return (.among negated ranges, rest)

/-! ### Intervals -/

/-- An interval behind its opening brace. -/
def interval? (closing : Octets) (cs : Octets) : Option ((Nat × Option Nat) × Octets) :=
  let low := cs.takeWhile Char.isDigit
  let rest := cs.drop low.length
  let (high, rest) : Option Nat × Octets := match rest with
    | ',' :: more =>
      let ds := more.takeWhile Char.isDigit
      (if ds.isEmpty then none else some (Octets.decimal ds), more.drop ds.length)
    | _ => (some (Octets.decimal low), rest)
  let isEmpty := low.isEmpty && (cs.head? ≠ some ',')
  if isEmpty || !closing.isPrefixOf rest then none
  else some ((Octets.decimal low, high), rest.drop closing.length)

/-! ### Expressions -/

def peek : Read Octets := do return (← get).rest

def drop (n : Nat) : Read Unit := modify fun s => { s with rest := s.rest.drop n }

/-- Puts repetitions behind an item. -/
def repeated (n : Dialect) : Nat → Regex → Read Regex
  | 0, r => return r
  | fuel + 1, r => do
    let star (size : Nat) (least : Nat) (most : Option Nat) : Read Regex := do
      drop size
      repeated n fuel (.many r least most)
    let braced (opening closing : Octets) : Read Regex := do
      let rest := (← peek).drop opening.length
      match interval? closing rest with
      | some ((least, most), left) =>
        if most.any (· < least) then throw .badInterval
        modify ({ · with rest := left })
        repeated n fuel (.many r least most)
      | none =>
        if n.extended then return r
        else throw (if (Octets.find? closing rest 0).isSome then .badInterval else .unmatchedBrace)
    match ← peek with
    | '*' :: _ => star 1 0 none
    | '+' :: _ => if n.extended then star 1 1 none else return r
    | '?' :: _ => if n.extended then star 1 0 (some 1) else return r
    | '\x7b' :: _ => if n.extended then braced ['\x7b'] ['\x7d'] else return r
    | '\\' :: '+' :: _ => if n.extended then return r else star 2 1 none
    | '\\' :: '?' :: _ => if n.extended then return r else star 2 0 (some 1)
    | '\\' :: '\x7b' :: _ => if n.extended then return r else braced ['\\', '\x7b'] ['\\', '\x7d']
    | _ => return r

/-- Whether a branch ends here. -/
def branchEnds (n : Dialect) (depth : Nat) (cs : Octets) : Bool :=
  match cs with
  | [] => true
  | '|' :: _ => n.extended
  | ')' :: _ => n.extended && 0 < depth
  | '\\' :: '|' :: _ => !n.extended
  | '\\' :: ')' :: _ => !n.extended
  | '\n' :: _ => false
  | _ => false

/-- What a backslash and a character stand for, if they are neither a group nor a repetition. -/
def escaped (n : Dialect) (c : Char) : Read Regex := do
  if c.isDigit && c ≠ '0' then
    let k := c.toNat - '0'.toNat
    unless (← get).closed.contains k do throw .badReference
    return .back k
  match c with
  | 'w' => return .among false wordRanges
  | 'W' => return .among true wordRanges
  | 's' => return .among false spaceRanges
  | 'S' => return .among true spaceRanges
  | 'b' => return .wordEdge
  | 'B' => return .insideWord
  | '<' => return .wordStart
  | '>' => return .wordEnd
  | '\x60' => return .textStart
  | '\'' => return .textEnd
  | _ =>
    match if n.controls then control? c else none with
    | some meant => return .literal meant
    | none =>
      let special := "^$.[]*\\/+?()\x7b\x7d|-".toList
      unless special.contains c do modify fun s => { s with strays := s.strays ++ [c] }
      return .literal c

mutual

/-- Alternatives up to the end or to a closing parenthesis. -/
def alternatives (n : Dialect) : Nat → Nat → Read Regex
  | 0, _ => return .empty
  | fuel + 1, depth => do
    let first ← branch n fuel depth true .empty
    match ← peek with
    | '|' :: _ =>
      if !n.extended then return first
      drop 1
      return .alt first (← alternatives n fuel depth)
    | '\\' :: '|' :: _ =>
      if n.extended then return first
      drop 2
      return .alt first (← alternatives n fuel depth)
    | _ => return first

/-- One branch, item by item. -/
def branch (n : Dialect) : Nat → Nat → Bool → Regex → Read Regex
  | 0, _, _, acc => return acc
  | fuel + 1, depth, atStart, acc => do
    let cs ← peek
    if branchEnds n depth cs then
      if !n.extended && cs.take 2 == ['\\', ')'] && depth = 0 then throw .unmatchedClose
      return acc
    else
      let isAnchor := match cs with
        | '^' :: _ => n.extended || atStart
        | _ => false
      let item ← item n fuel depth atStart
      let item ← if isAnchor && !n.extended then pure item else repeated n (cs.length + 1) item
      branch n fuel depth (isAnchor && !n.extended) (if acc = .empty then item else .seq acc item)

/-- One item without what is repeated behind it. -/
def item (n : Dialect) : Nat → Nat → Bool → Read Regex
  | 0, _, _ => return .empty
  | fuel + 1, depth, atStart => do
    let cs ← peek
    match cs with
    | '.' :: _ =>
      drop 1
      return .any
    | '[' :: rest =>
      match bracket n.controls rest with
      | .error e => throw e
      | .ok (r, left) =>
        modify ({ · with rest := left })
        return r
    | '^' :: _ =>
      drop 1
      return if n.extended || atStart then .lineStart else .literal '^'
    | '$' :: rest =>
      drop 1
      return if n.extended || branchEnds n depth rest then .lineEnd else .literal '$'
    | '(' :: _ =>
      drop 1
      if n.extended then grouped n fuel depth else return .literal '('
    | ')' :: _ =>
      if n.extended && n.strict then throw .unmatchedClose
      drop 1
      return .literal ')'
    | '*' :: _ =>
      if n.extended && atStart then
        if n.strict then throw .nothingToRepeat
        return .empty
      drop 1
      return .literal '*'
    | '+' :: _ | '?' :: _ =>
      if n.extended && atStart then
        if n.strict then throw .nothingToRepeat
        return .empty
      drop 1
      return .literal (cs.headD '+')
    | ['\\'] => throw .trailingBackslash
    | '\\' :: c :: _ =>
      if !n.extended && c = '(' then
        drop 2
        grouped n fuel depth
      else if !n.extended && c = '\x7b' then
        if atStart && n.strict then throw .nothingToRepeat
        drop 2
        return .literal '\x7b'
      else if !n.extended && (c = '+' || c = '?') then
        drop 2
        return .literal c
      else
        drop 2
        escaped n c
    | c :: _ =>
      drop 1
      return .literal c
    | [] => return .empty

/-- A group behind its opening parenthesis. -/
def grouped (n : Dialect) : Nat → Nat → Read Regex
  | 0, _ => return .empty
  | fuel + 1, depth => do
    let k := (← get).groups + 1
    modify ({ · with groups := k })
    let r ← alternatives n fuel (depth + 1)
    let closing : Octets := if n.extended then [')'] else ['\\', ')']
    unless closing.isPrefixOf (← peek) do throw .unmatchedOpen
    drop closing.length
    modify fun s => { s with closed := k :: s.closed }
    return .group k r

end

/-- Reads a whole expression; gives it with the number of its groups and the letters with a needless backslash. -/
def ofOctets (n : Dialect) (cs : Octets) : Except Fault (Regex × Nat × List Char) := do
  let (r, s) ← (alternatives n (4 * cs.length + 8) 0).run ⟨cs, 0, [], []⟩
  match s.rest with
  | [] => return (r, s.groups, s.strays)
  | _ => throw .unmatchedClose

end Regex

end AlloyGrade
