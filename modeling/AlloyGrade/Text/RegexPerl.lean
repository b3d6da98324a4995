import AlloyGrade.Text.RegexSyntax

/-! The richest dialect of regular expressions: escapes for classes, repetitions that prefer fewer rounds or do not go
back, conditions on what stands around, named groups, and switches inside the expression. -/

namespace AlloyGrade.Regex.Perl

/-- How the expression is read at some place. -/
structure Switches where
  ignoreCase : Bool
  dotAll : Bool
  /-- White space and comments are passed over. -/
  spaced : Bool
  /-- Groups without a name do not capture. -/
  uncounted : Bool
deriving DecidableEq, Repr

structure Reading where
  rest : Octets
  groups : Nat
  names : List (Octets × Nat)
  /-- The highest group that is referred to. -/
  highest : Nat
  switches : Switches

abbrev Read := StateT Reading (Except String)

def next? : Read (Option Char) := return (← get).rest.head?

def advance (n : Nat) : Read Unit := modify fun s => { s with rest := s.rest.drop n }

/-- Passes over a text if it stands here. -/
def accept (text : String) : Read Bool := do
  let s ← get
  if text.toList.isPrefixOf s.rest then
    set { s with rest := s.rest.drop text.length }
    return true
  else return false

/-- The text up to a mark, which is passed over. -/
def upToMark (mark : Char) (missing : String) : Read Octets := do
  let s ← get
  let text := s.rest.takeWhile (· ≠ mark)
  if text.length = s.rest.length then throw missing
  set { s with rest := s.rest.drop (text.length + 1) }
  return text

/-! ### Characters and classes -/

def digits : List (Char × Char) := [('0', '9')]

def blanks : List (Char × Char) := [(' ', ' '), ('\t', '\t'), ('\xa0', '\xa0')]

def lineEnds : List (Char × Char) := [('\n', '\r'), ('\x85', '\x85')]

/-- The octets outside some ranges. -/
def complement (ranges : List (Char × Char)) : List (Char × Char) :=
  (List.range 256).filterMap fun n =>
    let c := Char.ofNat n
    if ranges.any fun (lo, hi) => lo ≤ c && c ≤ hi then none else some (c, c)

/-- The ranges that a letter behind a backslash stands for. -/
def classOf? : Char → Option (List (Char × Char))
  | 'd' => some digits
  | 'D' => some (complement digits)
  | 'w' => some wordRanges
  | 'W' => some (complement wordRanges)
  | 's' => some spaceRanges
  | 'S' => some (complement spaceRanges)
  | 'h' => some blanks
  | 'H' => some (complement blanks)
  | 'v' => some lineEnds
  | 'V' => some (complement lineEnds)
  | 'N' => some (complement [('\n', '\n')])
  | _ => none

/-- The same letters in the other case too. -/
def bothCases (ranges : List (Char × Char)) : List (Char × Char) :=
  let letters := (List.range 26).flatMap fun n => [Char.ofNat ('a'.toNat + n), Char.ofNat ('A'.toNat + n)]
  let within (c : Char) : Bool := ranges.any fun (lo, hi) => lo ≤ c && c ≤ hi
  ranges ++ letters.filterMap fun c =>
    let other := if c.isLower then c.toUpper else c.toLower
    if within c && !within other then some (other, other) else none

def ofRanges (negated : Bool) (ranges : List (Char × Char)) : Read Regex := do
  return .among negated (if (← get).switches.ignoreCase then bothCases ranges else ranges)

def ofChar (c : Char) : Read Regex := do
  if (← get).switches.ignoreCase && c.isAlpha then return .among false [(c.toLower, c.toLower), (c.toUpper, c.toUpper)]
  else return .literal c

def isHex (c : Char) : Bool := c.isDigit || ('a' ≤ c && c ≤ 'f') || ('A' ≤ c && c ≤ 'F')

def hexValue (cs : Octets) : Nat :=
  cs.foldl (fun n c => 16 * n + if c.isDigit then c.toNat - '0'.toNat else c.toLower.toNat - 'a'.toNat + 10) 0

def octalValue (cs : Octets) : Nat := cs.foldl (fun n c => 8 * n + (c.toNat - '0'.toNat)) 0

def isOctal (c : Char) : Bool := '0' ≤ c && c ≤ '7'

def tooLarge : String := "character code point value in \\x\x7b\x7d or \\o\x7b\x7d is too large"

def charOf (n : Nat) : Read Char := if n < 256 then return Char.ofNat n else throw tooLarge

/-- The character that an escape stands for, if it stands for one; its letter has been passed over. -/
def escapedChar? (letter : Char) : Read (Option Char) := do
  let s ← get
  match letter with
  | 'a' => return some '\x07'
  | 'e' => return some '\x1b'
  | 'f' => return some '\x0c'
  | 'n' => return some '\n'
  | 'r' => return some '\r'
  | 't' => return some '\t'
  | 'c' =>
    match s.rest with
    | [] => throw "\\c at end of pattern"
    | c :: _ =>
      advance 1
      return some (Char.ofNat (c.toUpper.toNat ^^^ 64))
  | 'x' =>
    if s.rest.head? = some '\x7b' then
      advance 1
      let text ← upToMark '\x7d' "missing terminating \x7d"
      if text.isEmpty || !text.all isHex then throw "non-hex character in \\x\x7b\x7d (closing brace missing?)"
      return some (← charOf (hexValue text))
    else
      let text := (s.rest.takeWhile isHex).take 2
      advance text.length
      return some (← charOf (hexValue text))
  | 'o' =>
    if s.rest.head? ≠ some '\x7b' then throw "missing opening brace after \\o"
    advance 1
    let text ← upToMark '\x7d' "missing terminating \x7d"
    if text.isEmpty || !text.all isOctal then throw "non-octal character in \\o\x7b\x7d (closing brace missing?)"
    return some (← charOf (octalValue text))
  | '0' =>
    let text := (s.rest.takeWhile isOctal).take 2
    advance text.length
    return some (← charOf (octalValue text))
  | _ => return if letter.isAlphanum then none else some letter

/-! ### Brackets -/

/-- A member of a bracket expression: a character or a class. -/
def member : Read (Sum Char (List (Char × Char))) := do
  let s ← get
  match s.rest with
  | [] => throw "missing terminating ] for character class"
  | '\\' :: c :: _ =>
    advance 2
    match c with
    | 'b' => return .inl '\x08'
    | _ =>
      match classOf? c with
      | some ranges => return .inr ranges
      | none =>
        if isOctal c && c ≠ '0' then
          let text := c :: ((← get).rest.takeWhile isOctal).take 2
          advance (text.length - 1)
          return .inl (← charOf (octalValue text % 256))
        match ← escapedChar? c with
        | some meant => return .inl meant
        | none => throw "unrecognized character follows \\"
  | ['\\'] => throw "\\ at end of pattern"
  | '[' :: ':' :: rest =>
    match upTo ':' rest [] with
    | some (name, after) =>
      let (negated, name) := match name with
        | '^' :: n => (true, n)
        | n => (false, n)
      let named := if name == "word".toList then some wordRanges else className? (String.ofList name)
      match named with
      | some ranges =>
        set { s with rest := after }
        return .inr (if negated then complement ranges else ranges)
      | none => throw "unknown POSIX class name"
    | none =>
      advance 1
      return .inl '['
  | c :: _ =>
    advance 1
    return .inl c

/-- The members of a bracket expression up to its end. -/
def members : Nat → Bool → List (Char × Char) → Read (List (Char × Char))
  | 0, _, _ => throw "missing terminating ] for character class"
  | fuel + 1, first, acc => do
    if !first && (← accept "]") then return acc
    match ← member with
    | .inr ranges => members fuel false (ranges ++ acc)
    | .inl lo =>
      let s ← get
      match s.rest with
      | '-' :: c :: _ =>
        if c = ']' then members fuel false ((lo, lo) :: acc)
        else
          advance 1
          match ← member with
          | .inl hi =>
            if hi < lo then throw "range out of order in character class"
            members fuel false ((lo, hi) :: acc)
          | .inr ranges => members fuel false (ranges ++ ('-', '-') :: (lo, lo) :: acc)
      | _ => members fuel false ((lo, lo) :: acc)

def bracket : Read Regex := do
  let negated ← accept "^"
  let ranges ← members ((← get).rest.length + 1) true []
  ofRanges negated ranges

/-! ### Groups -/

/-- Letters of switches, with a minus sign in front of those that are switched off. -/
def switchLetters (on : Bool) : Switches → Octets → Option Switches
  | s, [] => some s
  | s, '-' :: rest => switchLetters false s rest
  | _, '^' :: rest => switchLetters on ⟨false, false, false, false⟩ rest
  | s, 'i' :: rest => switchLetters on { s with ignoreCase := on } rest
  | s, 's' :: rest => switchLetters on { s with dotAll := on } rest
  | s, 'x' :: rest => switchLetters on { s with spaced := on } rest
  | s, 'n' :: rest => switchLetters on { s with uncounted := on } rest
  | s, 'm' :: rest | s, 'J' :: rest | s, 'U' :: rest => switchLetters on s rest
  | _, _ => none

def groupName (mark : Char) : Read Octets := do
  let name ← upToMark mark "syntax error in subpattern name (missing terminator?)"
  match name with
  | [] => throw "subpattern name expected"
  | c :: _ =>
    if c.isDigit then throw "subpattern name must start with a non-digit"
    if !name.all isWordChar then throw "syntax error in subpattern name (missing terminator?)"
    return name

/-- Refers to a group by its number. -/
def refer (n : Nat) : Read Regex := do
  modify fun s => { s with highest := max s.highest n }
  return .back n

/-- Refers to a group by its name. -/
def referName (name : Octets) : Read Regex := do
  let s ← get
  match s.names.lookup name with
  | some n => return .back n
  | none => throw "reference to non-existent subpattern"

/-- A reference behind `\g`. -/
def referAny (text : Octets) : Read Regex := do
  match text with
  | '-' :: ds =>
    match Octets.decimal? ds with
    | some n =>
      let s ← get
      if n = 0 || s.groups < n then throw "reference to non-existent subpattern"
      refer (s.groups + 1 - n)
    | none => throw "a numbered reference must not be zero"
  | _ =>
    match Octets.decimal? text with
    | some n => if n = 0 then throw "a numbered reference must not be zero" else refer n
    | none => referName text

/-- Whether all texts that an expression matches are of one length, in each of its alternatives. -/
def fixedLength? : Regex → Option Nat
  | .literal _ | .any | .among .. => some 1
  | .seq a b => do return (← fixedLength? a) + (← fixedLength? b)
  | .alt a b => do
    let n ← fixedLength? a
    if some n = fixedLength? b then some n else none
  | .many r n (some m) | .few r n (some m) => if n = m then (fixedLength? r).map (· * n) else none
  | .many .. | .few .. | .back _ => none
  | .group _ r | .atomic r => fixedLength? r
  | .given _ a b => do
    let n ← fixedLength? a
    if some n = fixedLength? b then some n else none
  | _ => some 0

/-- Whether an expression can stand in a condition on what comes before. -/
def canLookBack : Regex → Bool
  | .alt a b => canLookBack a && canLookBack b
  | .group _ (.alt a b) => canLookBack a && canLookBack b
  | r => (fixedLength? r).isSome

/-- The counts of a repetition in braces behind the opening one. -/
def counts? (cs : Octets) : Option (Nat × Option Nat × Nat) :=
  let low := cs.takeWhile Char.isDigit
  match Octets.decimal? low, cs.drop low.length with
  | some n, '\x7d' :: _ => some (n, some n, low.length + 1)
  | some n, ',' :: rest =>
    let high := rest.takeWhile Char.isDigit
    match rest.drop high.length with
    | '\x7d' :: _ => some (n, Octets.decimal? high, low.length + high.length + 2)
    | _ => none
  | _, _ => none

/-- The repetition that stands here. -/
def repetition? : Read (Option (Nat × Option Nat)) := do
  match (← get).rest with
  | '*' :: _ =>
    advance 1
    return some (0, none)
  | '+' :: _ =>
    advance 1
    return some (1, none)
  | '?' :: _ =>
    advance 1
    return some (0, some 1)
  | '\x7b' :: rest =>
    match counts? rest with
    | none => return none
    | some (least, most, size) =>
      if 65535 < least || most.any (65535 < ·) then throw "number too big in \x7b\x7d quantifier"
      if most.any (· < least) then throw "numbers out of order in \x7b\x7d quantifier"
      advance (size + 1)
      return some (least, most)
  | _ => return none

/-- Passes over white space and comments where they do not count. -/
def skipSpace : Nat → Read Unit
  | 0 => return ()
  | fuel + 1 => do
    let s ← get
    if "(?#".toList.isPrefixOf s.rest then
      let _ ← upToMark ')' "missing ) after (?# comment"
      skipSpace fuel
    else if s.switches.spaced then
      match s.rest with
      | '#' :: rest =>
        set { s with rest := (rest.dropWhile (· ≠ '\n')).drop 1 }
        skipSpace fuel
      | c :: _ =>
        if c = ' ' || ('\t' ≤ c && c ≤ '\r') then
          advance 1
          skipSpace fuel
      | [] => return ()

mutual

/-- Alternatives, up to a closing parenthesis or the end. -/
def alternatives : Nat → Read Regex
  | 0 => throw "parentheses are too deeply nested"
  | fuel + 1 => do
    let first ← sequence fuel .empty
    if ← accept "|" then return .alt first (← alternatives fuel) else return first

/-- Parts one after the other. -/
def sequence : Nat → Regex → Read Regex
  | 0, _ => throw "parentheses are too deeply nested"
  | fuel + 1, acc => do
    skipSpace fuel
    match ← next? with
    | none | some '|' | some ')' => return acc
    | some c =>
      let part ← atom fuel c
      match part with
      | none => sequence fuel acc
      | some part =>
        let part ← repeated fuel part
        sequence fuel (if acc = .empty then part else .seq acc part)

/-- What a repetition makes of a part. -/
def repeated : Nat → Regex → Read Regex
  | 0, r => return r
  | fuel + 1, r => do
    skipSpace fuel
    match ← repetition? with
    | none => return r
    | some (least, most) =>
      if ← accept "?" then return .few r least most
      else if ← accept "+" then return .atomic (.many r least most)
      else return .many r least most

/-- One part; `none` if it only changes how the rest is read. -/
def atom : Nat → Char → Read (Option Regex)
  | 0, _ => throw "parentheses are too deeply nested"
  | fuel + 1, c => do
    advance 1
    match c with
    | '(' => group fuel
    | '[' => return some (← bracket)
    | '.' => return some (if (← get).switches.dotAll then .any else .among true [('\n', '\n')])
    | '^' => return some .lineStart
    | '$' => return some .lineEnd
    | '*' | '+' | '?' => throw "quantifier does not follow a repeatable item"
    | '\\' => escape fuel
    | _ => return some (← ofChar c)

/-- An escape behind its backslash. -/
def escape : Nat → Read (Option Regex)
  | 0 => throw "parentheses are too deeply nested"
  | _ + 1 => do
    match ← next? with
    | none => throw "\\ at end of pattern"
    | some c =>
      advance 1
      match c with
      | 'b' => return some .wordEdge
      | 'B' => return some .insideWord
      | 'A' | 'G' => return some .textStart
      | 'z' => return some .textEnd
      | 'Z' => return some (.seq (.many (.literal '\n') 0 (some 1)) .textEnd)
      | 'K' => return some .keep
      | 'R' => return some (.atomic (.alt (.seq (.literal '\r') (.literal '\n')) (.among false lineEnds)))
      | 'X' | 'C' => return some .any
      | 'E' => return none
      | 'Q' =>
        let s ← get
        let text := match Octets.splitAtText "\\E".toList s.rest with
          | some (text, rest) => (text, rest)
          | none => (s.rest, [])
        set { s with rest := text.2 }
        let parts ← text.1.mapM ofChar
        return if parts.isEmpty then none else some (parts.foldr .seq .empty)
      | 'k' =>
        let mark := match ← next? with
          | some '\x7b' => '\x7d'
          | some '<' => '>'
          | _ => '\x27'
        advance 1
        return some (← referName (← groupName mark))
      | 'g' =>
        if ← accept "\x7b" then return some (← referAny (← upToMark '\x7d' "missing terminating \x7d"))
        let text := (← get).rest.takeWhile fun d => d.isDigit || d = '-'
        advance text.length
        return some (← referAny text)
      | 'p' | 'P' =>
        let name ← if ← accept "\x7b" then upToMark '\x7d' "malformed \\P or \\p sequence" else do
          let n := (← get).rest.take 1
          advance 1
          pure n
        let (negated, name) : Bool × Octets := match name with
          | '^' :: n => (c == 'p', n)
          | n => (c == 'P', n)
        let ranges : Option (List (Char × Char)) := match String.ofList name with
          | "L" | "Alphabetic" => some [('a', 'z'), ('A', 'Z')]
          | "Lu" => some [('A', 'Z')]
          | "Ll" => some [('a', 'z')]
          | "N" | "Nd" => some digits
          | "P" => some [('!', '#'), ('%', '*'), (',', '/'), (':', ';'), ('?', '@'), ('[', ']'), ('_', '_'), ('\x7b', '\x7b'), ('\x7d', '\x7d')]
          | "S" => some [('$', '$'), ('+', '+'), ('<', '>'), ('^', '^'), ('\x60', '\x60'), ('|', '|'), ('~', '~')]
          | "Z" | "Zs" => some [(' ', ' ')]
          | "Any" => some [('\x00', '\xff')]
          | "Xan" => some [('a', 'z'), ('A', 'Z'), ('0', '9')]
          | "Xwd" => some wordRanges
          | "Xsp" | "Xps" => some spaceRanges
          | _ => none
        match ranges with
        | some ranges => return some (← ofRanges negated ranges)
        | none => throw "unknown property after \\P or \\p"
      | _ =>
        match classOf? c with
        | some ranges => return some (.among false ranges)
        | none =>
          if c.isDigit && c ≠ '0' then
            let s ← get
            let more := s.rest.takeWhile Char.isDigit
            let n := (Octets.decimal? (c :: more)).getD 0
            if n < 10 || n ≤ s.groups then
              advance more.length
              return some (← refer n)
            else
              let text := c :: (s.rest.takeWhile isOctal).take 2
              if isOctal c then
                advance (text.length - 1)
                return some (← ofChar (← charOf (octalValue text % 256)))
              else
                advance more.length
                return some (← refer n)
          else
            match ← escapedChar? c with
            | some meant => return some (← ofChar meant)
            | none => throw "unrecognized character follows \\"

/-- The inside of a group and its closing parenthesis. -/
def closed : Nat → Read Regex
  | 0 => throw "parentheses are too deeply nested"
  | fuel + 1 => do
    let before := (← get).switches
    let r ← alternatives fuel
    unless ← accept ")" do throw "missing closing parenthesis"
    modify ({ · with switches := before })
    return r

/-- A group that captures. -/
def capturing : Nat → Option Octets → Read Regex
  | 0, _ => throw "parentheses are too deeply nested"
  | fuel + 1, name => do
    let s ← get
    let n := s.groups + 1
    set { s with groups := n, names := (name.map (·, n)).toList ++ s.names }
    return .group n (← closed fuel)

/-- A group behind its opening parenthesis. -/
def group : Nat → Read (Option Regex)
  | 0 => throw "parentheses are too deeply nested"
  | fuel + 1 => do
    let look (ahead negated : Bool) : Read (Option Regex) := do
      let r ← closed fuel
      if !ahead && !canLookBack r then throw "lookbehind assertion is not fixed length"
      return some (.look ahead negated r)
    if !(← accept "?") then
      if (← get).switches.uncounted then return some (← closed fuel) else return some (← capturing fuel none)
    else if ← accept ":" then return some (← closed fuel)
    else if ← accept "|" then return some (← closed fuel)
    else if ← accept ">" then return some (.atomic (← closed fuel))
    else if ← accept "=" then look true false
    else if ← accept "!" then look true true
    else if ← accept "<=" then look false false
    else if ← accept "<!" then look false true
    else if ← accept "P=" then return some (← referName (← groupName ')'))
    else if (← accept "P<") || (← accept "<") then
      let name ← groupName '>'
      return some (← capturing fuel (some name))
    else if ← accept "'" then
      let name ← groupName '\x27'
      return some (← capturing fuel (some name))
    else if ← accept "(" then
      let text ← upToMark ')' "missing closing parenthesis for condition"
      let bare := text.filter fun c => c ≠ '<' && c ≠ '>' && c ≠ '\x27'
      let n ← match Octets.decimal? bare, (← get).names.lookup bare with
        | some n, _ => pure n
        | none, some n => pure n
        | none, none => throw "reference to non-existent subpattern"
      modify fun s => { s with highest := max s.highest n }
      match ← closed fuel with
      | .alt yes no => return some (.given n yes no)
      | yes => return some (.given n yes .empty)
    else
      let s ← get
      let letters := s.rest.takeWhile fun c => c.isAlpha || c = '-' || c = '^'
      match switchLetters true s.switches letters, s.rest.drop letters.length with
      | some switches, ')' :: rest =>
        set { s with rest, switches }
        return none
      | some switches, ':' :: rest =>
        set { s with rest, switches }
        let r ← closed fuel
        modify ({ · with switches := s.switches })
        return some r
      | some _, [] => throw "missing closing parenthesis"
      | _, _ => throw "unrecognized character after (? or (?-"

end

/-- Reads an expression; letters may be the same in both cases from the start. -/
def ofOctets (ignoreCase : Bool) (text : Octets) : Except String Regex := do
  let start : Reading := ⟨text, 0, [], 0, ⟨ignoreCase, false, false, false⟩⟩
  let (r, left) ← (alternatives (4 * text.length + 10)).run start
  if !left.rest.isEmpty then throw "unmatched closing parenthesis"
  if left.groups < left.highest then throw "reference to non-existent subpattern"
  return r

/-- The way that the expression prefers from a place on: where the match starts and ends. -/
def preferredAt (r : Regex) (text : Array Char) (p : Nat) : Option (Nat × Nat) :=
  match Regex.ends ⟨false, true⟩ text r.refersBack r p [] with
  | [] => none
  | (q, groups) :: _ => some (((groups.lookup 0).map (·.1)).getD p, q)

/-- An expression between the borders of words. -/
def asWord (r : Regex) : Regex :=
  .seq (.look false true (.among false wordRanges)) (.seq r (.look true true (.among false wordRanges)))

/-- An expression for whole lines. -/
def asLine (r : Regex) : Regex := .seq .lineStart (.seq r .lineEnd)

end AlloyGrade.Regex.Perl
