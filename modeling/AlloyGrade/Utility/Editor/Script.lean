import AlloyGrade.Text.RegexSyntax
import AlloyGrade.Utility.Write

/-! Scripts of the stream editor: commands with addresses, read from text. -/

namespace AlloyGrade.Utility.Editor

/-! ### Commands -/

/-- An expression to look for; none stands for the one used last. -/
structure Matcher where
  regex : Option Regex
  mode : Regex.Mode

inductive Address where
  | line (n : Nat)
  | last
  | text (m : Matcher)
  | step (first stride : Nat)

/-- Where a range of lines ends. -/
inductive Bound where
  | line (n : Nat)
  | last
  | text (m : Matcher)
  /-- So many lines later. -/
  | later (n : Nat)
  /-- At the next line whose number is a multiple. -/
  | multiple (n : Nat)

/-- A change of case in a replacement. -/
inductive Case where
  | upper
  | lower
  | upperOnce
  | lowerOnce
  | stop
deriving DecidableEq

inductive Piece where
  | text (cs : Octets)
  | group (n : Nat)
  | case (c : Case)

structure Substitution where
  what : Matcher
  replacement : List Piece
  /-- The first match that is replaced, and whether all behind it are too. -/
  nth : Nat
  all : Bool
  prints : Bool
  file : Option Octets

inductive Action where
  | open_ (close : Nat)
  | close
  | label (name : Octets)
  | branch (name : Octets)
  | branchIf (name : Octets)
  | branchUnless (name : Octets)
  | append (text : Octets)
  | insert (text : Octets)
  | change (text : Octets)
  | delete
  | deleteFirst
  | print
  | printFirst
  | get_
  | getAppend
  | hold
  | holdAppend
  | exchange
  | next
  | nextAppend
  | quit (code : Nat)
  | quitSilently (code : Nat)
  | number
  | list (width : Option Nat)
  | read (file : Octets)
  | readLine (file : Octets)
  | write (file : Octets)
  | writeFirst (file : Octets)
  | substitute (s : Substitution)
  | translate (pairs : List (Char × Char))
  | clear
  | fileName
  | nothing

structure Command where
  start : Option Address
  stop : Option Bound
  negated : Bool
  action : Action

/-! ### Reading -/

/-- A place in a script and what is wrong there. -/
structure Fault where
  position : Nat
  message : Octets

structure Reading where
  rest : Octets
  position : Nat
  extended : Bool

abbrev Read := StateT Reading (Except Fault)

variable {α : Type}

def fault (message : String) : Read α := do throw ⟨(← get).position, message.toList⟩

/-- A fault that has no place. -/
def faultAtStart (message : String) : Read α := throw ⟨0, message.toList⟩

def peek? : Read (Option Char) := do return (← get).rest.head?

def next? : Read (Option Char) := do
  let s ← get
  match s.rest with
  | c :: rest =>
    set { s with rest, position := s.position + 1 }
    return some c
  | [] => return none

def skip (n : Nat) : Read Unit := modify fun s => { s with rest := s.rest.drop n, position := s.position + (s.rest.take n).length }

/-- Takes characters as long as a test holds. -/
def takeWhile (test : Char → Bool) : Read Octets := do
  let cs := (← get).rest.takeWhile test
  skip cs.length
  return cs

def isBlank (c : Char) : Bool := c = ' ' || c = '\t'

def isSpace (c : Char) : Bool := c = ' ' || (9 ≤ c.toNat && c.toNat ≤ 13)

def number : Read Nat := do return Octets.decimal (← takeWhile Char.isDigit)

/-- How a delimited text goes on: plainly, or in brackets, of which the first character has still to come. -/
inductive Inside where
  | plain
  | bracket (first : Bool)
  | bracketClass (mark : Char)
deriving DecidableEq

/-- The text up to a delimiter. An escaped delimiter stands for itself; brackets of an expression hide delimiters. -/
def delimited (delimiter : Char) (isRegex : Bool) : Nat → Inside → Octets → Read (Option Octets)
  | 0, _, _ => return none
  | fuel + 1, inside, acc => do
    match ← next? with
    | none => return none
    | some c =>
      match inside with
      | .bracketClass mark =>
        if c = mark && (← peek?) = some ']' then
          let _ ← next?
          delimited delimiter isRegex fuel (.bracket false) (']' :: c :: acc)
        else delimited delimiter isRegex fuel inside (c :: acc)
      | .bracket first =>
        if c = '\n' then return none
        else if c = ']' && !first then delimited delimiter isRegex fuel .plain (c :: acc)
        else if c = '[' && [some ':', some '.', some '='].contains (← peek?) then
          let mark := (← next?).getD ':'
          delimited delimiter isRegex fuel (.bracketClass mark) (mark :: c :: acc)
        else delimited delimiter isRegex fuel (.bracket (first && c = '^' && acc.head? = some '[')) (c :: acc)
      | .plain =>
        if c = delimiter then return some acc.reverse
        else if c = '\n' && isRegex then return none
        else if c = '\\' then
          match ← next? with
          | none => return none
          | some d =>
            if d = delimiter then delimited delimiter isRegex fuel .plain (d :: if isRegex || d ≠ '&' then acc else '\\' :: acc)
            else delimited delimiter isRegex fuel .plain (d :: c :: acc)
        else if c = '[' && isRegex && delimiter ≠ '[' then delimited delimiter isRegex fuel (.bracket true) (c :: acc)
        else delimited delimiter isRegex fuel .plain (c :: acc)

def readDelimited (delimiter : Char) (isRegex : Bool) : Read (Option Octets) := do
  delimited delimiter isRegex ((← get).rest.length + 1) .plain []

/-- The expression that a text spells; gives the number of its groups too. -/
def matcher (text : Octets) (mode : Regex.Mode) : Read (Matcher × Nat) := do
  if text.isEmpty then return (⟨none, mode⟩, 9)
  match Regex.ofOctets ⟨(← get).extended, true, true⟩ text with
  | .ok (r, groups, _) => return (⟨some r, mode⟩, groups)
  | .error e => fault e.message

/-- Flags behind an expression in an address. -/
def addressMode : Nat → Regex.Mode → Read Regex.Mode
  | 0, m => return m
  | fuel + 1, m => do
    match ← peek? with
    | some 'I' =>
      skip 1
      addressMode fuel { m with ignoreCase := true }
    | some 'M' =>
      skip 1
      addressMode fuel { m with multiline := true }
    | _ => return m

/-- An expression as an address. -/
def addressText (delimiter : Char) : Read Matcher := do
  match ← readDelimited delimiter true with
  | none => fault "unterminated address regex"
  | some text =>
    let mode ← addressMode 4 ⟨false, false⟩
    return (← matcher text mode).1

def address? : Read (Option Address) := do
  match ← peek? with
  | some '/' =>
    skip 1
    return some (.text (← addressText '/'))
  | some '\\' =>
    skip 1
    match ← next? with
    | some c => return some (.text (← addressText c))
    | none => fault "unexpected \x60,'"
  | some '$' =>
    skip 1
    return some .last
  | some c =>
    if c.isDigit then
      let n ← number
      let _ ← takeWhile isBlank
      if (← peek?) = some '~' then
        skip 1
        return some (.step n (← number))
      else return some (.line n)
    else return none
  | none => return none

def bound? : Read (Option Bound) := do
  match ← peek? with
  | some '+' =>
    skip 1
    return some (.later (← number))
  | some '~' =>
    skip 1
    return some (.multiple (← number))
  | _ =>
    match ← address? with
    | some (.line n) => return some (.line n)
    | some .last => return some .last
    | some (.text m) => return some (.text m)
    | some (.step n _) => return some (.line n)
    | none => return none

/-! ### Replacements -/

/-- The character behind a backslash and a letter that gives its number. -/
def numbered? (c : Char) (rest : Octets) : Option (Char × Octets) :=
  let read (base width : Nat) (isDigit : Char → Bool) : Option (Char × Octets) :=
    let ds := (rest.take width).takeWhile isDigit
    if ds.isEmpty then none else some (Octets.octet (numberIn base ds), rest.drop ds.length)
  match c with
  | 'x' => read 16 2 isHexDigit
  | 'o' => read 8 3 isOctalDigit
  | 'd' => read 10 3 Char.isDigit
  | _ => none

/-- The pieces of a replacement. -/
def replacementPieces : Nat → Octets → List Piece
  | 0, _ => []
  | _, [] => []
  | fuel + 1, '\\' :: c :: rest =>
    if c.isDigit then .group (c.toNat - '0'.toNat) :: replacementPieces fuel rest
    else match c with
      | '&' => .text ['&'] :: replacementPieces fuel rest
      | 'U' => .case .upper :: replacementPieces fuel rest
      | 'L' => .case .lower :: replacementPieces fuel rest
      | 'u' => .case .upperOnce :: replacementPieces fuel rest
      | 'l' => .case .lowerOnce :: replacementPieces fuel rest
      | 'E' => .case .stop :: replacementPieces fuel rest
      | _ =>
        match Regex.control? c, numbered? c rest with
        | some meant, _ => .text [meant] :: replacementPieces fuel rest
        | none, some (meant, rest) => .text [meant] :: replacementPieces fuel rest
        | none, none => .text [c] :: replacementPieces fuel rest
  | fuel + 1, '&' :: rest => .group 0 :: replacementPieces fuel rest
  | fuel + 1, c :: rest => .text [c] :: replacementPieces fuel rest

/-- The highest group that a replacement refers to. -/
def highestGroup (pieces : List Piece) : Nat :=
  pieces.foldl (fun n p => match p with
    | .group k => max n k
    | _ => n) 0

/-- The name of a file up to the end of the line. -/
def fileNameArg : Read Octets := do
  let _ ← takeWhile isBlank
  let name ← takeWhile (· ≠ '\n')
  if name.isEmpty then fault "missing filename in r/R/w/W commands"
  return name

/-- What stands behind a command may only be its end. -/
def endOfCommand : Read Unit := do
  let _ ← takeWhile isBlank
  match ← peek? with
  | none | some '\x7d' | some '#' => return ()
  | some ';' | some '\n' => skip 1
  | some '\r' => skip 1
  | _ =>
    skip 1
    fault "extra characters after command"

structure Flags where
  nth : Option Nat
  all : Bool
  prints : Bool
  mode : Regex.Mode
  file : Option Octets

def substituteFlags : Nat → Flags → Read Flags
  | 0, f => return f
  | fuel + 1, f => do
    match ← peek? with
    | some 'g' =>
      skip 1
      if f.all then fault "multiple \x60g' options to \x60s' command"
      substituteFlags fuel { f with all := true }
    | some 'p' =>
      skip 1
      if f.prints then fault "multiple \x60p' options to \x60s' command"
      substituteFlags fuel { f with prints := true }
    | some 'i' | some 'I' =>
      skip 1
      substituteFlags fuel { f with mode := { f.mode with ignoreCase := true } }
    | some 'm' | some 'M' =>
      skip 1
      substituteFlags fuel { f with mode := { f.mode with multiline := true } }
    | some 'e' =>
      skip 1
      substituteFlags fuel f
    | some 'w' =>
      skip 1
      return { f with file := some (← fileNameArg) }
    | some c =>
      if c.isDigit then
        let n ← number
        if f.nth.isSome then fault "multiple number options to \x60s' command"
        if n = 0 then fault "number option to \x60s' command may not be zero"
        substituteFlags fuel { f with nth := some n }
      else if [' ', '\t', '\n', '\r', ';', '#', '\x7d'].contains c then return f
      else
        skip 1
        fault "unknown option to \x60s'"
    | none => return f

def substitution : Read Substitution := do
  match ← next? with
  | none => fault "unterminated \x60s' command"
  | some delimiter =>
    match ← readDelimited delimiter true with
    | none => fault "unterminated \x60s' command"
    | some pattern =>
      match ← readDelimited delimiter false with
      | none => fault "unterminated \x60s' command"
      | some replacement =>
        let f ← substituteFlags 100 ⟨none, false, false, ⟨false, false⟩, none⟩
        let (what, groups) ← matcher pattern f.mode
        let pieces := replacementPieces (replacement.length + 1) replacement
        if groups < highestGroup pieces then
          fault ("invalid reference \\" ++ toString (highestGroup pieces) ++ " on \x60s' command's RHS")
        return ⟨what, pieces, f.nth.getD 1, f.all, f.prints, f.file⟩

/-- The characters of one side of a translation. -/
def translationChars : Octets → Octets
  | '\\' :: '\\' :: rest => '\\' :: translationChars rest
  | '\\' :: c :: rest =>
    match Regex.control? c with
    | some meant => meant :: translationChars rest
    | none => '\\' :: c :: translationChars rest
  | c :: rest => c :: translationChars rest
  | [] => []

def translation : Read (List (Char × Char)) := do
  let unterminated := "unterminated \x60y' command"
  match ← next? with
  | none => fault unterminated
  | some delimiter =>
    match ← readDelimited delimiter false with
    | none => fault unterminated
    | some a =>
      match ← readDelimited delimiter false with
      | none => fault unterminated
      | some b =>
        let taken := translationChars a
        let onto := translationChars b
        if taken.length ≠ onto.length then fault "strings for \x60y' command are different lengths"
        return taken.zip onto

/-- The lines of a text up to one that does not end in a backslash. -/
def textLines : Nat → Octets → Read Octets
  | 0, acc => return acc.reverse
  | fuel + 1, acc => do
    match ← next? with
    | none => return ('\n' :: acc).reverse
    | some '\n' => return ('\n' :: acc).reverse
    | some '\\' =>
      match ← next? with
      | none => return acc.reverse
      | some c => textLines fuel (c :: acc)
    | some c => textLines fuel (c :: acc)

/-- The text of a command that adds lines. -/
def addedText : Read Octets := do
  let _ ← takeWhile isBlank
  match ← peek? with
  | none => fault "expected \\ after \x60a', \x60c' or \x60i'"
  | some '\\' =>
    skip 1
    let blanks ← takeWhile isBlank
    match ← peek? with
    | some '\n' => skip 1
    | none => return []
    | _ => modify fun s => { s with rest := blanks ++ s.rest, position := s.position - blanks.length }
  | _ => pure ()
  textLines ((← get).rest.length + 1) []

/-- The name of a label up to a blank or a semicolon. -/
def labelName : Read Octets := do
  let _ ← takeWhile isBlank
  takeWhile fun c => !isSpace c && c ≠ ';'

/-- A number behind a command, if there is one. -/
def optionalNumber : Read (Option Nat) := do
  let _ ← takeWhile isBlank
  match ← peek? with
  | some c => if c.isDigit then return some (← number) else return none
  | none => return none

/-- A command behind its addresses. -/
def action (c : Char) (hasAddress hasRange : Bool) : Read Action := do
  let simple (a : Action) : Read Action := do
    endOfCommand
    return a
  match c with
  | '\x7b' => return .open_ 0
  | '\x7d' =>
    if hasAddress then fault "unexpected \x60\x7d'"
    endOfCommand
    return .close
  | ':' =>
    if hasAddress then fault ": doesn't want any addresses"
    let _ ← takeWhile isBlank
    let name ← takeWhile fun c => !isSpace c && c ≠ ';'
    if name.isEmpty then fault "\":\" lacks a label"
    return .label name
  | '=' => simple .number
  | 'a' => return .append (← addedText)
  | 'i' => return .insert (← addedText)
  | 'c' => return .change (← addedText)
  | 'b' =>
    let name ← labelName
    simple (.branch name)
  | 't' =>
    let name ← labelName
    simple (.branchIf name)
  | 'T' =>
    let name ← labelName
    simple (.branchUnless name)
  | 'd' => simple .delete
  | 'D' => simple .deleteFirst
  | 'p' => simple .print
  | 'P' => simple .printFirst
  | 'g' => simple .get_
  | 'G' => simple .getAppend
  | 'h' => simple .hold
  | 'H' => simple .holdAppend
  | 'x' => simple .exchange
  | 'n' => simple .next
  | 'N' => simple .nextAppend
  | 'q' | 'Q' =>
    if hasRange then fault "command only uses one address"
    let code ← optionalNumber
    simple (if c = 'q' then .quit (code.getD 0) else .quitSilently (code.getD 0))
  | 'l' =>
    let width ← optionalNumber
    simple (.list width)
  | 'r' => return .read (← fileNameArg)
  | 'R' => return .readLine (← fileNameArg)
  | 'w' => return .write (← fileNameArg)
  | 'W' => return .writeFirst (← fileNameArg)
  | 's' =>
    let s ← substitution
    simple (.substitute s)
  | 'y' =>
    let pairs ← translation
    simple (.translate pairs)
  | 'z' => simple .clear
  | 'F' => simple .fileName
  | 'v' =>
    let _ ← labelName
    simple .nothing
  | '#' =>
    if hasAddress then fault "comments don't accept any addresses"
    let _ ← takeWhile (· ≠ '\n')
    return .nothing
  | c => fault ("unknown command: \x60" ++ String.ofList [c] ++ "'")

/-- Commands up to the end of the script, last first; the depth counts open groups. -/
def commands : Nat → Nat → List Command → Read (List Command)
  | 0, _, acc => return acc
  | fuel + 1, depth, acc => do
    let _ ← takeWhile fun c => isSpace c || c = ';'
    match ← peek? with
    | none =>
      if 0 < depth then faultAtStart "unmatched \x60\x7b'"
      return acc
    | some _ =>
      let start ← address?
      let stop ← match start with
        | none => pure none
        | some _ => do
          let _ ← takeWhile isBlank
          if (← peek?) = some ',' then
            skip 1
            let _ ← takeWhile isBlank
            match ← bound? with
            | some b => pure (some b)
            | none =>
              let _ ← next?
              fault "unexpected \x60,'"
          else pure none
      match start, stop with
      | some (.line 0), some (.text _) => pure ()
      | some (.line 0), _ =>
        let _ ← takeWhile isBlank
        let _ ← next?
        fault "invalid usage of line address 0"
      | _, _ => pure ()
      let _ ← takeWhile isBlank
      let negated := (← peek?) = some '!'
      if negated then
        skip 1
        let _ ← takeWhile isBlank
        if (← peek?) = some '!' then
          skip 1
          fault "multiple \x60!'s"
      match ← next? with
      | none => fault "missing command"
      | some c =>
        if c = '\x7d' && depth = 0 then fault "unexpected \x60\x7d'"
        let a ← action c start.isSome stop.isSome
        let depth := match a with
          | .open_ _ => depth + 1
          | .close => depth - 1
          | _ => depth
        commands fuel depth (⟨start, stop, negated, a⟩ :: acc)

/-- The place of the bracket that closes a group, from a place on. -/
def closing (cs : Array Command) : Nat → Nat → Nat → Nat
  | 0, i, _ => i
  | fuel + 1, i, depth =>
    match (cs[i]?).map Command.action with
    | some (.open_ _) => closing cs fuel (i + 1) (depth + 1)
    | some .close => if depth = 0 then i else closing cs fuel (i + 1) (depth - 1)
    | some _ => closing cs fuel (i + 1) depth
    | none => i

/-- A script with its groups linked. -/
def script (extended : Bool) (text : Octets) : Except Fault (Array Command) := do
  let (cs, _) ← (commands (text.length + 1) 0 []).run ⟨text, 0, extended⟩
  let cs := cs.reverse.toArray
  return cs.mapIdx fun i c => match c.action with
    | .open_ _ => { c with action := .open_ (closing cs (cs.size + 1) (i + 1) 0) }
    | _ => c

end AlloyGrade.Utility.Editor
