import AlloyGrade.Shell.Token

/-! Reading shell scripts, one complete command at a time. Words are read by a machine with a stack of levels, one
for each quotation style that an expansion has opened. Fuel bounds the length and the nesting of what is read. -/

namespace AlloyGrade.Shell

/-- How characters are taken. -/
inductive Style where
  | plain
  | double
  | single
  | arith
deriving DecidableEq, Repr

structure Level where
  style : Style
  /-- Inside quotes of an expansion that is itself quoted. -/
  inner : Bool
  /-- An expansion has opened the level. -/
  pushed : Bool
  double : Bool
  /-- Open expansions, and those of them that are quoted. -/
  nest : Nat
  quotedNest : Nat
  parens : Nat

namespace Level

def fresh (style : Style) : Level := ⟨style, false, false, style == .double, 0, 0, 0⟩

end Level

/-- What a character does to the word being read. -/
inductive Role where
  | ordinary
  /-- Special elsewhere, but not inside quotes. -/
  | guarded
  | newline
  | backslash
  | single
  | double
  | endQuote
  | dollar
  | endParam
  | openParen
  | closeParen
  | backquote
  | separator
deriving DecidableEq, Repr

def guardedChars : List Char := ['!', '*', '?', '[', '=', '~', ':', '/', '-', ']']

def role (style : Style) (c : Char) : Role :=
  if c = '\n' then .newline
  else match style with
    | .plain =>
      match c with
      | '\\' => .backslash
      | '\'' => .single
      | '"' => .double
      | '\x60' => .backquote
      | '$' => .dollar
      | '\x7d' => .endParam
      | '<' | '>' | '(' | ')' | ';' | '&' | '|' | ' ' | '\t' => .separator
      | _ => .ordinary
    | .double =>
      match c with
      | '\\' => .backslash
      | '"' => .endQuote
      | '\x60' => .backquote
      | '$' => .dollar
      | '\x7d' => .endParam
      | _ => if guardedChars.contains c then .guarded else .ordinary
    | .single => if c = '\'' then .endQuote else if c = '\\' || guardedChars.contains c then .guarded else .ordinary
    | .arith =>
      match c with
      | '\\' => .backslash
      | '\x60' => .backquote
      | '$' => .dollar
      | '\x7d' => .endParam
      | '(' => .openParen
      | ')' => .closeParen
      | _ => .ordinary

/-- Parameters whose names are signs. -/
def isSpecialParam (c : Char) : Bool := c.isDigit || ['!', '$', '*', '-', '@', '#', '?'].contains c

namespace Reader

/-! ### Here-documents -/

def upcoming (s : ReaderState) : Octets := (s.stretches.map (·.text)).flatten ++ s.text

def skipChars (n : Nat) : Reader Unit := modify fun s => { s with text := (upcoming s).drop n, stretches := [] }

/-- At the start of a line of a document: the first character that belongs to it, none at its end. -/
def lineStart (mark : Octets) (stripsTabs : Bool) (c : Option Char) : Reader (Option Char) := do
  let (c, skipped) ← if stripsTabs && c = some '\t' then do
      let rest := upcoming (← get)
      let tabs := (rest.takeWhile (· == '\t')).length
      pure (rest[tabs]?, tabs + 1)
    else pure (c, 0)
  if skipped != 0 then skipChars skipped
  match c with
  | none => return none
  | some first =>
    let line := first :: upcoming (← get)
    let after := line.drop mark.length
    if mark.isPrefixOf line && (after.isEmpty || after.head? = some '\n') then
      skipChars mark.length
      nextLine
      return none
    else return some first

/-! ### Words -/

/-- The characters of a name. -/
def nameChars : Nat → (Char → Bool) → Option Char → Octets → Reader (Octets × Option Char)
  | 0, _, c, acc => return (acc.reverse, c)
  | fuel + 1, accepts, c, acc =>
    match c with
    | some ch => if accepts ch then do nameChars fuel accepts (← nextChar?) (ch :: acc) else return (acc.reverse, c)
    | none => return (acc.reverse, c)

/-- What stands behind the name inside braces. -/
def operation (c : Option Char) : Reader (Operation × Bool × Bool) := do
  let (colon, c) ← if c = some ':' then do pure (true, ← nextChar?) else pure (false, c)
  match c with
  | some '\x7d' => return (.value, colon, false)
  | some '-' => return (.default, colon, false)
  | some '+' => return (.alternative, colon, false)
  | some '?' => return (.complain, colon, false)
  | some '=' => return (.assign, colon, false)
  | some '%' =>
    if colon then return (.bad, colon, false)
    let next ← nextChar?
    if next = some '%' then return (.cutLongEnd, false, true)
    unread next
    return (.cutShortEnd, false, true)
  | some '#' =>
    if colon then return (.bad, colon, false)
    let next ← nextChar?
    if next = some '#' then return (.cutLongStart, false, true)
    unread next
    return (.cutShortStart, false, true)
  | _ => return (.bad, colon, false)

/-- A parameter in braces: its operation, whether a colon stands there, its name, and whether a pattern follows. -/
def braced : Reader (Operation × Bool × Octets × Bool) := do
  let c ← nextChar?
  let limit := (upcoming (← get)).length + 1
  let finish (name : Octets) (c : Option Char) : Reader (Operation × Bool × Octets × Bool) := do
    let (op, colon, pattern) ← operation c
    return (op, colon, name, pattern)
  let finishLength (name : Octets) (c : Option Char) : Reader (Operation × Bool × Octets × Bool) := do
    unread c
    return (if c = some '\x7d' then .length else .bad, false, name, false)
  match c with
  | none => return (.bad, false, [], false)
  | some '\x7d' =>
    unread c
    return (.bad, false, [], false)
  | some ch =>
    if isNameStart ch then
      let (name, c) ← nameChars limit isNameChar c []
      finish name c
    else if ch.isDigit then
      let (name, c) ← nameChars limit Char.isDigit c []
      finish name c
    else if ch = '#' then
      let c ← nextChar?
      match c with
      | some d =>
        if isNameStart d then
          let (name, c) ← nameChars limit isNameChar c []
          finishLength name c
        else if d.isDigit then
          let (name, c) ← nameChars limit Char.isDigit c []
          finishLength name c
        else
          let after ← nextChar?
          if d = '\x7d' || after ≠ some '\x7d' then
            unread after
            finish ['#'] c
          else if isSpecialParam d then finishLength [d] after
          else
            unread after
            return (.bad, false, [], false)
      | none => finish ['#'] none
    else
      let next ← nextChar?
      if isSpecialParam ch then finish [ch] next
      else
        unread next
        return (.bad, false, [], false)

/-- Whether the word so far is nothing, or a single digit, which then names a descriptor. -/
def descriptorOf? (out : List Symbol) (default : Nat) : Option Nat :=
  match out with
  | [] => some default
  | [.char c] => if c.isDigit then some (c.toNat - '0'.toNat) else none
  | _ => none

/-- The kind of redirection behind its first sign. -/
def redirection (c : Char) (out : List Symbol) : Reader Unit := do
  let next ← nextChar?
  let fileAs (fd : Nat) (use : FileUse) : Reader Unit := modify ({ · with redirect := .file fd use [], document := none })
  if c = '>' then
    let fd := (descriptorOf? out 1).getD 1
    match next with
    | some '>' => fileAs fd .append
    | some '|' => fileAs fd .clobber
    | some '&' => modify ({ · with redirect := .named fd false [], document := none })
    | _ =>
      unread next
      fileAs fd .output
  else
    let fd := (descriptorOf? out 0).getD 0
    match next with
    | some '<' =>
      let dash ← nextChar?
      let strips := dash = some '-'
      unless strips do unread dash
      modify fun s => { s with
        redirect := .here fd s.fresh, document := some ⟨s.fresh, [], true, strips⟩, fresh := s.fresh + 1 }
    | some '&' => modify ({ · with redirect := .named fd true [], document := none })
    | some '>' => fileAs fd .both
    | _ =>
      unread next
      fileAs fd .input

/-- The text between old-style backquotes. -/
def backquoted (inDouble : Bool) : Nat → Octets → Reader Octets
  | 0, _ => fail "EOF in backquote substitution"
  | fuel + 1, acc => do
    match ← nextChar? with
    | none => fail "EOF in backquote substitution"
    | some '\x60' => return acc.reverse
    | some '\\' =>
      match ← char? with
      | none => fail "EOF in backquote substitution"
      | some c =>
        let acc := if c ≠ '\\' && c ≠ '\x60' && c ≠ '$' && !(inDouble && c = '"') then '\\' :: acc else acc
        if c = '\n' then nextLine
        backquoted inDouble fuel (c :: acc)
    | some c =>
      if c = '\n' then nextLine
      backquoted inDouble fuel (c :: acc)

/-- What a backslash in front of a character leaves in the word. -/
def backslashed (top : Level) (inDocument : Bool) (c : Char) : List Symbol :=
  let keeps := top.double && c ≠ '\\' && c ≠ '\x60' && c ≠ '$' && (c ≠ '"' || (inDocument && top.nest = 0)) &&
    (c ≠ '\x7d' || top.nest = 0)
  if keeps then [.escaped c, .escaped '\\'] else [.escaped c]

/-- Closes an expansion. -/
def closeParam (top : Level) (below : List Level) : List Level :=
  let nest := top.nest - 1
  if nest = 0 && top.pushed && !below.isEmpty then below
  else { top with nest, quotedNest := top.quotedNest - 1 } :: below

/-- Opens an expansion in braces. -/
def openParam (top : Level) (below : List Level) (pattern : Bool) : List Level :=
  let style : Style := if pattern then .plain else if top.style = .arith then .double else top.style
  let (top, below) : Level × List Level :=
    if style ≠ top.style || top.inner then
      ({ Level.fresh style with pushed := true, double := style ≠ .plain }, top :: below)
    else (top, below)
  { top with nest := top.nest + 1, quotedNest := top.quotedNest + if top.double then 1 else 0 } :: below

/-- What a word came to: its symbols, whether any of it was quoted, the character it stopped at, and the levels
left open. -/
structure Read where
  symbols : List Symbol
  quoted : Bool
  stop : Option Char
  levels : List Level

/-- Reads a mark-free stretch of a word; the end of a word has to leave nothing open. -/
def checkClosed (r : Read) (inDocument : Bool) : Reader Unit := do
  match r.levels with
  | top :: _ =>
    if top.style = .arith then fail "Missing '))'"
    if top.style ≠ .plain && !inDocument then fail "Unterminated quoted string"
    if top.nest ≠ 0 then fail "Missing '\x7d'"
  | [] => return ()

end Reader

end AlloyGrade.Shell
