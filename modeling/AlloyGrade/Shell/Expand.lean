import AlloyGrade.Shell.Arithmetic
import AlloyGrade.Shell.Field
import AlloyGrade.Shell.State

/-! Expansion of words: tildes, parameters, commands and arithmetic, then fields and names of files. How a command is
run to get its output is left open here. -/

namespace AlloyGrade.Shell

open Process

/-- What a word is expanded for. -/
structure Purpose where
  /-- Into fields. -/
  full : Bool
  /-- Into a pattern. -/
  pattern : Bool
  tilde : Bool
  /-- Tildes behind the equals sign and behind colons. -/
  tildesInside : Bool
  /-- The equals sign has been passed. -/
  pastEquals : Bool
  /-- Part of an expansion in braces. -/
  inBraces : Bool
  quoted : Bool
  /-- Only to find the end. -/
  discard : Bool
deriving DecidableEq, Repr

namespace Purpose

def none_ : Purpose := ⟨false, false, false, false, false, false, false, false⟩
def fields : Purpose := { none_ with full := true, tilde := true }
def text : Purpose := { none_ with tilde := true }
def assignment : Purpose := { none_ with tildesInside := true }
def pattern_ : Purpose := { none_ with tilde := true, pattern := true }
def document : Purpose := { none_ with quoted := true }

/-- Whether quotation has to be remembered. -/
def keepsQuotes (p : Purpose) : Bool := p.full || p.pattern

end Purpose

/-- The letters of options, in the order they are listed. -/
def optionLetters : List Char := ['e', 'f', 'I', 'i', 'm', 'n', 's', 'x', 'v', 'V', 'E', 'C', 'a', 'b', 'u', 'p']

namespace Expansion

/-- What a parameter stands for. -/
inductive Value where
  | unset
  | text (cs : Octets)
  | list (items : List Octets)

def valueOf (s : State) (name : Octets) : Value :=
  match name with
  | ['@'] | ['*'] => .list s.params
  | ['$'] => .text (Octets.ofNat s.root)
  | ['?'] => .text (Octets.ofNat s.status)
  | ['#'] => .text (Octets.ofNat s.params.length)
  | ['!'] => if s.background = 0 then .unset else .text (Octets.ofNat s.background)
  | ['-'] => .text (optionLetters.filter s.options.contains).reverse
  | c :: _ =>
    if c.isDigit then
      match Octets.decimal name with
      | 0 => .text s.name
      | n + 1 =>
        match s.params[n]? with
        | some p => .text p
        | none => .unset
    else match (s.vars.lookup name).bind (·.value) with
      | some value => .text value
      | none => .unset
  | [] => .unset

/-- What stands between the parameters when they are listed. -/
def between (s : State) (isAt : Bool) (p : Purpose) : Option Char :=
  if isAt && p.quoted && p.full then some joint
  else match s.value? "IFS" with
    | none => some ' '
    | some ifs => if p.full && !p.quoted then some joint else ifs.head?

/-- The characters of a value as glyphs. -/
def glyphs (p : Purpose) (cs : Octets) : List Glyph :=
  (cs.filter (· ≠ joint)).map fun c => if p.quoted && p.keepsQuotes then .quoted c else .plain c

/-- The length of a parameter, or `none` if it is unset, with its glyphs. -/
def measured (s : State) (name : Octets) (p : Purpose) : Option Nat × List Glyph :=
  match valueOf s name with
  | .unset => (none, [])
  | .text cs => (some cs.length, glyphs p cs)
  | .list items =>
    let separator := (between s (name == ['@']) p).toList
    let parts := items.map (glyphs p)
    let joined := (separator.map Glyph.plain).intercalate parts
    (some ((items.map (·.length)).foldl (· + ·) 0 + separator.length * (items.length - 1)), joined)

/-- Where a home directory is. -/
def home? (s : State) (user : Octets) : Option Octets :=
  if user.isEmpty then s.value? "HOME" else if user == "root".toList then some "/root".toList else none

/-- A tilde with the name behind it, and what follows. -/
def tilde? (s : State) (p : Purpose) (rest : Word) : Option (Octets × Word) :=
  let name := rest.takeWhile fun
    | .char c => c ≠ '/' && !(p.tildesInside && c = ':')
    | _ => false
  let after := rest.drop name.length
  let ends := match after with
    | [] | .char _ :: _ | .paramEnd :: _ => true
    | _ => false
  if ends then (home? s (Word.plain name)).map ((·, after)) else none

/-- Complains about a parameter that is not set. -/
def notSet {α : Type} (name : Octets) (message : Option Octets) (orNull : Bool) : Sh α :=
  match message with
  | some text => Sh.fail (name ++ ": ".toList ++ text)
  | none => Sh.fail (name ++ ": parameter not set".toList ++ if orNull then " or null".toList else [])

/-- Works an arithmetic expression out. -/
def arithmetic (text : Octets) : Sh Int := do
  let s ← get
  let context : Arithmetic.Context :=
    ⟨fun name => (s.vars.lookup name).bind (·.value), fun name => (s.vars.lookup name).any (·.readOnly)⟩
  match Arithmetic.evaluate context text with
  | .ok (n, assigned) =>
    for (name, value) in assigned do
      Sh.assign name (Octets.ofInt value)
    return n
  | .error (.expression message) =>
    Sh.fail (Octets.ofString ("arithmetic expression: " ++ message ++ ": \"") ++ text ++ ['"'])
  | .error (.illegalNumber bad) => Sh.fail ("Illegal number: ".toList ++ bad)
  | .error (.readOnly name) => Sh.fail (name ++ ": is read only".toList)

/-- The plain characters at the start of a word. -/
def stretch : Word → Octets
  | .char c :: rest => c :: stretch rest
  | _ => []

/-- Whether the symbols that follow are all parameters, and the closing quote. -/
def isAllParameters : Word → Bool
  | .param .value false ['@'] :: .quote :: _ => true
  | _ => false

mutual

/-- Expands symbols up to the end of the word or of the enclosing expansion, and returns what follows. -/
def walk (run : Node → Sh Octets) : Nat → Purpose → Bool → Word → Line → Sh (Word × Line)
  | 0, _, _, rest, line => return (rest, line)
  | fuel + 1, p, inQuotes, symbols, line => do
    let here := { p with quoted := p.quoted || inQuotes }
    match symbols with
    | [] => return ([], line)
    | .paramEnd :: rest | .arithEnd :: rest => return (rest, line)
    | .char c :: rest =>
      if p.tildesInside then
        let startsTilde := (c = '=' && !p.pastEquals) || c = ':'
        let p := if c = '=' then { p with pastEquals := true } else p
        let line := if p.discard then line else line.push (.plain c)
        match startsTilde, rest with
        | true, .char '~' :: _ => tildeFirst run fuel p inQuotes rest line
        | _, _ => walk run fuel p inQuotes rest line
      else
        let literal := stretch symbols
        let rest := symbols.drop literal.length
        if p.discard then walk run fuel p inQuotes rest line
        else
          let start := line.size
          let line := line.append (literal.map Glyph.plain)
          let line := if p.inBraces && !p.quoted && !inQuotes then line.mark start false else line
          walk run fuel p inQuotes rest line
    | .escaped c :: rest =>
      if p.discard then walk run fuel p inQuotes rest line
      else walk run fuel p inQuotes rest (line.push (if p.keepsQuotes then .quoted c else .plain c))
    | .quote :: rest =>
      if !inQuotes && isAllParameters rest then
        let (_, line) ← parameter run fuel { p with quoted := true } .value false ['@'] [] line
        walk run fuel p inQuotes (rest.drop 2) line
      else
        let line := if p.keepsQuotes && !p.discard then line.push .mark else line
        walk run fuel p (!inQuotes) rest line
    | .param op colon name :: rest =>
      let (rest, line) ← parameter run fuel here op colon name rest line
      walk run fuel p inQuotes rest line
    | .command body :: rest =>
      if p.discard then walk run fuel p inQuotes rest line
      else
        let output := (← run body).filter (· ≠ joint)
        let trimmed := (output.reverse.dropWhile (· == '\n')).reverse
        let start := line.size
        let line := line.append (glyphs here trimmed)
        let line := if here.quoted then line else line.mark start false
        walk run fuel p inQuotes rest line
    | .arith :: rest =>
      let start := line.size
      let (rest, line) ← walk run fuel { Purpose.none_ with discard := p.discard } false rest line
      if p.discard then walk run fuel p inQuotes rest line
      else
        let text := Glyph.text (line.since start)
        let n ← arithmetic text
        let line := (line.cutAt start).append (glyphs here (Octets.ofInt n))
        let line := if here.quoted then line else line.mark start false
        walk run fuel p inQuotes rest line

/-- Expands a tilde at the start, then the rest. -/
def tildeFirst (run : Node → Sh Octets) : Nat → Purpose → Bool → Word → Line → Sh (Word × Line)
  | 0, _, _, rest, line => return (rest, line)
  | fuel + 1, p, inQuotes, symbols, line => do
    match symbols with
    | .char '~' :: rest =>
      let s ← get
      match if p.discard then none else tilde? s p rest with
      | some (home, after) => walk run fuel p inQuotes after (line.append (glyphs { p with quoted := true } home))
      | none => walk run fuel p inQuotes symbols line
    | _ => walk run fuel p inQuotes symbols line

/-- Expands a parameter; what stands behind its sign comes first in the symbols. -/
def parameter (run : Node → Sh Octets) :
    Nat → Purpose → Operation → Bool → Octets → Word → Line → Sh (Word × Line)
  | 0, _, _, _, _, rest, line => return (rest, line)
  | fuel + 1, p, op, colon, name, rest, line => do
    if op = .bad then Sh.failString "Bad substitution"
    let s ← get
    let start := line.size
    let (length, value) := measured s name p
    let isUnset := match length with
      | none => true
      | some n => colon && n = 0
    let written := if p.discard || op = .alternative || op = .length then line else line.append value
    let record (line : Line) : Line :=
      if p.quoted then if name == ['@'] && !s.params.isEmpty then line.mark start true else line
      else line.mark start false
    match op with
    | .default | .alternative =>
      let useWord := if op = .default then isUnset else !isUnset
      let inside := { p with tilde := false, inBraces := true, discard := p.discard || !useWord }
      let (rest, line) ← tildeFirst run fuel inside false rest written
      return (rest, if p.discard || useWord then line else record line)
    | .assign | .complain =>
      let inside := { Purpose.none_ with discard := p.discard || !isUnset }
      let isEmptyWord := match rest with
        | .paramEnd :: _ => true
        | _ => false
      let (rest, line) ← tildeFirst run fuel inside false rest written
      if p.discard then return (rest, line)
      if !isUnset then return (rest, record line)
      let text := Glyph.text (line.since start)
      let line := line.cutAt start
      if op = .complain then notSet name (if isEmptyWord then none else some text) (isEmptyWord && colon)
      if !isVariableName name then Sh.fail (name ++ ": bad variable name".toList)
      Sh.assign name text
      let (_, value) := measured (← get) name p
      return (rest, record (line.append value))
    | _ =>
      if isUnset && !p.discard && s.options.contains 'u' then notSet name none false
      match op with
      | .length =>
        let rest := rest.drop 1
        if p.discard then return (rest, line)
        let line := line.append (glyphs p (Octets.ofNat (length.getD 0)))
        return (rest, if isUnset then line else record line)
      | .value => return (rest, if p.discard || isUnset then written else record written)
      | _ =>
        let discard := p.discard || isUnset
        let (rest, patterned) ← tildeFirst run fuel { Purpose.pattern_ with tilde := false, discard } false rest written
        if discard then return (rest, written)
        let pattern := Glyph.pattern (patterned.since written.size)
        let text := Glyph.text (written.since start)
        let cut := match op with
          | .cutShortEnd => pattern.cutEnd false text
          | .cutLongEnd => pattern.cutEnd true text
          | .cutShortStart => pattern.cutStart false text
          | _ => pattern.cutStart true text
        let kept := cut.flatMap fun c => if c = joint then [.plain c] else glyphs p [c]
        return (rest, record ((written.cutAt start).append kept))

end

/-- Expands a word into a line of glyphs. -/
def line (run : Node → Sh Octets) (p : Purpose) (w : Word) : Sh Line := do
  let fuel := 4 * w.length + 8
  let (_, line) ← if p.tilde then tildeFirst run fuel { p with tilde := false } false w .empty
    else walk run fuel p false w .empty
  return line

/-- Expands a word into fields. -/
def fields (run : Node → Sh Octets) (w : Word) : Sh (List Octets) := do
  let line ← line run .fields w
  let s ← get
  let fields := line.split s.separators none
  if s.options.contains 'f' || fields.all (fun f => !(Glyph.pattern f).isSpecial) then return fields.map Glyph.text
  let v ← Sh.view
  return fields.flatMap (glob v.fs v.cwd)

/-- Expands a word into one text. -/
def text (run : Node → Sh Octets) (p : Purpose) (w : Word) : Sh Octets := do
  return Glyph.text (← line run p w).glyphs.toList

/-- Expands a word into a pattern. -/
def pattern (run : Node → Sh Octets) (w : Word) : Sh Pattern := do
  return Glyph.pattern (← line run .pattern_ w).glyphs.toList

end Expansion

end AlloyGrade.Shell
