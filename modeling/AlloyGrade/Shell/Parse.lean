import AlloyGrade.Shell.Reader

/-! The grammar of commands. The functions call each other the way the constructs nest; all spend fuel. -/

namespace AlloyGrade.Shell

/-- The commands that belong to the language itself: their names cannot be those of functions, and their failures
end a script. -/
def specialNames : List String :=
  [".", ":", "break", "continue", "eval", "exec", "exit", "export", "readonly", "return", "set", "shift", "times", "trap",
    "unset"]

namespace Reader

/-- Where newlines end a list, and whether it may be empty. -/
inductive Extent where
  /-- One line. -/
  | line
  | nonempty
  | any
deriving DecidableEq

/-- Puts a command that runs beside the others into the background. -/
def inBackground : Node → Node
  | .pipe _ stages => .pipe true stages
  | .redirected line body redirects => .background line body redirects
  | n => .background 0 n []

def followed : Option Node → Node → Node
  | none, n => n
  | some first, n => .sequence first n

/-- A redirection with the word that has just been read. -/
def directed (r : Redirect) (w : Word) : Redirect :=
  match r with
  | .file fd use _ => .file fd use w
  | .named fd isInput _ =>
    match w with
    | [.char c] =>
      if c.isDigit then .copy fd (c.toNat - '0'.toNat)
      else if c = '-' then .close fd
      else .named fd isInput w
    | _ => .named fd isInput w
  | r => r

/-- The name that a word spells, if it is made of plain characters only. -/
def nameOf? (w : Word) : Option Octets :=
  let plain := w.filterMap fun
    | .char c => some c
    | _ => none
  if plain.length = w.length && isVariableName plain then some plain else none

def limit : Nat := 1000000000

mutual

/-- Reads characters into a word up to its end. -/
def chars : Nat → Option (Octets × Bool) → Option Char → Level → List Level → List Symbol → Bool → Reader Read
  | 0, _, c, top, below, out, quoted => return ⟨out.reverse, quoted, c, top :: below⟩
  | fuel + 1, mark, c, top, below, out, quoted => do
    let inDocument := mark.isSome
    let next (top : Level) : Reader (Option Char) := if top.style = .single then char? else nextChar?
    match c with
    | none => return ⟨out.reverse, quoted, c, top :: below⟩
    | some ch =>
      match role top.style ch with
      | .newline =>
        if top.style = .plain && top.nest = 0 then return ⟨out.reverse, quoted, c, top :: below⟩
        nextLine
        let c ← next top
        let c ← match mark with
          | some (text, strips) => lineStart text strips c
          | none => pure c
        chars fuel mark c top below (.char ch :: out) quoted
      | .ordinary => chars fuel mark (← next top) top below (.char ch :: out) quoted
      | .guarded =>
        let symbol : Symbol := if !inDocument || top.double then .escaped ch else .char ch
        chars fuel mark (← next top) top below (symbol :: out) quoted
      | .backslash =>
        match ← char? with
        | none => chars fuel mark (← next top) top below (.escaped '\\' :: out) quoted
        | some d =>
          if d = '\n' then nextLine
          chars fuel mark (← next top) top below (backslashed top inDocument d ++ out) true
      | .single =>
        let top := { top with style := .single }
        chars fuel mark (← next top) top below (if inDocument then out else .quote :: out) quoted
      | .double =>
        let top := { top with style := .double, double := true, inner := if top.nest = 0 then top.inner else !top.inner }
        chars fuel mark (← next top) top below (if inDocument then out else .quote :: out) quoted
      | .endQuote =>
        if inDocument && top.nest = 0 then chars fuel mark (← next top) top below (.char ch :: out) quoted
        else
          let top := if top.quotedNest = 0 then { top with style := .plain, double := false } else top
          let top := if ch = '"' && top.nest ≠ 0 then { top with inner := !top.inner } else top
          chars fuel mark (← next top) top below (if inDocument then out else .quote :: out) true
      | .dollar =>
        let (top, below, out) ← substitution fuel top below out
        chars fuel mark (← next top) top below out quoted
      | .endParam =>
        if !top.inner && top.nest ≠ 0 then
          match closeParam top below with
          | top :: below => chars fuel mark (← next top) top below (.paramEnd :: out) quoted
          | [] => return ⟨out.reverse, quoted, c, []⟩
        else chars fuel mark (← next top) top below (.char ch :: out) quoted
      | .openParen =>
        chars fuel mark (← next top) { top with parens := top.parens + 1 } below (.char ch :: out) quoted
      | .closeParen =>
        if top.parens ≠ 0 then
          chars fuel mark (← next top) { top with parens := top.parens - 1 } below (.char ch :: out) quoted
        else
          let after ← nextChar?
          match after, below with
          | some ')', top :: below => chars fuel mark (← next top) top below (.arithEnd :: out) quoted
          | _, _ =>
            unread after
            chars fuel mark (← next top) top below (.char ch :: out) quoted
      | .backquote =>
        if (← get).expecting.mark then chars fuel mark (← next top) top below (.char ch :: out) quoted
        else
          let body ← oldSubstitution fuel top.double
          chars fuel mark (← next top) top below (.command body :: out) quoted
      | .separator =>
        if top.nest = 0 then return ⟨out.reverse, quoted, c, top :: below⟩
        chars fuel mark (← next top) top below (.char ch :: out) quoted

/-- What follows a dollar sign. -/
def substitution : Nat → Level → List Level → List Symbol → Reader (Level × List Level × List Symbol)
  | 0, top, below, out => return (top, below, out)
  | fuel + 1, top, below, out => do
    let c ← nextChar?
    let isExpansion := match c with
      | some c => c = '(' || c = '\x7b' || isNameStart c || isSpecialParam c
      | none => false
    if (← get).expecting.mark || !isExpansion then
      unread c
      return (top, below, .char '$' :: out)
    else if c = some '(' then
      let after ← nextChar?
      if after = some '(' then return ({ Level.fresh .arith with double := true }, top :: below, .arith :: out)
      unread after
      let body ← newSubstitution fuel
      return (top, below, .command body :: out)
    else if c = some '\x7b' then
      let (op, colon, name, pattern) ← braced
      if op = .value && !colon then return (top, below, .param op colon name :: out)
      match openParam top below pattern with
      | top :: below => return (top, below, .param op colon name :: out)
      | [] => return (top, below, out)
    else
      match c with
      | some ch =>
        if isNameStart ch then
          let (name, c) ← nameChars limit isNameChar c []
          unread c
          return (top, below, .param .value false name :: out)
        else return (top, below, .param .value false [ch] :: out)
      | none => return (top, below, out)

/-- Commands in parentheses behind a dollar sign. -/
def newSubstitution : Nat → Reader Node
  | 0 => fail "Missing ')'"
  | fuel + 1 => do
    let announced := (← get).announced
    modify ({ · with announced := [], pushedBack := false })
    let body ← list fuel .any
    if (← token fuel) ≠ .close then unexpected (some .close)
    documents fuel
    modify ({ · with announced })
    return body.getD .nothing

/-- Commands between backquotes, which are read as a text of their own. -/
def oldSubstitution : Nat → Bool → Reader Node
  | 0, _ => fail "EOF in backquote substitution"
  | fuel + 1, inDouble => do
    let text ← backquoted inDouble limit []
    let outer ← get
    set { outer with
      text, stretches := [], line := 1, pushedBack := false, announced := [] }
    let body ← list fuel .any
    documents fuel
    let inner ← get
    set { inner with
      text := outer.text, ended := outer.ended, stretches := outer.stretches, line := outer.line, pushedBack := false,
      announced := outer.announced }
    return body.getD .nothing

/-- Reads a word that starts with the given character, or a redirection. -/
def wordToken : Nat → Option Char → Reader Token
  | 0, _ => return .eof
  | fuel + 1, c => do
    let r ← chars fuel none c (.fresh .plain) [] [] false
    checkClosed r false
    let isRedirect := (r.stop = some '>' || r.stop = some '<') && !r.quoted && (descriptorOf? r.symbols 0).isSome
    match isRedirect, r.stop with
    | true, some sign =>
      redirection sign r.symbols
      modify ({ · with last := .redirect })
      return .redirect
    | _, _ =>
      unread r.stop
      modify ({ · with word := r.symbols, quoted := r.quoted, last := .word })
      return .word

/-- The next token, whatever it means where it stands. -/
def rawToken : Nat → Reader Token
  | 0 => return .eof
  | fuel + 1 => do
    let s ← get
    if s.pushedBack then
      set { s with pushedBack := false }
      return s.last
    let found (t : Token) : Reader Token := do
      modify ({ · with last := t })
      return t
    let doubled (c : Char) (once twice : Token) : Reader Token := do
      let after ← nextChar?
      if after = some c then found twice
      else
        unread after
        found once
    let c ← nextChar?
    match c with
    | some ' ' | some '\t' => rawToken fuel
    | some '#' =>
      let s ← get
      let skipped := ((upcoming s).takeWhile (· ≠ '\n')).length
      skipChars skipped
      rawToken fuel
    | some '\n' =>
      nextLine
      found .newline
    | none => found .eof
    | some '&' => doubled '&' .ampersand .and
    | some '|' => doubled '|' .bar .or
    | some ';' => doubled ';' .semicolon .endArm
    | some '(' => found .open_
    | some ')' => found .close
    | _ => wordToken fuel c

/-- Reads the documents that the line has announced. -/
def documents : Nat → Reader Unit
  | 0 => return ()
  | fuel + 1 => do
    let s ← get
    match s.announced with
    | [] => return ()
    | a :: rest =>
      set { s with announced := rest }
      let c ← if a.expands then nextChar? else char?
      let c ← lineStart a.mark a.stripsTabs c
      let style : Style := if a.expands then .double else .single
      let r ← chars fuel (some (a.mark, a.stripsTabs)) c (.fresh style) [] [] false
      checkClosed r true
      modify fun s => { s with documents := (a.number, ⟨r.symbols, a.expands⟩) :: s.documents }
      documents fuel

/-- Passes over line ends. -/
def pastNewlines : Nat → Token → Reader Token
  | 0, t => return t
  | fuel + 1, t => do
    if t ≠ .newline then return t
    documents fuel
    expect .nothing
    pastNewlines fuel (← rawToken fuel)

/-- A token as it counts here: a keyword only where one is expected, and aliases replaced. -/
def token : Nat → Reader Token
  | 0 => return .eof
  | fuel + 1 => do tokenAs fuel (← get).expecting

def tokenAs : Nat → Expecting → Reader Token
  | 0, _ => return .eof
  | fuel + 1, e => do
    let t ← rawToken fuel
    let t ← if e.newlines then pastNewlines fuel t else pure t
    let s ← get
    let e : Expecting := ⟨e.newlines || s.expecting.newlines, e.keywords || s.expecting.keywords,
      e.aliases || s.expecting.aliases, false⟩
    set { s with expecting := .nothing }
    if t ≠ .word || s.quoted then return t
    let spelled := if s.word.all (fun | .char _ => true | _ => false) then some (Word.plain s.word) else none
    match spelled with
    | none => return t
    | some text =>
      match if e.keywords then Token.keywords.find? (fun k => k.1.toList == text) else none with
      | some (_, keyword) =>
        modify ({ · with last := keyword })
        return keyword
      | none =>
        let inUse := s.finished.contains text || s.stretches.any (·.names.contains text)
        match if e.aliases && !inUse then s.aliases.find? (·.1 == text) else none with
        | some (name, value) =>
          unless value.isEmpty do
            let endsBlank := value.getLast? = some ' ' || value.getLast? = some '\t'
            modify fun s => { s with stretches := ⟨value, name :: s.finished, endsBlank⟩ :: s.stretches, finished := [] }
          tokenAs fuel e
        | none => return t

def list : Nat → Extent → Reader (Option Node)
  | 0, _ => return none
  | fuel + 1, extent => listFrom fuel extent none

def listFrom : Nat → Extent → Option Node → Reader (Option Node)
  | 0, _, sofar => return sofar
  | fuel + 1, extent, sofar => do
    expect { Expecting.commandStart with newlines := extent ≠ .line }
    let t ← token fuel
    match t with
    | .newline =>
      documents fuel
      return sofar
    | .eof =>
      pushBack
      return sofar
    | _ =>
      pushBack
      if t.endsList && (extent = .any || (extent = .nonempty && sofar.isSome)) then return sofar
      let command ← andOr fuel
      let t ← token fuel
      let command := if t = .ampersand then inBackground command else command
      let sofar := some (followed sofar command)
      match t with
      | .eof =>
        pushBack
        return sofar
      | .newline =>
        pushBack
        listFrom fuel extent sofar
      | .ampersand | .semicolon => listFrom fuel extent sofar
      | _ =>
        if extent = .line then unexpected none
        pushBack
        return sofar

def andOr : Nat → Reader Node
  | 0 => return .nothing
  | fuel + 1 => do
    let first ← pipeline fuel
    andOrFrom fuel first

def andOrFrom : Nat → Node → Reader Node
  | 0, first => return first
  | fuel + 1, first => do
    match ← token fuel with
    | .and =>
      expect .commandStart
      let second ← pipeline fuel
      andOrFrom fuel (.both first second)
    | .or =>
      expect .commandStart
      let second ← pipeline fuel
      andOrFrom fuel (.either first second)
    | _ =>
      pushBack
      return first

def pipeline : Nat → Reader Node
  | 0 => return .nothing
  | fuel + 1 => do
    let negated ← do
      if (← token fuel) = .not then
        expect { Expecting.commandStart with newlines := false }
        pure true
      else
        pushBack
        pure false
    let first ← command fuel
    let stages ← stagesFrom fuel [first]
    let body := match stages with
      | [only] => only
      | stages => .pipe false stages
    return if negated then .negated body else body

/-- The commands behind bars. -/
def stagesFrom : Nat → List Node → Reader (List Node)
  | 0, done => return done.reverse
  | fuel + 1, done => do
    if (← token fuel) = .bar then
      expect .commandStart
      let next ← command fuel
      stagesFrom fuel (next :: done)
    else
      pushBack
      return done.reverse

def command : Nat → Reader Node
  | 0 => return .nothing
  | fuel + 1 => do
    let line := (← get).line
    let closed (t : Token) (n : Node) : Reader Node := do
      if (← token fuel) ≠ t then unexpected (some t)
      redirected fuel line n
    let body : Reader Node := do return (← list fuel .nonempty).getD .nothing
    match ← token fuel with
    | .if_ => do
      let n ← conditional fuel
      closed .fi n
    | .while_ => do
      let test ← body
      if (← token fuel) ≠ .do_ then unexpected (some .do_)
      let inside ← body
      closed .done (.loop false test inside)
    | .until_ => do
      let test ← body
      if (← token fuel) ≠ .do_ then unexpected (some .do_)
      let inside ← body
      closed .done (.loop true test inside)
    | .for_ => do
      let t ← token fuel
      let s ← get
      match if t = .word && !s.quoted then nameOf? s.word else none with
      | none => fail "Bad for loop variable"
      | some name =>
        expect .commandStart
        let items ← do
          if (← token fuel) = .in_ then
            let items ← wordsUntil fuel []
            let last := (← get).last
            if last ≠ .newline && last ≠ .semicolon then unexpected none
            pure items
          else
            if (← get).last ≠ .semicolon then pushBack
            pure [Word.allParameters]
        expect .commandStart
        if (← token fuel) ≠ .do_ then unexpected (some .do_)
        let inside ← body
        closed .done (.each line name items inside)
    | .case_ => do
      if (← token fuel) ≠ .word then unexpected (some .word)
      let word := (← get).word
      expect .commandStart
      if (← token fuel) ≠ .in_ then unexpected (some .in_)
      let arms ← armsFrom fuel []
      redirected fuel line (.choose line word arms)
    | .open_ => do
      let inside ← body
      closed .close (.subshell line inside [])
    | .begin_ => do
      let inside ← body
      closed .end_ inside
    | .word | .redirect =>
      pushBack
      simple fuel
    | _ => unexpected none

/-- What stands behind `if` or `elif`, up to the closing word. -/
def conditional : Nat → Reader Node
  | 0 => return .nothing
  | fuel + 1 => do
    let test := (← list fuel .nonempty).getD .nothing
    if (← token fuel) ≠ .then_ then unexpected (some .then_)
    let yes := (← list fuel .nonempty).getD .nothing
    match ← token fuel with
    | .elif => do
      let no ← conditional fuel
      return .branch test yes no
    | .else_ => do
      let no := (← list fuel .nonempty).getD .nothing
      return .branch test yes no
    | _ =>
      pushBack
      return .branch test yes .nothing

def wordsUntil : Nat → List Word → Reader (List Word)
  | 0, done => return done.reverse
  | fuel + 1, done => do
    if (← token fuel) = .word then
      let w := (← get).word
      wordsUntil fuel (w :: done)
    else return done.reverse

/-- The patterns of one arm, up to the parenthesis. -/
def patternsFrom : Nat → List Word → Reader (List Word)
  | 0, done => return done.reverse
  | fuel + 1, done => do
    let w := (← get).word
    if (← token fuel) = .bar then
      let _ ← token fuel
      patternsFrom fuel (w :: done)
    else return (w :: done).reverse

def armsFrom : Nat → List (List Word × Node) → Reader (List (List Word × Node))
  | 0, done => return done.reverse
  | fuel + 1, done => do
    expect ⟨true, true, false, false⟩
    match ← token fuel with
    | .esac => return done.reverse
    | t =>
      if t = .open_ then let _ ← token fuel
      let patterns ← patternsFrom fuel []
      if (← get).last ≠ .close then unexpected (some .close)
      let inside := (← list fuel .any).getD .nothing
      let done := (patterns, inside) :: done
      expect ⟨true, true, false, false⟩
      match ← token fuel with
      | .esac => return done.reverse
      | .endArm => armsFrom fuel done
      | _ => unexpected (some .endArm)

/-- Redirections behind a compound command. -/
def redirected : Nat → Nat → Node → Reader Node
  | 0, _, n => return n
  | fuel + 1, line, n => do
    expect { Expecting.commandStart with newlines := false }
    let redirects ← redirectsFrom fuel []
    match redirects, n with
    | [], n => return n
    | rs, .subshell line body _ => return .subshell line body rs
    | rs, n => return .redirected line n rs

def redirectsFrom : Nat → List Redirect → Reader (List Redirect)
  | 0, done => return done.reverse
  | fuel + 1, done => do
    if (← token fuel) = .redirect then
      let r ← target fuel
      redirectsFrom fuel (r :: done)
    else
      pushBack
      return done.reverse

/-- The word that a redirection needs. -/
def target : Nat → Reader Redirect
  | 0 => return .close 0
  | fuel + 1 => do
    let s ← get
    if s.document.isSome then expect ⟨false, false, false, true⟩
    if (← token fuel) ≠ .word then unexpected none
    let t ← get
    match s.document with
    | some a =>
      set { t with announced := t.announced ++ [{ a with mark := Word.plain t.word, expands := !t.quoted }] }
      return s.redirect
    | none => return directed s.redirect t.word

/-- Assignments, words and redirections. -/
def simple : Nat → Reader Node
  | 0 => return .nothing
  | fuel + 1 => do
    let line := (← get).line
    simpleFrom fuel line [] [] []

def simpleFrom : Nat → Nat → List Word → List Word → List Redirect → Reader Node
  | 0, _, _, _, _ => return .nothing
  | fuel + 1, line, assigns, words, redirects => do
    expect ⟨false, false, words.isEmpty, false⟩
    match ← token fuel with
    | .word =>
      let w := (← get).word
      if words.isEmpty && w.isAssignment then simpleFrom fuel line (w :: assigns) words redirects
      else simpleFrom fuel line assigns (w :: words) redirects
    | .redirect =>
      let r ← target fuel
      simpleFrom fuel line assigns words (r :: redirects)
    | t =>
      match t, assigns, words, redirects with
      | .open_, [], [w], [] =>
        if (← token fuel) ≠ .close then unexpected (some .close)
        match nameOf? w with
        | some name =>
          if specialNames.any (·.toList == name) then fail "Bad function name"
          expect .commandStart
          let start := (← get).line
          let body ← command fuel
          return .define start name body
        | none => fail "Bad function name"
      | _, _, _, _ =>
        pushBack
        return .simple line assigns.reverse words.reverse redirects.reverse

end

/-- Reads one complete command; `none` at the end of the text. -/
def complete : Reader (Option Node) := do
  modify ({ · with pushedBack := false, announced := [], expecting := .nothing })
  match ← list limit .line with
  | some n => return some n
  | none =>
    if (← get).last = .eof then return none
    return some .nothing

end Reader

namespace ReaderState

/-- A text that has not been looked at yet. -/
def start (text : Octets) : ReaderState where
  text
  ended := false
  stretches := []
  finished := []
  line := 1
  expecting := .nothing
  pushedBack := false
  last := .eof
  word := []
  quoted := false
  redirect := .close 0
  announced := []
  document := none
  documents := []
  fresh := 0
  aliases := []

end ReaderState

end AlloyGrade.Shell
