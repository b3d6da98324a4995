import AlloyGrade.Shell.Grammar

/-! The tokens of shell scripts and the state of their reader. -/

namespace AlloyGrade.Shell

inductive Token where
  | eof
  | newline
  | semicolon
  | ampersand
  | and
  | or
  | bar
  | open_
  | close
  | endArm
  | redirect
  | word
  | not
  | case_
  | do_
  | done
  | elif
  | else_
  | esac
  | fi
  | for_
  | if_
  | in_
  | then_
  | until_
  | while_
  | begin_
  | end_
deriving DecidableEq, Repr

namespace Token

/-- The words that mean something where a command may start. -/
def keywords : List (String × Token) :=
  [("!", .not), ("case", .case_), ("do", .do_), ("done", .done), ("elif", .elif), ("else", .else_), ("esac", .esac),
    ("fi", .fi), ("for", .for_), ("if", .if_), ("in", .in_), ("then", .then_), ("until", .until_), ("while", .while_),
    ("\x7b", .begin_), ("\x7d", .end_)]

/-- How messages name a token. -/
def shown : Token → String
  | .eof => "end of file"
  | .newline => "newline"
  | .semicolon => "\";\""
  | .ampersand => "\"&\""
  | .and => "\"&&\""
  | .or => "\"||\""
  | .bar => "\"|\""
  | .open_ => "\"(\""
  | .close => "\")\""
  | .endArm => "\";;\""
  | .redirect => "redirection"
  | .word => "word"
  | t =>
    match keywords.find? (·.2 == t) with
    | some (text, _) => "\"" ++ text ++ "\""
    | none => ""

/-- The tokens that end a list of commands. -/
def endsList : Token → Bool
  | .eof | .close | .endArm | .do_ | .done | .elif | .else_ | .esac | .fi | .then_ | .end_ => true
  | _ => false

end Token

/-- A script that cannot be read. -/
structure SyntaxFault where
  line : Nat
  message : String
deriving DecidableEq, Repr

/-- What the reader looks for in the next token. -/
structure Expecting where
  newlines : Bool
  keywords : Bool
  aliases : Bool
  /-- The mark that ends a document: nothing in it is expanded. -/
  mark : Bool
deriving DecidableEq, Repr

namespace Expecting

def nothing : Expecting := ⟨false, false, false, false⟩

def commandStart : Expecting := ⟨true, true, true, false⟩

end Expecting

/-- A document that is announced but not yet read. -/
structure Announced where
  number : Nat
  mark : Octets
  expands : Bool
  stripsTabs : Bool

/-- A stretch of text that stands in for an alias. Until it is over, no alias among its names is replaced. -/
structure Stretch where
  text : Octets
  names : List Octets
  endsBlank : Bool

structure ReaderState where
  text : Octets
  /-- Somebody has looked for more text than there is. -/
  ended : Bool
  /-- What is read before the text. -/
  stretches : List Stretch
  /-- The aliases whose stretches came to their end with the last character. -/
  finished : List Octets
  line : Nat
  expecting : Expecting
  pushedBack : Bool
  last : Token
  word : Word
  /-- Some of the word was in quotes. -/
  quoted : Bool
  redirect : Redirect
  announced : List Announced
  /-- The document of the redirection just read. -/
  document : Option Announced
  documents : List (Nat × Document)
  fresh : Nat
  aliases : List (Octets × Octets)

abbrev Reader := StateT ReaderState (Except SyntaxFault)

namespace Reader

variable {α : Type}

def fail (message : String) : Reader α := do throw ⟨(← get).line, "Syntax error: " ++ message⟩

/-- Complains about the last token. -/
def unexpected (wanted : Option Token) : Reader α := do
  let tail := match wanted with
    | some t => " (expecting " ++ t.shown ++ ")"
    | none => ""
  fail ((← get).last.shown ++ " unexpected" ++ tail)

def expect (e : Expecting) : Reader Unit := modify ({ · with expecting := e })

def pushBack : Reader Unit := modify ({ · with pushedBack := true })

def nextLine : Reader Unit := modify fun s => { s with line := s.line + 1 }

/-- The next character, none at the end. -/
def char? : Reader (Option Char) := do
  let s ← get
  let used := s.stretches.takeWhile (·.text.isEmpty)
  let left := s.stretches.drop used.length
  let expecting := if used.any (·.endsBlank) then { s.expecting with aliases := true } else s.expecting
  let s := { s with stretches := left, finished := used.flatMap Stretch.names, expecting }
  match left, s.text with
  | ⟨c :: text, names, endsBlank⟩ :: more, _ => do
    set { s with stretches := ⟨text, names, endsBlank⟩ :: more }
    return some c
  | _, c :: text => do
    set { s with text }
    return some c
  | _, [] => do
    set { s with ended := true }
    return none

/-- Puts a character back. -/
def unread : Option Char → Reader Unit
  | none => return ()
  | some c => modify fun s =>
    match s.stretches with
    | ⟨text, names, endsBlank⟩ :: more => { s with stretches := ⟨c :: text, names, endsBlank⟩ :: more }
    | [] => { s with text := c :: s.text }

/-- The next character, where a backslash and a line end count as nothing. -/
def joined? : Nat → Reader (Option Char)
  | 0 => char?
  | fuel + 1 => do
    match ← char? with
    | some '\\' =>
      match ← char? with
      | some '\n' =>
        nextLine
        joined? fuel
      | c =>
        unread c
        return some '\\'
    | c => return c

/-- How many joined lines are passed over at most. -/
def joinLimit : Nat := 100000

def nextChar? : Reader (Option Char) := joined? joinLimit

end Reader

end AlloyGrade.Shell
