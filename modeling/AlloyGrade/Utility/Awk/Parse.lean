import AlloyGrade.Text.RegexSyntax
import AlloyGrade.Utility.Awk.Syntax

/-! Reading programs of the pattern language. Tokens are cut off one by one, because a slash divides or opens an
expression depending on what has been read. -/

namespace AlloyGrade.Utility.Awk

inductive Token where
  | number (x : Float)
  | text (t : Octets)
  /-- A text without an end, up to the end of its line. -/
  | runaway (t : Octets)
  | name (n : Octets)
  /-- A name with an opening bracket directly behind it. -/
  | caller (n : Octets)
  | builtin (n : Octets)
  | word (w : String)
  | op (o : String)
  | odd (c : Char)
  | newline
  | stop

def keywords : List String :=
  ["BEGIN", "END", "function", "func", "if", "else", "while", "for", "do", "break", "continue", "next", "nextfile", "exit", "return",
    "delete", "in", "getline", "print", "printf"]

/-- The operators, the longer ones first. -/
def operators : List String :=
  ["&&", "||", "==", "<=", ">=", "!=", "!~", "++", "--", "+=", "-=", "*=", "/=", "%=", "^=", ">>", "\x7b", "\x7d", "(", ")", "[", "]",
    ";", ",", "+", "-", "*", "/", "%", "^", "!", ">", "<", "|", "?", ":", "~", "$", "="]

def isNameStart (c : Char) : Bool := c.isAlpha || c = '_'

def isHex (c : Char) : Bool := c.isDigit || ('a' ≤ c.toLower && c.toLower ≤ 'f')

def hexDigit (c : Char) : Nat := if c.isDigit then c.toNat - '0'.toNat else c.toLower.toNat - 'a'.toNat + 10

/-- A text up to its closing quote, with its escapes replaced; nothing if it has none on the line. -/
def quotedText : Nat → Octets → Octets → Option (Octets × Octets)
  | 0, _, _ => none
  | _ + 1, '"' :: rest, acc => some (acc.reverse, rest)
  | _ + 1, '\n' :: _, _ => none
  | fuel + 1, '\\' :: c :: rest, acc =>
    match c with
    | '"' => quotedText fuel rest ('"' :: acc)
    | '\\' => quotedText fuel rest ('\\' :: acc)
    | 'n' => quotedText fuel rest ('\n' :: acc)
    | 't' => quotedText fuel rest ('\t' :: acc)
    | 'r' => quotedText fuel rest ('\r' :: acc)
    | 'a' => quotedText fuel rest ('\x07' :: acc)
    | 'b' => quotedText fuel rest ('\x08' :: acc)
    | 'f' => quotedText fuel rest ('\x0c' :: acc)
    | 'v' => quotedText fuel rest ('\x0b' :: acc)
    | '\n' => quotedText fuel rest acc
    | c =>
      if '0' ≤ c && c ≤ '7' then
        let more := (rest.take 2).takeWhile fun d => '0' ≤ d && d ≤ '7'
        let n := (c :: more).foldl (fun n d => 8 * n + (d.toNat - '0'.toNat)) 0
        quotedText fuel (rest.drop more.length) (Char.ofNat (n % 256) :: acc)
      else if c = 'x' && rest.head?.any isHex then
        let ds := (rest.take 2).takeWhile isHex
        quotedText fuel (rest.drop ds.length) (Char.ofNat (ds.foldl (fun n d => 16 * n + hexDigit d) 0) :: acc)
      else quotedText fuel rest (c :: '\\' :: acc)
  | fuel + 1, c :: rest, acc => quotedText fuel rest (c :: acc)
  | _ + 1, [], _ => none

/-- An expression up to its closing slash; a slash between brackets belongs to it. -/
def slashed : Nat → Bool → Octets → Octets → Option (Octets × Octets)
  | 0, _, _, _ => none
  | _ + 1, _, [], _ => none
  | _ + 1, _, '\n' :: _, _ => none
  | fuel + 1, inBrackets, '\\' :: c :: rest, acc =>
    slashed fuel inBrackets rest (if c = '/' then '/' :: acc else c :: '\\' :: acc)
  | fuel + 1, inBrackets, c :: rest, acc =>
    if c = '/' && !inBrackets then some (acc.reverse, rest)
    else if c = '[' && !inBrackets then
      let first := match rest with
        | '^' :: ']' :: _ => 2
        | ']' :: _ | '^' :: _ => 1
        | _ => 0
      slashed fuel true (rest.drop first) ((rest.take first).reverse ++ c :: acc)
    else slashed fuel (inBrackets && c ≠ ']') rest (c :: acc)

/-- Passes over blanks, comments and joined lines; says how many lines have been joined. -/
def skipBlanks : Nat → Octets → Nat → Octets × Nat
  | 0, cs, n => (cs, n)
  | fuel + 1, cs, n =>
    match cs with
    | ' ' :: rest | '\t' :: rest | '\r' :: rest => skipBlanks fuel rest n
    | '\\' :: '\n' :: rest => skipBlanks fuel rest (n + 1)
    | '#' :: rest => skipBlanks fuel (rest.dropWhile (· ≠ '\n')) n
    | _ => (cs, n)

/-- The next token, and what follows it. -/
def token (cs : Octets) : Token × Octets :=
  match cs with
  | [] => (.stop, [])
  | '\n' :: rest => (.newline, rest)
  | '"' :: rest =>
    match quotedText (rest.length + 1) rest [] with
    | some (t, rest) => (.text t, rest)
    | none => (.runaway (rest.takeWhile (· ≠ '\n')), rest.dropWhile (· ≠ '\n'))
  | c :: rest =>
    if isNameStart c then
      let name := cs.takeWhile isNameChar
      let after := cs.drop name.length
      let w := String.ofList name
      if keywords.contains w then (.word w, after)
      else if (Builtin.ofName? name).isSome then (.builtin name, after)
      else if after.head? = some '(' then (.caller name, after)
      else (.name name, after)
    else if c.isDigit || (c = '.' && rest.head?.any Char.isDigit) then
      match cs with
      | '0' :: 'x' :: _ | '0' :: 'X' :: _ => (.number 0, rest)
      | _ =>
        match Dyadic.leading Dyadic.double cs with
        | some (x, _, after) => (.number (ofDyadic x), after)
        | none => (.number 0, rest)
    else match operators.find? fun o => o.toList.isPrefixOf cs with
      | some o => (.op o, cs.drop o.length)
      | none => (.odd c, rest)

/-- The text that stands for a token in messages. -/
def Token.shown (t : Token) (start rest : Octets) : Octets :=
  match t with
  | .newline => "end of line".toList
  | .stop => "end of file".toList
  | _ => start.take (start.length - rest.length)

structure Reading where
  /-- The present token, where it starts, and what follows it. -/
  now : Token
  start : Octets
  rest : Octets
  line : Nat
  /-- How many round brackets and braces are open. -/
  brackets : Nat
  braces : Nat
  /-- A sign for output, or a word for arrays, ends an expression. -/
  outputs : Bool
  ranges : Bool
  inFunction : Bool
  /-- A record can be passed over here. -/
  hasRecord : Bool
  loops : Nat
  /-- The functions that are called. -/
  called : List Octets

abbrev Read := StateT Reading (Except (List Octets))

def lineMessage (line : Nat) (message : Octets) : Octets :=
  "line ".toList ++ Octets.ofNat line ++ ": ".toList ++ message

def failAt {α : Type} (message : Octets) : Read α := do throw [lineMessage (← get).line message]

def failWith {α : Type} (message : String) : Read α := failAt message.toList

/-- Goes on to the next token. -/
def advance : Read Unit := do
  let s ← get
  let line := match s.now with
    | .newline => s.line + 1
    | _ => s.line
  let (start, joined) := skipBlanks (s.rest.length + 1) s.rest 0
  let (now, rest) := token start
  set { s with now, start, rest, line := line + joined }

/-- Complains about the present token. -/
def unexpected {α : Type} : Read α := do
  let s ← get
  let shown := s.now.shown s.start s.rest
  match s.now with
  | .odd c => throw [Octets.ofNat s.line ++ ": unexpected character ".toList ++ ['\''] ++ [c] ++ ['\'']]
  | .runaway t => throw [lineMessage s.line ("runaway string constant \"".toList ++ t.take 10 ++ " ...".toList)]
  | .stop =>
    if 0 < s.braces then throw [lineMessage s.line "missing \x7d near end of file".toList]
    else throw [lineMessage s.line "unexpected end of file".toList]
  | .op ")" =>
    if s.brackets = 0 then throw [lineMessage s.line "extra ')'".toList]
    else throw [lineMessage s.line ("syntax error at or near ".toList ++ shown)]
  | _ =>
    if 0 < s.brackets then
      let first := lineMessage s.line ("missing ) near ".toList ++ shown)
      let atEnd := match s.now with
        | .newline => s.rest.isEmpty && 0 < s.braces
        | _ => false
      throw (if atEnd then [first, lineMessage (s.line + 1) "missing \x7d near end of file".toList] else [first])
    else throw [lineMessage s.line ("syntax error at or near ".toList ++ shown)]

def isOp (o : String) : Read Bool := do
  match (← get).now with
  | .op p => return p == o
  | _ => return false

def isWord (w : String) : Read Bool := do
  match (← get).now with
  | .word v => return v == w
  | _ => return false

def acceptOp (o : String) : Read Bool := do
  if ← isOp o then
    advance
    return true
  else return false

def acceptWord (w : String) : Read Bool := do
  if ← isWord w then
    advance
    return true
  else return false

def expectOp (o : String) : Read Unit := do
  unless ← acceptOp o do unexpected

/-- Opens a bracket, inside which nothing ends an expression early; gives what holds outside. -/
def openBracket : Read (Bool × Bool) := do
  let s ← get
  expectOp "("
  modify ({ · with brackets := s.brackets + 1, outputs := false, ranges := false })
  return (s.outputs, s.ranges)

def closeBracket (outside : Bool × Bool) : Read Unit := do
  if ← isOp ")" then
    modify fun s => { s with brackets := s.brackets - 1, outputs := outside.1, ranges := outside.2 }
    advance
  else unexpected

def skipNewlines : Nat → Read Unit
  | 0 => return ()
  | fuel + 1 => do
    match (← get).now with
    | .newline =>
      advance
      skipNewlines fuel
    | _ => return ()

def newlines : Read Unit := do skipNewlines ((← get).rest.length + 2)

def assignOps : List (String × Option Char) :=
  [("=", none), ("+=", some '+'), ("-=", some '-'), ("*=", some '*'), ("/=", some '/'), ("%=", some '%'), ("^=", some '^')]

def isTarget : Expr → Bool
  | .var _ | .field _ | .item .. => true
  | _ => false

/-- Why an expression cannot be used. -/
def regexFault : Regex.Fault → String
  | .unmatchedOpen => "missing ')'"
  | .unmatchedClose => "missing '('"
  | .unmatchedBracket => "bad class -- [], [^] or ["
  | .nothingToRepeat => "missing operand"
  | _ => "bad regular expression"

/-- The expression in a text, or why there is none. -/
def regexOf? (t : Octets) : Except Octets Regex :=
  match Regex.ofOctets ⟨true, true, true⟩ t with
  | .ok (r, _, _) => .ok r
  | .error e => .error ("regular expression compile failed (".toList ++ (regexFault e).toList ++ ")\n".toList ++ t)

def regexOf (t : Octets) : Read Expr := do
  match regexOf? t with
  | .ok r => return .regex r
  | .error message => failAt message

/-- Whether a token can start a value behind another one. -/
def startsValue : Token → Bool
  | .number _ | .text _ | .runaway _ | .name _ | .caller _ | .builtin _ => true
  | .op o => o == "$" || o == "(" || o == "!" || o == "++" || o == "--"
  | _ => false

mutual

def expr : Nat → Read Expr
  | 0 => unexpected
  | fuel + 1 => do
    let c ← disjunction fuel
    if ← acceptOp "?" then
      newlines
      let a ← expr fuel
      newlines
      expectOp ":"
      newlines
      return .choose c a (← expr fuel)
    else return c

def disjunction : Nat → Read Expr
  | 0 => unexpected
  | fuel + 1 => do
    let a ← conjunction fuel
    disjunctionMore fuel a

def disjunctionMore : Nat → Expr → Read Expr
  | 0, a => return a
  | fuel + 1, a => do
    if ← acceptOp "||" then
      newlines
      let b ← conjunction fuel
      disjunctionMore fuel (.either a b)
    else return a

def conjunction : Nat → Read Expr
  | 0 => unexpected
  | fuel + 1 => do
    let a ← membership fuel
    conjunctionMore fuel a

def conjunctionMore : Nat → Expr → Read Expr
  | 0, a => return a
  | fuel + 1, a => do
    if ← acceptOp "&&" then
      newlines
      let b ← membership fuel
      conjunctionMore fuel (.both a b)
    else return a

def membership : Nat → Read Expr
  | 0 => unexpected
  | fuel + 1 => do
    let a ← fitting fuel
    membershipMore fuel a

def membershipMore : Nat → Expr → Read Expr
  | 0, a => return a
  | fuel + 1, a => do
    if (← get).ranges then return a
    if ← acceptWord "in" then
      match (← get).now with
      | .name n =>
        advance
        membershipMore fuel (.inside (match a with
          | .list es => es
          | e => [e]) n)
      | _ => unexpected
    else return a

def fitting : Nat → Read Expr
  | 0 => unexpected
  | fuel + 1 => do
    let a ← comparison fuel
    fittingMore fuel a

def fittingMore : Nat → Expr → Read Expr
  | 0, a => return a
  | fuel + 1, a => do
    if ← acceptOp "~" then
      let b ← comparison fuel
      fittingMore fuel (.fits false a b)
    else if ← acceptOp "!~" then
      let b ← comparison fuel
      fittingMore fuel (.fits true a b)
    else return a

def comparison : Nat → Read Expr
  | 0 => unexpected
  | fuel + 1 => do
    let a ← joined fuel
    comparisonMore fuel a

def comparisonMore : Nat → Expr → Read Expr
  | 0, a => return a
  | fuel + 1, a => do
    let s ← get
    let found : Option Comparison := match s.now with
      | .op "<" => some .lt
      | .op "<=" => some .le
      | .op "==" => some .eq
      | .op "!=" => some .ne
      | .op ">" => if s.outputs then none else some .gt
      | .op ">=" => some .ge
      | _ => none
    match found with
    | some op =>
      advance
      let b ← joined fuel
      comparisonMore fuel (.compare op a b)
    | none => return a

def joined : Nat → Read Expr
  | 0 => unexpected
  | fuel + 1 => do
    let a ← sum fuel
    joinedMore fuel a

def joinedMore : Nat → Expr → Read Expr
  | 0, a => return a
  | fuel + 1, a => do
    if startsValue (← get).now then
      let b ← sum fuel
      joinedMore fuel (.join a b)
    else return a

def sum : Nat → Read Expr
  | 0 => unexpected
  | fuel + 1 => do
    let a ← product fuel
    sumMore fuel a

def sumMore : Nat → Expr → Read Expr
  | 0, a => return a
  | fuel + 1, a => do
    if ← acceptOp "+" then
      let b ← product fuel
      sumMore fuel (.arithmetic '+' a b)
    else if ← acceptOp "-" then
      let b ← product fuel
      sumMore fuel (.arithmetic '-' a b)
    else return a

def product : Nat → Read Expr
  | 0 => unexpected
  | fuel + 1 => do
    let a ← unary fuel
    productMore fuel a

def productMore : Nat → Expr → Read Expr
  | 0, a => return a
  | fuel + 1, a => do
    if ← acceptOp "*" then
      let b ← unary fuel
      productMore fuel (.arithmetic '*' a b)
    else if ← acceptOp "/" then
      let b ← unary fuel
      productMore fuel (.arithmetic '/' a b)
    else if ← acceptOp "%" then
      let b ← unary fuel
      productMore fuel (.arithmetic '%' a b)
    else return a

def unary : Nat → Read Expr
  | 0 => unexpected
  | fuel + 1 => do
    if ← acceptOp "!" then return .not (← unary fuel)
    else if ← acceptOp "-" then return .negate (← unary fuel)
    else if ← acceptOp "+" then return .plus (← unary fuel)
    else
      let a ← power fuel
      piped fuel a

/-- Reads from commands bind closer than signs. -/
def piped : Nat → Expr → Read Expr
  | 0, a => return a
  | fuel + 1, a => do
    let s ← get
    let (after, _) := skipBlanks (s.rest.length + 1) s.rest 0
    let reads := match s.now, token after with
      | .op "|", (.word "getline", _) => true
      | _, _ => false
    if reads then
      advance
      advance
      let target ← target? fuel
      piped fuel (.read target none (some a))
    else return a

def power : Nat → Read Expr
  | 0 => unexpected
  | fuel + 1 => do
    let a ← counted fuel
    if ← acceptOp "^" then return .arithmetic '^' a (← exponent fuel) else return a

def exponent : Nat → Read Expr
  | 0 => unexpected
  | fuel + 1 => do
    if ← acceptOp "-" then return .negate (← exponent fuel)
    else if ← acceptOp "+" then return .plus (← exponent fuel)
    else if ← acceptOp "!" then return .not (← exponent fuel)
    else power fuel

/-- A value, with what is assigned to it or counted on it. -/
def counted : Nat → Read Expr
  | 0 => unexpected
  | fuel + 1 => do
    let a ← primary fuel
    if !isTarget a then return a
    match (← get).now with
    | .op o =>
      if o == "++" || o == "--" then
        advance
        return .count a (o == "++") false
      else match assignOps.lookup o with
        | some op =>
          advance
          newlines
          return .assign a op (← expr fuel)
        | none => return a
    | _ => return a

/-- A place for a value, if one follows. -/
def target? : Nat → Read (Option Expr)
  | 0 => return none
  | fuel + 1 => do
    match (← get).now with
    | .name _ | .op "$" => return some (← primary fuel)
    | _ => return none

/-- Values with commas between them, up to a closing bracket. -/
def arguments : Nat → Read (List Expr)
  | 0 => unexpected
  | fuel + 1 => do
    if ← isOp ")" then return []
    let a ← expr fuel
    argumentsMore fuel [a]

def argumentsMore : Nat → List Expr → Read (List Expr)
  | 0, acc => return acc.reverse
  | fuel + 1, acc => do
    if ← acceptOp "," then
      newlines
      let a ← expr fuel
      argumentsMore fuel (a :: acc)
    else return acc.reverse

def primary : Nat → Read Expr
  | 0 => unexpected
  | fuel + 1 => do
    let s ← get
    match s.now with
    | .number x =>
      advance
      return .number x
    | .text t =>
      advance
      return .text t
    | .name n =>
      advance
      if ← acceptOp "[" then
        modify ({ · with outputs := false, ranges := false })
        let subscripts ← arguments fuel
        modify ({ · with outputs := s.outputs, ranges := s.ranges })
        if subscripts.isEmpty then unexpected
        expectOp "]"
        return .item n subscripts
      else return .var n
    | .caller n =>
      advance
      modify fun s => { s with called := n :: s.called }
      let outside ← openBracket
      let args ← arguments fuel
      closeBracket outside
      return .call n args
    | .builtin n =>
      match Builtin.ofName? n with
      | none => unexpected
      | some (f, least, most) =>
        advance
        if f = .length && !(← isOp "(") then return .builtin f []
        let outside ← openBracket
        let args ← arguments fuel
        closeBracket outside
        if args.length < least || most < args.length then
          failAt ("wrong number of arguments in call to ".toList ++ n)
        return .builtin f args
    | .word "getline" =>
      advance
      let target ← target? fuel
      if ← acceptOp "<" then
        let file ← counted fuel
        return .read target (some file) none
      else return .read target none none
    | .op "(" =>
      let outside ← openBracket
      let es ← arguments fuel
      if es.isEmpty then unexpected
      closeBracket outside
      match es with
      | [e] => return .grouped e
      | _ => return .list es
    | .op "$" =>
      advance
      if ← acceptOp "-" then return .field (.negate (← primary fuel))
      else return .field (← primary fuel)
    | .op "++" =>
      advance
      let a ← primary fuel
      if isTarget a then return .count a true true else unexpected
    | .op "--" =>
      advance
      let a ← primary fuel
      if isTarget a then return .count a false true else unexpected
    | .op "/" | .op "/=" =>
      let body := s.start.drop 1
      match slashed (body.length + 1) false body [] with
      | none => failAt ("runaway regular expression /".toList ++ (body.takeWhile (· ≠ '\n')).take 10 ++ " ...".toList)
      | some (t, rest) =>
        set { s with rest }
        let r ← regexOf t
        advance
        return r
    | _ => unexpected

end

/-! ### Statements -/

/-- Ends a simple statement. -/
def terminated : Read Unit := do
  match (← get).now with
  | .newline | .op ";" => advance
  | .op "\x7d" => return ()
  | _ => unexpected

/-- The values that are printed, and where to. -/
def printed (fuel : Nat) : Read (List Expr × Option (Direction × Expr)) := do
  let ends : Bool := match (← get).now with
    | .newline | .stop | .op ";" | .op "\x7d" | .op ">" | .op ">>" | .op "|" => true
    | _ => false
  modify ({ · with outputs := true })
  let args ← if ends then pure [] else do
    let a ← expr fuel
    argumentsMore fuel [a]
  modify ({ · with outputs := false })
  let args := match args with
    | [.list es] => es
    | _ => args
  if ← acceptOp ">" then return (args, some (.file, ← expr fuel))
  else if ← acceptOp ">>" then return (args, some (.append, ← expr fuel))
  else if ← acceptOp "|" then return (args, some (.command, ← expr fuel))
  else return (args, none)

mutual

def statement : Nat → Read Statement
  | 0 => unexpected
  | fuel + 1 => do
    let inLoop (body : Read Statement) : Read Statement := do
      modify fun s => { s with loops := s.loops + 1 }
      let r ← body
      modify fun s => { s with loops := s.loops - 1 }
      return r
    let condition : Read Expr := do
      let outside ← openBracket
      let e ← expr fuel
      closeBracket outside
      return e
    let ended (r : Statement) : Read Statement := do
      terminated
      return r
    match (← get).now with
    | .op "\x7b" => return .block (← block fuel)
    | .op ";" =>
      advance
      return .nothing
    | .word "if" =>
      advance
      let c ← condition
      newlines
      let yes ← statement fuel
      newlines
      if ← acceptWord "else" then
        newlines
        return .if_ c yes (← statement fuel)
      else return .if_ c yes .nothing
    | .word "while" =>
      advance
      let c ← condition
      if ← acceptOp ";" then return .while_ c .nothing
      newlines
      return .while_ c (← inLoop (statement fuel))
    | .word "do" =>
      advance
      newlines
      let body ← inLoop (statement fuel)
      newlines
      unless ← acceptWord "while" do unexpected
      let c ← condition
      ended (.do_ body c)
    | .word "for" =>
      advance
      let outside ← openBracket
      modify ({ · with ranges := true })
      let start ← if ← isOp ";" then pure none else do pure (some (← expr fuel))
      modify ({ · with ranges := false })
      let overKeys ← acceptWord "in"
      match start, overKeys with
      | some (.var n), true =>
        match (← get).now with
        | .name array =>
          advance
          closeBracket outside
          newlines
          return .forIn n array (← inLoop (statement fuel))
        | _ => unexpected
      | _, true => unexpected
      | start, false =>
        expectOp ";"
        newlines
        let c ← if ← isOp ";" then pure none else do pure (some (← expr fuel))
        expectOp ";"
        newlines
        let step ← if ← isOp ")" then pure none else do pure (some (← expr fuel))
        closeBracket outside
        if ← acceptOp ";" then return .for_ start c step .nothing
        newlines
        return .for_ start c step (← inLoop (statement fuel))
    | .word "print" =>
      advance
      let (args, target) ← printed fuel
      ended (.print args target)
    | .word "printf" =>
      advance
      let (args, target) ← printed fuel
      if args.isEmpty then failWith "no arguments in call to printf"
      ended (.printf args target)
    | .word "break" =>
      if (← get).loops = 0 then failWith "break statement outside of loop"
      advance
      ended .break_
    | .word "continue" =>
      if (← get).loops = 0 then failWith "continue statement outside of loop"
      advance
      ended .continue_
    | .word "next" =>
      unless (← get).hasRecord do failWith "improper use of next"
      advance
      ended .next
    | .word "nextfile" =>
      unless (← get).hasRecord do failWith "improper use of nextfile"
      advance
      ended .nextFile
    | .word "exit" =>
      advance
      match (← get).now with
      | .newline | .stop | .op ";" | .op "\x7d" => ended (.exit none)
      | _ => ended (.exit (some (← expr fuel)))
    | .word "return" =>
      unless (← get).inFunction do failWith "return outside function body"
      advance
      match (← get).now with
      | .newline | .stop | .op ";" | .op "\x7d" => ended (.return_ none)
      | _ => ended (.return_ (some (← expr fuel)))
    | .word "delete" =>
      advance
      match ← primary fuel with
      | .item array subscripts => ended (.delete array subscripts)
      | .var array => ended (.deleteAll array)
      | _ => unexpected
    | _ =>
      let e ← expr fuel
      ended (.eval e)

/-- Statements between braces. -/
def block : Nat → Read (List Statement)
  | 0 => unexpected
  | fuel + 1 => do
    expectOp "\x7b"
    modify fun s => { s with braces := s.braces + 1 }
    blockMore fuel []

def blockMore : Nat → List Statement → Read (List Statement)
  | 0, _ => unexpected
  | fuel + 1, acc => do
    newlines
    if ← isOp "\x7d" then
      modify fun s => { s with braces := s.braces - 1 }
      advance
      -- A semicolon behind a block ends nothing.
      return acc.reverse
    else
      let s ← statement fuel
      blockMore fuel (s :: acc)

end

/-! ### Programs -/

def parameterNames : Nat → List Octets → Read (List Octets)
  | 0, acc => return acc.reverse
  | fuel + 1, acc => do
    match (← get).now with
    | .name n =>
      advance
      if ← acceptOp "," then
        newlines
        parameterNames fuel (n :: acc)
      else return (n :: acc).reverse
    | _ => return acc.reverse

def function (fuel : Nat) (before : List Function) : Read Function := do
  advance
  match (← get).now with
  | .name n | .caller n =>
    if before.any (·.name == n) then failAt ("redefinition of ".toList ++ n)
    advance
    let outside ← openBracket
    let params ← parameterNames fuel []
    if params.contains n then failWith "function parameter cannot be the function"
    closeBracket outside
    newlines
    modify ({ · with inFunction := true, hasRecord := true })
    let body ← block fuel
    modify ({ · with inFunction := false })
    return ⟨n, params, .block body⟩
  | _ => unexpected

def rule (fuel : Nat) : Read Rule := do
  let action (hasRecord : Bool) : Read (Option Statement) := do
    if ← isOp "\x7b" then
      modify ({ · with hasRecord })
      return some (.block (← block fuel))
    else return none
  if ← acceptWord "BEGIN" then
    match ← action false with
    | some a => return ⟨.begin_, some a⟩
    | none => unexpected
  else if ← acceptWord "END" then
    match ← action false with
    | some a => return ⟨.end_, some a⟩
    | none => unexpected
  else if ← isOp "\x7b" then return ⟨.always, ← action true⟩
  else
    let first ← expr fuel
    if ← acceptOp "," then
      newlines
      let last ← expr fuel
      return ⟨.range first last, ← action true⟩
    else return ⟨.expr first, ← action true⟩

def items (fuel : Nat) : Nat → List Function → List Rule → Read Code
  | 0, functions, rules => return ⟨functions.reverse, rules.reverse⟩
  | more + 1, functions, rules => do
    match (← get).now with
    | .stop => return ⟨functions.reverse, rules.reverse⟩
    | .newline | .op ";" =>
      advance
      items fuel more functions rules
    | .word "function" | .word "func" =>
      let f ← function fuel functions
      items fuel more (f :: functions) rules
    | _ =>
      let r ← rule fuel
      items fuel more functions (r :: rules)

/-- The program in a text, or what is wrong with it. -/
def Code.ofText (cs : Octets) : Except (List Octets) Code :=
  let text := if cs.getLast? = some '\n' then cs else cs ++ ['\n']
  let fuel := 20 * text.length + 100
  let start : Reading := ⟨.op "", [], text, 1, 0, 0, false, false, false, true, 0, []⟩
  let whole : Read Code := do
    advance
    let code ← items fuel fuel [] []
    let s ← get
    match s.called.reverse.find? fun n => !code.functions.any (·.name == n) with
    | some n => throw [lineMessage s.line ("function ".toList ++ n ++ " never defined".toList)]
    | none => return code
  (whole.run start).map (·.1)

end AlloyGrade.Utility.Awk
