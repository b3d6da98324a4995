import AlloyGrade.Text.Octets

/-! Arithmetic in shell scripts: numbers of 64 bits that wrap around, the usual operators with their ranks, and
assignments. An operand that is not needed is read but not worked out. -/

namespace AlloyGrade.Shell.Arithmetic

def wrap (n : Int) : Int := Int.bmod n (Nat.pow 2 64)

def largest : Int := Int.pow 2 63 - 1

def smallest : Int := -Int.pow 2 63

inductive BinaryOp where
  | mul
  | div
  | rem
  | add
  | sub
  | shiftLeft
  | shiftRight
  | lt
  | le
  | gt
  | ge
  | eq
  | ne
  | and
  | xor
  | or
deriving DecidableEq, Repr

namespace BinaryOp

/-- Operators of lower rank bind first. -/
def rank : BinaryOp → Nat
  | .mul | .div | .rem => 0
  | .add | .sub => 1
  | .shiftLeft | .shiftRight => 2
  | .lt | .le | .gt | .ge => 3
  | .eq | .ne => 4
  | .and => 5
  | .xor => 6
  | .or => 7

end BinaryOp

inductive Token where
  | number (n : Int)
  | name (n : Octets)
  | op (o : BinaryOp)
  /-- An assignment, perhaps together with an operator. -/
  | assign (o : Option BinaryOp)
  | both
  | either
  | not
  | complement
  | open_
  | close
  | question
  | colon
  | bad
  | eof
deriving DecidableEq, Repr

/-! ### Numbers -/

def isBlank (c : Char) : Bool := c = ' ' || (9 ≤ c.toNat && c.toNat ≤ 13)

def digitValue (c : Char) : Nat :=
  if c.isDigit then c.toNat - '0'.toNat
  else if 'a' ≤ c && c ≤ 'z' then c.toNat - 'a'.toNat + 10
  else if 'A' ≤ c && c ≤ 'Z' then c.toNat - 'A'.toNat + 10
  else 99

def digits (base : Nat) (cs : Octets) : Nat × Octets :=
  let ds := cs.takeWhile fun c => digitValue c < base
  (ds.foldl (fun n c => base * n + digitValue c) 0, cs.drop ds.length)

/-- A number without sign, decimal, octal behind a zero, or hexadecimal behind `0x`; and what follows. -/
def unsigned (cs : Octets) : Option (Nat × Octets) :=
  match cs with
  | '0' :: x :: c :: rest =>
    if (x = 'x' || x = 'X') && digitValue c < 16 then some (digits 16 (c :: rest))
    else some (digits 8 cs)
  | '0' :: _ => some (digits 8 cs)
  | c :: _ => if c.isDigit then some (digits 10 cs) else none
  | [] => none

/-- A number at the start of a text, perhaps behind blanks and a sign, cut to what fits; whether it had to be cut;
and what follows it. -/
def leading (cs : Octets) : Option (Int × Bool × Octets) :=
  let cs := cs.dropWhile isBlank
  let (negative, cs) := match cs with
    | '-' :: rest => (true, rest)
    | '+' :: rest => (false, rest)
    | _ => (false, cs)
  (unsigned cs).map fun (n, rest) =>
    let value : Int := if negative then -(n : Int) else n
    (max smallest (min largest value), value < smallest || largest < value, rest)

/-- The number that a variable holds; nothing counts as zero. -/
def ofValue? (cs : Octets) : Option Int :=
  match leading cs with
  | some (n, cut, rest) => if cut || !rest.all isBlank then none else some n
  | none => if cs.all isBlank then some 0 else none

/-! ### Tokens -/

/-- An operator that an equals sign turns into an assignment. -/
def withEquals (o : BinaryOp) : Octets → Token × Octets
  | '=' :: rest => (.assign (some o), rest)
  | rest => (.op o, rest)

def nextToken (cs : Octets) : Token × Octets :=
  let cs := cs.dropWhile fun c => c = ' ' || c = '\t' || c = '\n'
  match cs with
  | [] => (.eof, [])
  | c :: rest =>
    if c.isDigit then
      match unsigned cs with
      | some (n, rest) => (.number (min largest n), rest)
      | none => (.bad, cs)
    else if isNameStart c then
      let name := cs.takeWhile isNameChar
      (.name name, cs.drop name.length)
    else match c, rest with
      | '=', '=' :: rest => (.op .eq, rest)
      | '=', _ => (.assign none, rest)
      | '>', '=' :: rest => (.op .ge, rest)
      | '>', '>' :: rest => withEquals .shiftRight rest
      | '>', _ => (.op .gt, rest)
      | '<', '=' :: rest => (.op .le, rest)
      | '<', '<' :: rest => withEquals .shiftLeft rest
      | '<', _ => (.op .lt, rest)
      | '|', '|' :: rest => (.either, rest)
      | '|', _ => withEquals .or rest
      | '&', '&' :: rest => (.both, rest)
      | '&', _ => withEquals .and rest
      | '!', '=' :: rest => (.op .ne, rest)
      | '!', _ => (.not, rest)
      | '(', _ => (.open_, rest)
      | ')', _ => (.close, rest)
      | '*', _ => withEquals .mul rest
      | '/', _ => withEquals .div rest
      | '%', _ => withEquals .rem rest
      | '+', _ => withEquals .add rest
      | '-', _ => withEquals .sub rest
      | '^', _ => withEquals .xor rest
      | '~', _ => (.complement, rest)
      | '?', _ => (.question, rest)
      | ':', _ => (.colon, rest)
      | _, _ => (.bad, cs)

/-! ### Evaluation -/

inductive Fault where
  /-- The expression itself is wrong. -/
  | expression (message : String)
  | illegalNumber (text : Octets)
  | readOnly (name : Octets)
deriving DecidableEq, Repr

structure State where
  rest : Octets
  last : Token
  /-- The variables that have been assigned, the latest first. -/
  assigned : List (Octets × Int)

/-- What an expression can see. -/
structure Context where
  value? : Octets → Option Octets
  isReadOnly : Octets → Bool

abbrev Eval := ReaderT Context (StateT State (Except Fault))

def fault {α : Type} (message : String) : Eval α := throw (.expression message)

def next : Eval Token := modifyGet fun s =>
  let (t, rest) := nextToken s.rest
  (t, { s with rest })

def ended (t : Token) : Eval Unit := modify ({ · with last := t })

def valueOf (name : Octets) : Eval Int := do
  match (← get).assigned.lookup name with
  | some n => return n
  | none =>
    let text := ((← read).value? name).getD []
    match ofValue? text with
    | some n => return n
    | none => throw (.illegalNumber text)

def store (name : Octets) (n : Int) : Eval Int := do
  if (← read).isReadOnly name then throw (.readOnly name)
  modify fun s => { s with assigned := (name, n) :: s.assigned }
  return n

def truth (b : Bool) : Int := if b then 1 else 0

/-- Works a bitwise operation out on 64 bits. -/
def bitwise (f : Nat → Nat → Nat) (a b : Int) : Int :=
  wrap (f (a % Int.pow 2 64).toNat (b % Int.pow 2 64).toNat)

def apply (o : BinaryOp) (a b : Int) : Eval Int := do
  match o with
  | .mul => return wrap (a * b)
  | .div => if b = 0 then fault "division by zero" else return wrap (a.tdiv b)
  | .rem => if b = 0 then fault "division by zero" else return wrap (a.tmod b)
  | .add => return wrap (a + b)
  | .sub => return wrap (a - b)
  | .shiftLeft => return wrap (a * Int.pow 2 (b % 64).toNat)
  | .shiftRight => return a.fdiv (Int.pow 2 (b % 64).toNat)
  | .lt => return truth (a < b)
  | .le => return truth (a ≤ b)
  | .gt => return truth (b < a)
  | .ge => return truth (b ≤ a)
  | .eq => return truth (a = b)
  | .ne => return truth (a ≠ b)
  | .and => return bitwise Nat.land a b
  | .xor => return bitwise Nat.xor a b
  | .or => return bitwise Nat.lor a b

mutual

/-- A value with its signs, given the token and the one behind it. -/
def primary : Nat → Token → Token → Bool → Eval Int
  | 0, _, _, _ => fault "expecting primary"
  | fuel + 1, t, ahead, idle => do
    match t with
    | .open_ =>
      let n ← assignment fuel ahead idle
      if (← get).last ≠ .close then fault "expecting ')'"
      ended (← next)
      return n
    | .number n =>
      ended ahead
      return n
    | .name name =>
      ended ahead
      if idle then return 0 else valueOf name
    | .op .add => primary fuel ahead (← next) idle
    | .op .sub => do return wrap (-(← primary fuel ahead (← next) idle))
    | .not => do return truth ((← primary fuel ahead (← next) idle) = 0)
    | .complement => do return -(← primary fuel ahead (← next) idle) - 1
    | _ => fault "expecting primary"

/-- Goes on behind a value and an operator, as long as operators rank below `limit`. -/
def operators : Nat → Int → BinaryOp → Nat → Bool → Eval Int
  | 0, a, _, _, _ => return a
  | fuel + 1, a, o, limit, idle => do
    let t ← next
    let b ← primary fuel t (← next) idle
    let b ← match (← get).last with
      | .op o2 => if o2.rank < o.rank then operators fuel b o2 o.rank idle else pure b
      | _ => pure b
    let a ← if idle then pure b else apply o a b
    match (← get).last with
    | .op o2 => if limit ≤ o2.rank then return a else operators fuel a o2 limit idle
    | _ => return a

def binary : Nat → Token → Token → Bool → Eval Int
  | 0, _, _, _ => fault "expecting primary"
  | fuel + 1, t, ahead, idle => do
    let a ← primary fuel t ahead idle
    match (← get).last with
    | .op o => operators fuel a o 8 idle
    | _ => return a

def conjunction : Nat → Token → Token → Bool → Eval Int
  | 0, _, _, _ => fault "expecting primary"
  | fuel + 1, t, ahead, idle => do
    let a ← binary fuel t ahead idle
    if (← get).last ≠ .both then return a
    let t ← next
    let b ← conjunction fuel t (← next) (idle || a = 0)
    return truth (a ≠ 0 && b ≠ 0)

def disjunction : Nat → Token → Token → Bool → Eval Int
  | 0, _, _, _ => fault "expecting primary"
  | fuel + 1, t, ahead, idle => do
    let a ← conjunction fuel t ahead idle
    if (← get).last ≠ .either then return a
    let t ← next
    let b ← disjunction fuel t (← next) (idle || a ≠ 0)
    return truth (a ≠ 0 || b ≠ 0)

def conditional : Nat → Token → Token → Bool → Eval Int
  | 0, _, _, _ => fault "expecting primary"
  | fuel + 1, t, ahead, idle => do
    let a ← disjunction fuel t ahead idle
    if (← get).last ≠ .question then return a
    let b ← assignment fuel (← next) (idle || a = 0)
    if (← get).last ≠ .colon then fault "expecting ':'"
    let t ← next
    let c ← conditional fuel t (← next) (idle || a ≠ 0)
    return if a ≠ 0 then b else c

/-- An assignment, or whatever ranks below it. -/
def assignment : Nat → Token → Bool → Eval Int
  | 0, _, _ => fault "expecting primary"
  | fuel + 1, t, idle => do
    let ahead ← next
    match t, ahead with
    | .name name, .assign o =>
      let n ← assignment fuel (← next) idle
      if idle then return n
      match o with
      | none => store name n
      | some o => store name (← apply o (← valueOf name) n)
    | _, _ => conditional fuel t ahead idle

end

def whole (fuel : Nat) : Eval Int := do
  let n ← assignment fuel (← next) false
  if (← get).last ≠ .eof then fault "expecting EOF"
  return n

/-- The value of an expression, with the assignments that it makes, first to last. -/
def evaluate (context : Context) (text : Octets) : Except Fault (Int × List (Octets × Int)) :=
  match (whole (16 * (text.length + 2))).run context |>.run ⟨text, .eof, []⟩ with
  | .ok (n, s) => .ok (n, s.assigned.reverse)
  | .error e => .error e

end AlloyGrade.Shell.Arithmetic
