import AlloyGrade.Text.RegexSyntax
import AlloyGrade.Utility.Quoting

/-! The utility that evaluates an expression given as arguments, on texts and on whole numbers of any size. -/

namespace AlloyGrade.Utility

open Process Tool

namespace Expr

/-- The arguments that have been used, last first, and those still to come. -/
structure Place where
  used : List Octets
  rest : List Octets

abbrev Eval := StateT Place Tool

def broken {α : Type} (message : Octets) : Eval α := fail 2 ("syntax error: ".toList ++ message)

/-- Uses an argument up if it is the one that is looked for. -/
def accept (text : String) : Eval Bool := do
  let s ← get
  match s.rest with
  | a :: rest =>
    if a == text.toList then
      set (Place.mk (a :: s.used) rest)
      return true
    else return false
  | [] => return false

/-- The first of some arguments that comes next. -/
def acceptAny : List String → Eval (Option String)
  | [] => return none
  | t :: more => do if ← accept t then return some t else acceptAny more

/-- The whole number that a text spells. -/
def integer? (text : Octets) : Option Int :=
  match text with
  | '-' :: ds => (Octets.decimal? ds).map fun n => -(n : Int)
  | ds => (Octets.decimal? ds).map fun n => (n : Int)

def integer (text : Octets) : Eval Int :=
  match integer? text with
  | some n => return n
  | none => fail 2 "non-integer argument".toList

/-- Whether a value counts as false: nothing, or zeros only. -/
def isNull (v : Octets) : Bool :=
  v.isEmpty || (let ds := if v.head? = some '-' then v.drop 1 else v; !ds.isEmpty && ds.all (· == '0'))

/-- The part of a text that an expression matches from its start: the first group, or else a length. -/
def matched (text pattern : Octets) : Eval Octets := do
  match Regex.ofOctets ⟨false, false, false⟩ pattern with
  | .error e => fail 2 e.message.toList
  | .ok (r, groups, _) =>
    let cs := text.toArray
    match r.longest? ⟨false, false⟩ cs 0 with
    | some (stop, found) =>
      if groups = 0 then return Octets.ofNat stop
      else return Regex.Match.part ⟨0, stop, found⟩ cs 1
    | none => return if groups = 0 then ['0'] else []

def arithmetic (op : String) (a b : Octets) : Eval Octets := do
  let x ← integer a
  let y ← integer b
  if (op = "/" || op = "%") && y = 0 then fail 2 "division by zero".toList
  return Octets.ofInt (match op with
    | "+" => x + y
    | "-" => x - y
    | "*" => x * y
    | "/" => x.tdiv y
    | _ => x.tmod y)

def comparison (op : String) (a b : Octets) : Octets :=
  let order : Ordering := match integer? a, integer? b with
    | some x, some y => compare x y
    | _, _ => if a == b then .eq else if Octets.lt a b then .lt else .gt
  let holds : Bool := match op with
    | "<" => order == .lt
    | "<=" => order != .gt
    | "=" | "==" => order == .eq
    | "!=" => order != .eq
    | ">=" => order != .lt
    | _ => order == .gt
  if holds then ['1'] else ['0']

def operators : List (List String) :=
  [["|"], ["&"], ["<", "<=", "==", "=", "!=", ">=", ">"], ["+", "-"], ["*", "/", "%"], [":"]]

/-- The value of an operation; nothing is computed that does not matter. -/
def apply (live : Bool) (op : String) (a b : Octets) : Eval Octets := do
  match op with
  | "|" => return if !isNull a then a else if isNull b then ['0'] else b
  | "&" => return if isNull a || isNull b then ['0'] else a
  | ":" => if live then matched a b else return a
  | "+" | "-" | "*" | "/" | "%" => if live then arithmetic op a b else return a
  | _ => return comparison op a b

mutual

/-- An expression of operators of some level or higher. -/
def level : Nat → List (List String) → Bool → Eval Octets
  | 0, _, _ => return []
  | fuel + 1, [], live => keyword fuel live
  | fuel + 1, ops :: higher, live => do
    let a ← level fuel higher live
    continued fuel ops higher live a

/-- Goes on with operators of one level. -/
def continued : Nat → List String → List (List String) → Bool → Octets → Eval Octets
  | 0, _, _, _, a => return a
  | fuel + 1, ops, higher, live, a => do
    match ← acceptAny ops with
    | none => return a
    | some op =>
      let needed := match op with
        | "|" => isNull a
        | "&" => !isNull a
        | _ => true
      let b ← level fuel higher (live && needed)
      continued fuel ops higher live (← apply live op a b)

/-- An operation that has a name, or an operand. -/
def keyword : Nat → Bool → Eval Octets
  | 0, _ => return []
  | fuel + 1, live => do
    if ← accept "+" then
      let s ← get
      match s.rest with
      | a :: rest =>
        set (Place.mk (a :: s.used) rest)
        return a
      | [] => missing
    else if ← accept "length" then return Octets.ofNat (← keyword fuel live).length
    else if ← accept "match" then
      let a ← keyword fuel live
      let b ← keyword fuel live
      if live then matched a b else return a
    else if ← accept "index" then
      let a ← keyword fuel live
      let b ← keyword fuel live
      let before := a.takeWhile (!b.contains ·)
      return Octets.ofNat (if before.length < a.length then before.length + 1 else 0)
    else if ← accept "substr" then
      let a ← keyword fuel live
      let start ← keyword fuel live
      let size ← keyword fuel live
      match integer? start, integer? size with
      | some p, some n => return if p < 1 || n < 1 then [] else (a.drop (p.toNat - 1)).take n.toNat
      | _, _ => return []
    else operand fuel live

/-- A text, or an expression in parentheses. -/
def operand : Nat → Bool → Eval Octets
  | 0, _ => return []
  | fuel + 1, live => do
    let s ← get
    match s.rest with
    | [] => missing
    | ['('] :: rest =>
      set (Place.mk (['('] :: s.used) rest)
      let v ← level fuel operators live
      let s ← get
      match s.rest with
      | [')'] :: rest =>
        set (Place.mk ([')'] :: s.used) rest)
        return v
      | [] => broken ("expecting ')' after ".toList ++ textQuoted (s.used.headD []))
      | other :: _ => broken ("expecting ')' instead of ".toList ++ textQuoted other)
    | [')'] :: _ => broken "unexpected ')'".toList
    | a :: rest =>
      set (Place.mk (a :: s.used) rest)
      return a

/-- Nothing stands where an operand should. -/
def missing : Eval Octets := do
  broken ("missing argument after ".toList ++ textQuoted ((← get).used.headD []))

end

end Expr

def expr : Body := fun args => do
  let args := if args.head? == some ['-', '-'] then args.drop 1 else args
  if args.isEmpty then misuse 2 "missing operand".toList
  let whole : Expr.Eval Octets := do
    let v ← Expr.level (8 * args.length + 16) Expr.operators true
    match (← get).rest with
    | [] => return v
    | other :: _ => Expr.broken ("unexpected argument ".toList ++ textQuoted other)
  let (v, _) ← whole.run ⟨[], args⟩
  putLine v
  exit (if Expr.isNull v then 1 else 0)

end AlloyGrade.Utility
