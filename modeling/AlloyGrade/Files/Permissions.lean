import AlloyGrade.Text.Octets

/-! Permission bits written as octal numbers or as symbolic changes such as `u+rwx,g=u`. -/

namespace AlloyGrade

namespace Permissions

/-- Which bits a change gives. -/
inductive Source where
  | bits (value : Nat)
  /-- Those, and execution for all if somebody has it already. -/
  | bitsOrExecution (value : Nat)
  /-- Those that some part of the old bits has, for all parts. -/
  | copied (part : Nat)
deriving DecidableEq, Repr

structure Change where
  op : Char
  /-- The bits that may change; zero means all that the mask of the process leaves. -/
  affected : Nat
  source : Source
deriving DecidableEq, Repr

def whoBits : Char → Option Nat
  | 'u' => some 0o4700
  | 'g' => some 0o2070
  | 'o' => some 0o1007
  | 'a' => some 0o7777
  | _ => none

def isOperator (c : Char) : Bool := c = '+' || c = '-' || c = '='

/-- The permission letters behind an operator. -/
def letters : Octets → Nat → Bool → Source × Octets
  | 'r' :: rest, v, x => letters rest (v ||| 0o444) x
  | 'w' :: rest, v, x => letters rest (v ||| 0o222) x
  | 'x' :: rest, v, x => letters rest (v ||| 0o111) x
  | 'X' :: rest, v, _ => letters rest v true
  | 's' :: rest, v, x => letters rest (v ||| 0o6000) x
  | 't' :: rest, v, x => letters rest (v ||| 0o1000) x
  | rest, v, x => (if x then .bitsOrExecution v else .bits v, rest)

/-- The operators of one clause, at least one. -/
def operators : Nat → Nat → Octets → List Change → Option (List Change)
  | 0, _, _, _ => none
  | fuel + 1, affected, cs, acc =>
    match cs with
    | [] => if acc.isEmpty then none else some acc.reverse
    | op :: rest =>
      if !isOperator op then none
      else match rest with
        | 'u' :: rest => operators fuel affected rest (⟨op, affected, .copied 0o700⟩ :: acc)
        | 'g' :: rest => operators fuel affected rest (⟨op, affected, .copied 0o070⟩ :: acc)
        | 'o' :: rest => operators fuel affected rest (⟨op, affected, .copied 0o007⟩ :: acc)
        | _ =>
          let (source, rest) := letters rest 0 false
          operators fuel affected rest (⟨op, affected, source⟩ :: acc)

def clause? (cs : Octets) : Option (List Change) :=
  let who := cs.takeWhile fun c => (whoBits c).isSome
  let affected := who.foldl (fun a c => a ||| (whoBits c).getD 0) 0
  operators (cs.length + 1) affected (cs.drop who.length) []

/-- The changes that a symbolic text asks for. -/
def symbolic? (cs : Octets) : Option (List Change) :=
  ((Octets.splitOn ',' cs).mapM clause?).map List.flatten

def octal? (cs : Octets) : Option Nat :=
  let n := cs.foldl (fun n c => 8 * n + (c.toNat - '0'.toNat)) 0
  if !cs.isEmpty && cs.all (fun c => '0' ≤ c && c ≤ '7') && n ≤ 0o7777 then some n else none

/-- For all parts, the bits that some part has. -/
def spread (v : Nat) : Nat :=
  v ||| (if v &&& 0o444 ≠ 0 then 0o444 else 0) ||| (if v &&& 0o222 ≠ 0 then 0o222 else 0) |||
    (if v &&& 0o111 ≠ 0 then 0o111 else 0)

def without (a b : Nat) : Nat := a &&& (0o7777 ^^^ (b &&& 0o7777))

def Change.apply (umask : Nat) (isDir : Bool) (mode : Nat) (c : Change) : Nat :=
  let value := match c.source with
    | .bits v => v
    | .bitsOrExecution v => if isDir || mode &&& 0o111 ≠ 0 then v ||| 0o111 else v
    | .copied part => spread (mode &&& part)
  let omitted := if isDir then 0o6000 else 0
  let value := without (if c.affected = 0 then without value umask else value &&& c.affected) omitted
  match c.op with
  | '+' => mode ||| value
  | '-' => without mode value
  | _ => (if c.affected = 0 then mode &&& omitted else without mode c.affected ||| (mode &&& omitted)) ||| value

def applyAll (umask : Nat) (isDir : Bool) (mode : Nat) (cs : List Change) : Nat :=
  cs.foldl (Change.apply umask isDir) mode

/-- The letters of three bits. -/
def triple (v : Nat) : Octets :=
  (if v &&& 4 ≠ 0 then ['r'] else []) ++ (if v &&& 2 ≠ 0 then ['w'] else []) ++ (if v &&& 1 ≠ 0 then ['x'] else [])

end Permissions

end AlloyGrade
