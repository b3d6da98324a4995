import AlloyGrade.Shell.Arithmetic
import AlloyGrade.Shell.State

/-! The builtin `test`: conditions on texts, numbers and files. -/

namespace AlloyGrade.Shell

open Process

/-- A decimal number, perhaps between blanks. -/
def decimalNumber? (cs : Octets) : Option Int :=
  let cs := cs.dropWhile Arithmetic.isBlank
  let (negative, ds) := match cs with
    | '-' :: rest => (true, rest)
    | '+' :: rest => (false, rest)
    | _ => (false, cs)
  let digits := ds.takeWhile Char.isDigit
  let n : Int := if negative then -(Octets.decimal digits : Int) else Octets.decimal digits
  if digits.isEmpty || !(ds.drop digits.length).all Arithmetic.isBlank || n < Arithmetic.smallest || Arithmetic.largest < n then
    none
  else some n

/-- A decimal number, or a complaint. -/
def decimalNumber (cs : Octets) : Sh Int :=
  match decimalNumber? cs with
  | some n => return n
  | none => Sh.fail ("Illegal number: ".toList ++ cs)

namespace Test

inductive Operator where
  | unary (letter : Char)
  | binary (text : String)
  | not
  | and
  | or
  | open_
  | close
deriving DecidableEq, Repr

def binaries : List String :=
  ["=", "!=", "<", ">", "-eq", "-ne", "-ge", "-gt", "-le", "-lt", "-nt", "-ot", "-ef"]

def unaries : List Char :=
  ['r', 'w', 'x', 'e', 'f', 'd', 'c', 'b', 'p', 'u', 'g', 'k', 's', 't', 'z', 'n', 'h', 'O', 'G', 'L', 'S']

def operator? (cs : Octets) : Option Operator :=
  match cs with
  | ['!'] => some .not
  | ['-', 'a'] => some .and
  | ['-', 'o'] => some .or
  | ['('] => some .open_
  | [')'] => some .close
  | ['-', c] => if unaries.contains c then some (.unary c) else none
  | _ => (binaries.find? (·.toList == cs)).map .binary

def isBinary (cs : Octets) : Bool :=
  match operator? cs with
  | some (.binary _) => true
  | _ => false

/-- What stands at a place: nothing, an operator, or an operand. -/
inductive Item where
  | nothing
  | operand
  | operator (o : Operator)
deriving DecidableEq

def item (args : Array Octets) (i : Nat) : Item :=
  match args[i]? with
  | none => .nothing
  | some s =>
    match operator? s with
    | some (.unary c) =>
      let isOperand := match args[i + 1]?, args[i + 2]? with
        | none, _ => true
        | some _, none => false
        | some next, some _ => isBinary next
      if isOperand then .operand else .operator (.unary c)
    | some .open_ => if (args[i + 1]?).isNone then .operand else .operator .open_
    | some o => .operator o
    | none => .operand

def syntaxFault {α : Type} (op : Octets) (message : String) : Sh α :=
  Sh.fail (if op.isEmpty then message.toList else op ++ ": ".toList ++ message.toList)

/-- A condition on one file. -/
def file (v : View) (letter : Char) (name : Octets) : Bool :=
  let follow := letter ≠ 'h' && letter ≠ 'L'
  match v.fs.find v.cwd follow (Octets.toPath name) with
  | .error _ => false
  | .ok (_, entry) =>
    match letter, entry with
    | 'f', .file _ => true
    | 'd', .dir => true
    | 'p', .fifo => true
    | 'c', .device _ => true
    | 'h', .link _ | 'L', .link _ => true
    | 'x', .file f => f.isExecutable
    | 'x', .dir => true
    | 's', .file f => !f.content.isEmpty
    | 's', .dir => true
    | 'u', .file f => f.mode &&& 0o4000 ≠ 0
    | 'g', .file f => f.mode &&& 0o2000 ≠ 0
    | 'k', .file f => f.mode &&& 0o1000 ≠ 0
    | 'e', _ | 'r', _ | 'w', _ | 'O', _ | 'G', _ => true
    | _, _ => false

def binary (v : View) (op : String) (a b : Octets) : Sh Bool := do
  let compare (holds : Int → Int → Bool) : Sh Bool := do
    let x ← decimalNumber a
    let y ← decimalNumber b
    return holds x y
  match op with
  | "=" => return a == b
  | "!=" => return a != b
  | "<" => return Octets.lt a b
  | ">" => return Octets.lt b a
  | "-eq" => compare (· == ·)
  | "-ne" => compare (· != ·)
  | "-ge" => compare (fun x y => decide (y ≤ x))
  | "-gt" => compare (fun x y => decide (y < x))
  | "-le" => compare (fun x y => decide (x ≤ y))
  | "-lt" => compare (fun x y => decide (x < y))
  | "-ef" =>
    match v.fs.stat v.cwd (Octets.toPath a), v.fs.stat v.cwd (Octets.toPath b) with
    | .ok (l, .file f), .ok (m, .file g) => return l == m || (f.serial ≠ 0 && f.serial == g.serial)
    | .ok (l, _), .ok (m, _) => return l == m
    | _, _ => return false
  | "-nt" | "-ot" =>
    match v.fs.stat v.cwd (Octets.toPath a), v.fs.stat v.cwd (Octets.toPath b) with
    | .ok (_, x), .ok (_, y) => return if op = "-nt" then y.modified < x.modified else x.modified < y.modified
    | _, _ => return false
  | _ => return false

mutual

/-- A condition without operators between conditions, from a place on; the place of its last argument comes back. -/
def primary (v : View) (args : Array Octets) : Nat → Nat → Item → Sh (Bool × Nat)
  | 0, i, _ => return (false, i)
  | fuel + 1, i, here => do
    match here with
    | .nothing => return (false, i)
    | .operator .open_ =>
      let next := item args (i + 1)
      if next = .operator .close then return (false, i + 1)
      let (b, i) ← disjunction v args fuel (i + 1) next false
      if item args (i + 1) ≠ .operator .close then syntaxFault [] "closing paren expected"
      return (b, i + 1)
    | .operator (.unary c) =>
      match args[i + 1]? with
      | none => syntaxFault ['-', c] "argument expected"
      | some a =>
        match c with
        | 'z' => return (a.isEmpty, i + 1)
        | 'n' => return (!a.isEmpty, i + 1)
        | 't' =>
          let _ ← decimalNumber a
          return (false, i + 1)
        | _ => return (file v c a, i + 1)
    | _ =>
      match item args (i + 1) with
      | .operator (.binary op) =>
        match args[i + 2]? with
        | none => syntaxFault op.toList "argument expected"
        | some b => return (← binary v op ((args[i]?).getD []) b, i + 2)
      | _ => return (!((args[i]?).getD []).isEmpty, i)

def negation (v : View) (args : Array Octets) : Nat → Nat → Item → Sh (Bool × Nat)
  | 0, i, _ => return (false, i)
  | fuel + 1, i, here => do
    if here = .operator .not then
      let next := item args (i + 1)
      let (b, i) ← negation v args fuel (if next = .nothing then i else i + 1) next
      return (!b, i)
    else primary v args fuel i here

def conjunction (v : View) (args : Array Octets) : Nat → Nat → Item → Bool → Sh (Bool × Nat)
  | 0, i, _, sofar => return (sofar, i)
  | fuel + 1, i, here, sofar => do
    let (b, i) ← negation v args fuel i here
    if item args (i + 1) = .operator .and then conjunction v args fuel (i + 2) (item args (i + 2)) (sofar && b)
    else return (sofar && b, i)

def disjunction (v : View) (args : Array Octets) : Nat → Nat → Item → Bool → Sh (Bool × Nat)
  | 0, i, _, sofar => return (sofar, i)
  | fuel + 1, i, here, sofar => do
    let (b, i) ← conjunction v args fuel i here true
    if item args (i + 1) = .operator .or then disjunction v args fuel (i + 2) (item args (i + 2)) (sofar || b)
    else return (sofar || b, i)

end

/-- Evaluates arguments; with few of them some readings are preferred. -/
def evaluate (v : View) : Nat → List Octets → Bool → Sh Bool
  | 0, _, _ => return false
  | fuel + 1, args, wanted => do
    let run (args : List Octets) (first : Option Item) : Sh Bool := do
      let array := args.toArray
      let (b, i) ← disjunction v array (8 * (args.length + 2)) 0 (first.getD (item array 0)) false
      match array[i]?, array[i + 1]? with
      | some a, some _ => syntaxFault a "unexpected operator"
      | _, _ => return b == wanted
    match args with
    | [] => return !wanted
    | [_, op, _] =>
      if isBinary op then run args (some .operand)
      else if args.head? = some ['('] && args.getLast? = some [')'] then run (args.drop 1).dropLast none
      else if args.head? = some ['!'] then evaluate v fuel (args.drop 1) (!wanted)
      else run args none
    | [_, _, _, _] =>
      if args.head? = some ['('] && args.getLast? = some [')'] then run (args.drop 1).dropLast none
      else if args.head? = some ['!'] then evaluate v fuel (args.drop 1) (!wanted)
      else run args none
    | _ => run args none

end Test

namespace Builtin

/-- Evaluates a condition; under the name of a bracket it ends with one. -/
def test (name : Octets) (args : List Octets) : Sh Nat := do
  let args ← if name.head? = some '[' then
      if args.getLast?.bind (·.head?) = some ']' then pure args.dropLast else Sh.failString "missing ]"
    else pure args
  let v ← Sh.view
  let b ← Test.evaluate v (args.length + 1) args true
  return if b then 0 else 1

end Builtin

end AlloyGrade.Shell
