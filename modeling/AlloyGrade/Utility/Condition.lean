import AlloyGrade.Utility.Quoting

/-! The utility that checks conditions on texts, numbers and files. -/

namespace AlloyGrade.Utility

open Process Tool

namespace Condition

/-- The arguments still to be looked at. -/
abbrev Checking := StateT (List Octets) Tool

def broken {α : Type} (message : Octets) : Checking α := fail 2 message

/-- The last argument of all, behind which something is missing. -/
def beyond {α : Type} (args : List Octets) : Checking α :=
  broken ("missing argument after ".toList ++ textQuoted (args.getLast?.getD []))

def binaries : List String := ["=", "==", "!=", "-nt", "-ot", "-ef", "-eq", "-ne", "-lt", "-le", "-gt", "-ge"]

def isBinary (a : Octets) : Bool := binaries.any (·.toList == a)

/-- A decimal number, perhaps between blanks. -/
def integer (text : Octets) : Checking Int := do
  let isBlank (c : Char) : Bool := c = ' ' || c = '\t'
  let body := text.dropWhile isBlank
  let digits := match body with
    | '-' :: rest | '+' :: rest => rest
    | _ => body
  let ds := digits.takeWhile Char.isDigit
  if ds.isEmpty || !(digits.drop ds.length).all isBlank then broken ("invalid integer ".toList ++ textQuoted text)
  return if body.head? = some '-' then -(Octets.decimal ds : Int) else Octets.decimal ds

/-- A condition on one file. -/
def file (v : View) (letter : Char) (name : Octets) : Bool :=
  match v.fs.find v.cwd (letter ≠ 'h' && letter ≠ 'L') (Octets.toPath name) with
  | .error _ => false
  | .ok (_, entry) =>
    match letter, entry with
    | 'f', .file _ | 'd', .dir | 'p', .fifo | 'c', .device _ | 'h', .link _ | 'L', .link _ | 'x', .dir | 's', .dir => true
    | 'x', .file f => f.isExecutable
    | 's', .file f => !f.content.isEmpty
    | 'u', .file f => f.mode &&& 0o4000 ≠ 0
    | 'g', .file f => f.mode &&& 0o2000 ≠ 0
    | 'k', .file f => f.mode &&& 0o1000 ≠ 0
    | 'e', _ | 'r', _ | 'w', _ | 'O', _ | 'G', _ => true
    | _, _ => false

def isSwitch : Octets → Bool
  | ['-', _] => true
  | _ => false

/-- A condition of one letter and one operand. -/
def unary (args : List Octets) : Checking Bool := do
  match ← get with
  | ['-', c] :: rest =>
    if !"erwxNOGfdsScbpLhugktnz".toList.contains c then
      broken (textQuoted ['-', c] ++ ": unary operator expected".toList)
    match rest with
    | [] => beyond args
    | operand :: rest =>
      set rest
      match c with
      | 'n' => return !operand.isEmpty
      | 'z' => return operand.isEmpty
      | 't' =>
        let _ ← integer operand
        return false
      | _ => return file (← view) c operand
  | _ => return false

/-- Two files that are one and the same. -/
def isSame (v : View) (a b : Octets) : Bool :=
  match v.fs.stat v.cwd (Octets.toPath a), v.fs.stat v.cwd (Octets.toPath b) with
  | .ok (la, ea), .ok (lb, eb) =>
    la = lb || match ea, eb with
      | .file f, .file g => f.serial ≠ 0 && f.serial = g.serial
      | _, _ => false
  | _, _ => false

/-- Whether the first file was changed after the second, or the second is missing. -/
def isNewer (v : View) (a b : Octets) : Bool :=
  match v.fs.stat v.cwd (Octets.toPath a), v.fs.stat v.cwd (Octets.toPath b) with
  | .ok (_, ea), .ok (_, eb) => eb.modified < ea.modified
  | .ok _, .error _ => true
  | .error _, _ => false

def compare (op : String) (a b : Octets) : Checking Bool := do
  match op with
  | "=" | "==" => return a == b
  | "!=" => return a != b
  | "-ef" => return isSame (← view) a b
  | "-nt" => return isNewer (← view) a b
  | "-ot" => return isNewer (← view) b a
  | _ =>
    let x ← integer a
    let y ← integer b
    return match op with
      | "-eq" => x == y
      | "-ne" => x != y
      | "-lt" => x < y
      | "-le" => x ≤ y
      | "-gt" => x > y
      | _ => x ≥ y

/-- A length in place of a number, if it is asked for. -/
def lengthOf (a : Octets) : Octets := Octets.ofNat a.length

def binary (leftLength : Bool) : Checking Bool := do
  let left ← get
  match if leftLength then left.drop 1 else left with
  | a :: op :: rest =>
    let a := if leftLength then lengthOf a else a
    let (b, rest) := match rest with
      | ['-', 'l'] :: b :: rest => (lengthOf b, rest)
      | b :: rest => (b, rest)
      | [] => ([], [])
    set rest
    compare (String.ofList op) a b
  | _ => return false

def oneArgument : Checking Bool := do
  let a := (← get).headD []
  modify (·.drop 1)
  return !a.isEmpty

def twoArguments (args : List Octets) : Checking Bool := do
  match ← get with
  | a :: _ =>
    if a == ['!'] then
      modify (·.drop 1)
      return !(← oneArgument)
    else if isSwitch a then unary args
    else beyond args
  | [] => beyond args

mutual

/-- A condition made of so many arguments. -/
def posix (args : List Octets) : Nat → Nat → Checking Bool
  | 0, _ => return false
  | fuel + 1, count => do
    let left ← get
    match count with
    | 1 => oneArgument
    | 2 => twoArguments args
    | 3 => threeArguments args fuel
    | 4 =>
      if left.head? == some ['!'] then
        modify (·.drop 1)
        return !(← threeArguments args fuel)
      else if left.head? == some ['('] && left[3]? == some [')'] then
        modify (·.drop 1)
        let value ← twoArguments args
        modify (·.drop 1)
        return value
      else disjunction args fuel
    | _ => disjunction args fuel

def threeArguments (args : List Octets) : Nat → Checking Bool
  | 0 => return false
  | fuel + 1 => do
    let left ← get
    let middle := left[1]?.getD []
    if isBinary middle then binary false
    else if left.head? == some ['!'] then
      modify (·.drop 1)
      return !(← twoArguments args)
    else if left.head? == some ['('] && left[2]? == some [')'] then
      modify (·.drop 1)
      let value ← oneArgument
      modify (·.drop 1)
      return value
    else if middle == ['-', 'a'] || middle == ['-', 'o'] then disjunction args fuel
    else broken (textQuoted middle ++ ": binary operator expected".toList)

def disjunction (args : List Octets) : Nat → Checking Bool
  | 0 => return false
  | fuel + 1 => do
    let value ← conjunction args fuel
    if (← get).head? == some ['-', 'o'] then
      modify (·.drop 1)
      let other ← disjunction args fuel
      return value || other
    else return value

def conjunction (args : List Octets) : Nat → Checking Bool
  | 0 => return false
  | fuel + 1 => do
    let value ← term args fuel
    if (← get).head? == some ['-', 'a'] then
      modify (·.drop 1)
      let other ← conjunction args fuel
      return value && other
    else return value

def term (args : List Octets) : Nat → Checking Bool
  | 0 => return false
  | fuel + 1 => do
    let left ← get
    match left with
    | [] => beyond args
    | ['!'] :: rest =>
      if rest.isEmpty then beyond args
      set rest
      return !(← term args fuel)
    | ['('] :: rest =>
      if rest.isEmpty then beyond args
      set rest
      let inner := rest.drop 1 |>.takeWhile (· != [')'])
      let count := if 3 < inner.length then rest.length else inner.length + 1
      let value ← posix args fuel count
      match ← get with
      | [')'] :: rest =>
        set rest
        return value
      | [] => broken ("')' expected".toList)
      | other :: _ => broken ("')' expected, found ".toList ++ textQuoted other)
    | a :: _ =>
      if 4 ≤ left.length && a == ['-', 'l'] && isBinary (left[2]?.getD []) then binary true
      else if 3 ≤ left.length && isBinary (left[1]?.getD []) then binary false
      else if isSwitch a then unary args
      else oneArgument

end

/-- Checks the whole. -/
def check (args : List Octets) : Checking Bool := do
  if args.isEmpty then return false
  let value ← posix args (4 * args.length + 8) args.length
  match ← get with
  | [] => return value
  | extra :: _ => broken ("extra argument ".toList ++ textQuoted extra)

end Condition

def checkCondition (args : List Octets) : Tool Unit := do
  let (value, _) ← (Condition.check args).run args
  exit (if value then 0 else 1)

def test : Body := checkCondition

/-- The same between brackets. -/
def bracket : Body := fun args => do
  if args.getLast? == some [']'] then checkCondition args.dropLast else fail 2 "missing ']'".toList

end AlloyGrade.Utility
