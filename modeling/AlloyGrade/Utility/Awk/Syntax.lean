import AlloyGrade.Text.Regex
import AlloyGrade.Utility.Awk.Value

/-! What programs of the pattern language are made of. -/

namespace AlloyGrade.Utility.Awk

inductive Comparison where
  | lt
  | le
  | eq
  | ne
  | gt
  | ge
deriving DecidableEq, Repr

def Comparison.holds (c : Comparison) (o : Option Ordering) : Bool :=
  match c, o with
  | .lt, some .lt | .le, some .lt | .le, some .eq | .eq, some .eq | .gt, some .gt | .ge, some .gt | .ge, some .eq => true
  | .ne, o => o ≠ some .eq
  | _, _ => false

inductive Builtin where
  | length
  | substr
  | index
  | split
  | sub
  | gsub
  | match_
  | sprintf
  | toupper
  | tolower
  | int
  | sqrt
  | exp
  | log
  | sin
  | cos
  | atan2
  | rand
  | srand
  | system
  | close
  | fflush
  | systime
deriving DecidableEq, Repr

namespace Builtin

/-- The functions by name, with the least and the greatest number of their arguments. -/
def table : List (String × Builtin × Nat × Nat) :=
  [("length", .length, 0, 1), ("substr", .substr, 2, 3), ("index", .index, 2, 2), ("split", .split, 2, 3), ("sub", .sub, 2, 3),
    ("gsub", .gsub, 2, 3), ("match", .match_, 2, 2), ("sprintf", .sprintf, 1, 255), ("toupper", .toupper, 1, 1),
    ("tolower", .tolower, 1, 1), ("int", .int, 1, 1), ("sqrt", .sqrt, 1, 1), ("exp", .exp, 1, 1), ("log", .log, 1, 1),
    ("sin", .sin, 1, 1), ("cos", .cos, 1, 1), ("atan2", .atan2, 2, 2), ("rand", .rand, 0, 0), ("srand", .srand, 0, 1),
    ("system", .system, 1, 1), ("close", .close, 1, 1), ("fflush", .fflush, 0, 1), ("systime", .systime, 0, 0)]

def ofName? (name : Octets) : Option (Builtin × Nat × Nat) := table.lookup (String.ofList name)

end Builtin

inductive Expr where
  | number (x : Float)
  | text (t : Octets)
  | regex (r : Regex)
  | var (name : Octets)
  | field (e : Expr)
  | item (array : Octets) (subscripts : List Expr)
  /-- Assigns, by an operator if there is one. -/
  | assign (target : Expr) (op : Option Char) (value : Expr)
  | choose (condition a b : Expr)
  | both (a b : Expr)
  | either (a b : Expr)
  | not (e : Expr)
  | negate (e : Expr)
  | plus (e : Expr)
  | arithmetic (op : Char) (a b : Expr)
  | compare (op : Comparison) (a b : Expr)
  | fits (negated : Bool) (a b : Expr)
  | join (a b : Expr)
  | inside (subscripts : List Expr) (array : Octets)
  /-- Counts up or down, before or after its use. -/
  | count (target : Expr) (up before : Bool)
  | call (name : Octets) (args : List Expr)
  | builtin (f : Builtin) (args : List Expr)
  /-- Reads a line: from the input, from a file, or from a command. -/
  | read (target : Option Expr) (file command : Option Expr)
  /-- Several values between brackets. -/
  | list (es : List Expr)
  | grouped (e : Expr)

/-- Where output goes. -/
inductive Direction where
  | file
  | append
  | command
deriving DecidableEq, Repr

inductive Statement where
  | nothing
  | eval (e : Expr)
  | print (args : List Expr) (target : Option (Direction × Expr))
  | printf (args : List Expr) (target : Option (Direction × Expr))
  | if_ (condition : Expr) (yes no : Statement)
  | while_ (condition : Expr) (body : Statement)
  | do_ (body : Statement) (condition : Expr)
  | for_ (start : Option Expr) (condition : Option Expr) (step : Option Expr) (body : Statement)
  | forIn (name array : Octets) (body : Statement)
  | block (body : List Statement)
  | break_
  | continue_
  | next
  | nextFile
  | exit (code : Option Expr)
  | return_ (value : Option Expr)
  | delete (array : Octets) (subscripts : List Expr)
  | deleteAll (array : Octets)

inductive Pattern where
  | begin_
  | end_
  | always
  | expr (e : Expr)
  | range (first last : Expr)

/-- A pattern and what is done where it holds; without an action the record is printed. -/
structure Rule where
  pattern : Pattern
  action : Option Statement

structure Function where
  name : Octets
  params : List Octets
  body : Statement

structure Code where
  functions : List Function
  rules : List Rule

end AlloyGrade.Utility.Awk
