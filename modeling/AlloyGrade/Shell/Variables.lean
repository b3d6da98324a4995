import AlloyGrade.Shell.Options

/-! The builtins about variables and parameters. -/

namespace AlloyGrade.Shell

open Process

/-- A variable may only have a name made of letters, digits and underscores. -/
def checkName (name : Octets) : Sh Unit :=
  if isVariableName name then return () else Sh.fail (name ++ ": bad variable name".toList)

/-- Lists variables in order, each behind a word. -/
def showVariables (word : String) (shown : Variable → Bool) : Sh Unit := do
  let found := (← get).vars.filter (shown ·.2)
  for (name, v) in found.mergeSort fun a b => !Octets.lt b.1 a.1 do
    let value := match v.value with
      | some value => '=' :: singleQuoted value
      | none => []
    Sh.put ((if word.isEmpty then [] else word.toList ++ [' ']) ++ name ++ value ++ ['\n'])

namespace Builtin

/-- Gives variables an attribute, or lists those that have it. -/
def markVariables (word : String) (args : List Octets) : Sh Nat := do
  let (opts, args) ← options "p" "" args
  let isExport := word = "export"
  if !opts.isEmpty || args.isEmpty then
    showVariables word fun v => if isExport then v.exported else v.readOnly
  else
    for a in args do
      let (name, value) := Sh.splitAssignment a
      checkName name
      Sh.setVariable name value isExport (!isExport)
  return 0

/-- Makes a variable local to the running function. -/
def makeLocal (text : Octets) (exported : Bool) : Sh Unit := do
  let s ← get
  let remember (saved : Saved) : Sh Unit := modify fun s =>
    { s with locals := match s.locals with
      | frame :: rest => (saved :: frame) :: rest
      | [] => [] }
  if text == ['-'] then remember (.options s.options)
  else
    let (name, value) := Sh.splitAssignment text
    let old := s.vars.lookup name
    if old.isNone || value.isSome then
      checkName name
      Sh.setVariable name value exported false
    remember (.variable name old)

def localVariables (args : List Octets) : Sh Nat := do
  if (← get).locals.isEmpty then Sh.failString "not in a function"
  let args ← noOptions args
  for a in args do makeLocal a false
  return 0

def unset (args : List Octets) : Sh Nat := do
  let (opts, args) ← options "vf" "" args
  let functions := (opts.getLast?.map (·.1)) = some 'f'
  for name in args do
    if functions then modify fun s => { s with functions := s.functions.filter (·.1 != name) }
    else Sh.unsetVariable name
  return 0

def shift (args : List Octets) : Sh Nat := do
  let n ← match args with
    | a :: _ => naturalNumber a
    | [] => pure 1
  let s ← get
  if s.params.length < n then Sh.failString "can't shift that many"
  set { s with params := s.params.drop n, optionIndex := 1, optionOffset := none }
  return 0

def setParameters (args : List Octets) : Sh Nat := do
  if args.isEmpty then
    showVariables "" fun v => v.value.isSome
  else
    let found ← shellOptions false (args.length + 1) args false
    if !found.rest.isEmpty || found.clears then
      modify fun s => { s with params := found.rest, optionIndex := 1, optionOffset := none }
  return 0

/-! ### Options of scripts -/

/-- Where the next option is: the argument with it, the place in that, and the number of the argument after it. -/
def nextOption (params : List Octets) (index : Nat) (offset : Option Nat) : Except Nat (Octets × Nat × Nat) :=
  let current := (params[index - 2]?).getD []
  match if 2 ≤ index then offset.filter (· < current.length) else none with
  | some n => .ok (current, n, index)
  | none =>
    match params[index - 1]? with
    | some ['-', '-'] => .error (index + 1)
    | some ('-' :: c :: more) => .ok ('-' :: c :: more, 1, index + 1)
    | _ => .error index

/-- Looks at the next option among arguments. -/
def getopts (args : List Octets) : Sh Nat := do
  match args with
  | spec :: name :: given =>
    let s ← get
    let params := if given.isEmpty then s.params else given
    let finish (index : Nat) (offset : Option Nat) (value : Char) (status : Nat) : Sh Nat := do
      Sh.assign "OPTIND".toList (Octets.ofNat index)
      Sh.assign name [value]
      modify ({ · with optionIndex := index, optionOffset := offset })
      return status
    let (index, offset) := if params.length + 1 < s.optionIndex then (1, none) else (s.optionIndex, s.optionOffset)
    match nextOption params index offset with
    | .error index => finish index none '?' 1
    | .ok (text, place, next) =>
      let letter := (text[place]?).getD '?'
      let more := text.drop (place + 1)
      let offset := if more.isEmpty then none else some (place + 1)
      let quiet := spec.head? = some ':'
      let complain (message : String) : Sh Unit := do
        if quiet then Sh.assign "OPTARG".toList [letter]
        else
          let _ ← Sh.write 2 (message.toList ++ ['\n'])
          Sh.unsetVariable "OPTARG".toList
      match spec.dropWhile (· ≠ letter) with
      | [] =>
        complain ("Illegal option -" ++ letter.toString)
        finish next offset '?' 0
      | _ :: ':' :: _ =>
        if !more.isEmpty then
          Sh.assign "OPTARG".toList more
          finish next none letter 0
        else match params[next - 1]? with
          | some value =>
            Sh.assign "OPTARG".toList value
            finish (next + 1) none letter 0
          | none =>
            complain ("No arg for -" ++ letter.toString ++ " option")
            finish next none (if quiet then ':' else '?') 0
      | _ =>
        Sh.assign "OPTARG".toList []
        finish next offset letter 0
  | _ => Sh.failString "Usage: getopts optstring var [arg...]"

end Builtin

end AlloyGrade.Shell
