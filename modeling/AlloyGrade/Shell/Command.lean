import AlloyGrade.Shell.Format
import AlloyGrade.Shell.Redirection

/-! Simple commands before they run: their words, the builtins that need no evaluation, and programs. -/

namespace AlloyGrade.Shell

open Process

/-! ### Words -/

/-- The words of a simple command, expanded. -/
structure Invocation where
  /-- All words, and those left behind `command`. -/
  all : List Octets
  argv : List Octets
  withFunctions : Bool
  path : Option Octets
  /-- The first builtin met belongs to the language. -/
  isSpecial : Bool
  /-- Assignments hold for the command only. -/
  isLocal : Bool
  isExec : Bool

namespace Invocation

def nothing : Invocation := ⟨[], [], true, none, false, false, false⟩

end Invocation

/-- Expands words until some field comes out. -/
def fill (run : Node → Sh Octets) : List Word → Sh (List Octets × List Word)
  | [] => return ([], [])
  | w :: rest => do
    let fields ← Expansion.fields run w
    if fields.isEmpty then fill run rest else return (fields, rest)

/-- Looks past the options of `command`. If it is to run something, that comes back with the search path. -/
def behindCommand (run : Node → Sh Octets) :
    Nat → List Octets → List Octets → List Word → Option Octets →
      Sh (Option (List Octets × Option Octets) × List Octets × List Word)
  | 0, done, pending, rest, _ => return (none, done.reverse ++ pending, rest)
  | fuel + 1, done, pending, rest, path => do
    let (pending, rest) ← if pending.isEmpty then fill run rest else pure (pending, rest)
    match pending with
    | [] => return (none, done.reverse, rest)
    | ['-', '-'] :: more =>
      let (more, rest) ← if more.isEmpty then fill run rest else pure (more, rest)
      let all := done.reverse ++ ['-', '-'] :: more
      return (if more.isEmpty then none else some (more, path), all, rest)
    | ('-' :: c :: letters) :: more =>
      if (c :: letters).all (· == 'p') then
        behindCommand run fuel (('-' :: c :: letters) :: done) more rest (some standardPath)
      else return (none, done.reverse ++ pending, rest)
    | _ => return (some (pending, path), done.reverse ++ pending, rest)

/-- What the words so far say about the command. -/
structure Prefixed where
  all : List Octets
  argv : List Octets
  rest : List Word
  withFunctions : Bool
  path : Option Octets
  special : Option Bool
  isExec : Bool
  takesAssignments : Bool

/-- Finds out what kind of command the first word makes, looking past `command`. -/
def prefixed (run : Node → Sh Octets) : Nat → Prefixed → Sh Prefixed
  | 0, p => return p
  | fuel + 1, p => do
    let name := p.argv.headD []
    let s ← get
    let isFunction := p.withFunctions && s.functions.any (·.1 == name)
    if isFunction || !(regularNames.any (·.toList == name)) then return { p with isExec := false }
    let p := { p with
      special := some (p.special.getD (isSpecialBuiltin name))
      isExec := name == "exec".toList
      takesAssignments := ["export", "readonly", "local"].any (·.toList == name) }
    if name != "command".toList then return p
    let before := p.all.take (p.all.length - p.argv.length)
    let (found, words, rest) ← behindCommand run (p.rest.length + p.argv.length + 1) [] (p.argv.drop 1) p.rest p.path
    let p := { p with all := before ++ name :: words, rest }
    match found with
    | none => return { p with argv := name :: words }
    | some (argv, path) => prefixed run fuel { p with argv, path, withFunctions := false }

def expandRest (run : Node → Sh Octets) (takesAssignments : Bool) : List Word → Sh (List Octets)
  | [] => return []
  | w :: rest => do
    let fields ← if takesAssignments && w.isAssignment then do pure [← Expansion.text run .assignment w]
      else Expansion.fields run w
    return fields ++ (← expandRest run takesAssignments rest)

/-- Expands the words of a simple command. -/
def invocation (run : Node → Sh Octets) (words : List Word) : Sh Invocation := do
  let (first, rest) ← fill run words
  if first.isEmpty then return .nothing
  let p ← prefixed run (words.length + 1) ⟨first, first, rest, true, none, none, false, false⟩
  let more ← expandRest run p.takesAssignments p.rest
  return ⟨p.all ++ more, p.argv ++ more, p.withFunctions, p.path, p.special = some true, p.special ≠ some true, p.isExec⟩

/-! ### Locals -/

def pushLocals : Sh Unit := modify fun s => { s with locals := [] :: s.locals }

def restoreLocals : List Saved → State → State
  | [], s => s
  | .options letters :: rest, s => restoreLocals rest { s with options := letters }
  | .variable name old :: rest, s =>
    restoreLocals rest (match old with
      | some v => s.setVariable name v
      | none => s.removeVariable name)

/-- Restores what was local until so many levels are left. -/
def unwindLocals (depth : Nat) : Sh Unit := modify fun s =>
  let gone := s.locals.take (s.locals.length - depth)
  { restoreLocals gone.flatten s with locals := s.locals.drop gone.length }

/-! ### Programs -/

/-- The status of a shell that could not start a program. -/
def startStatus (e : Errno) : Nat := if e = 2 || e = 20 || e = 36 || e = 40 then 127 else 126

/-- Lets a program take over; a file that is no program is given to the shell. -/
def takeOver (path : Octets) (argv environment : List Octets) : Sh Errno := do
  let e : Errno ← Sh.ask (.exec (Octets.toPath path) argv environment)
  if e = 8 then
    let shell := "/bin/sh".toList
    Sh.ask (.exec (Octets.toPath shell) (shell :: path :: argv.drop 1) environment)
  else return e

def takeOverFirst (argv environment : List Octets) : List Octets → Errno → Sh Errno
  | [], e => return e
  | path :: rest, e => do
    let found ← takeOver path argv environment
    takeOverFirst argv environment rest (if found = 2 || found = 20 then e else found)

/-- Runs a program in place of the shell, from the first of the paths that works. -/
def execute {α : Type} (argv : List Octets) (paths : List Octets) : Sh α := do
  let environment := (← get).environment
  let name := argv.headD []
  let e ← if name.contains '/' then takeOver name argv environment
    else takeOverFirst argv environment paths Errno.noEntry
  modify ({ · with status := startStatus e })
  Sh.warn (name ++ ": ".toList ++ (startFailure e).toList)
  modify ({ · with status := startStatus e })
  throw .end_

/-! ### Builtins -/

namespace Builtin

def leaveLoops (kind : Skip) (args : List Octets) : Sh Nat := do
  let n ← match args with
    | a :: _ => do
      let n ← naturalNumber a
      if n = 0 then Sh.fail ("Illegal number: ".toList ++ a)
      pure n
    | [] => pure 1
  modify fun s =>
    let n := min n s.loops
    if 0 < n then { s with skip := kind, skipCount := n } else s
  return 0

def return_ (args : List Octets) : Sh Nat := do
  let n ← match args with
    | a :: _ => naturalNumber a
    | [] => do pure (← get).status
  modify ({ · with skip := .function })
  return n

def exit (args : List Octets) : Sh Nat := do
  match args with
  | a :: _ =>
    let n ← naturalNumber a
    modify ({ · with settled := some n })
  | [] => pure ()
  throw .exit

/-- Tells where programs are, as `command` does with its options. -/
def command (args : List Octets) : Sh Nat := do
  let (opts, args) ← options "pvV" "" args
  match args with
  | name :: _ =>
    if opts.any fun (c, _) => c = 'v' || c = 'V' then
      describe name (if opts.any (·.1 == 'p') then some standardPath else none) ((opts.filter (·.1 ≠ 'p')).getLast?.any (·.1 == 'V'))
    else return 0
  | [] => return 0

def limitText (value : Option Nat) : Octets :=
  match value with
  | some n => Octets.ofNat n ++ ['\n']
  | none => "unlimited\n".toList

/-- Whether a limit is at most another one. -/
def limitFits (a b : Option Nat) : Bool :=
  match a, b with
  | _, none => true
  | none, some _ => false
  | some a, some b => a ≤ b

def ulimit (args : List Octets) : Sh Nat := do
  let (opts, args) ← options "HSatfdsmcnlpvwr" "" args
  let letters := opts.map (·.1)
  let kinds := letters.filter fun c => c = 'H' || c = 'S'
  let setsSoft := kinds.getLast? ≠ some 'H'
  let setsHard := kinds.getLast? ≠ some 'S'
  let shown (l : Limit) : Octets := limitText (if setsSoft then l.soft else l.hard)
  let all := letters.contains 'a'
  let what := ((letters.filter fun c => c ≠ 'H' && c ≠ 'S' && c ≠ 'a').getLast?).getD 'f'
  let limits := (← get).limits
  match args with
  | [] =>
    if all then
      for l in limits do
        let name := l.name.toList
        Sh.put (name ++ List.replicate (20 - name.length) ' ' ++ [' '] ++ shown l)
    else for l in limits do
      if l.letter = what then Sh.put (shown l)
  | a :: more =>
    if all || !more.isEmpty then Sh.failString "too many arguments"
    let value : Option Nat ←
      if a == "unlimited".toList then pure none
      else if a.all Char.isDigit then pure (some (Octets.decimal a))
      else Sh.failString "bad number"
    for l in limits do
      if l.letter = what then
        let soft := if setsSoft then value else l.soft
        let hard := if setsHard then value else l.hard
        if !limitFits soft hard then Sh.failString "error setting limit (Invalid argument)"
        else if !limitFits hard l.hard then Sh.failString "error setting limit (Operation not permitted)"
    modify ({ · with limits := limits.map fun l => if l.letter = what then
      { l with soft := if setsSoft then value else l.soft, hard := if setsHard then value else l.hard } else l })
  return 0

def resume (args : List Octets) : Sh Nat := do
  let _ ← options "" "" args
  let _ ← namedJob (args.headD "%+".toList)
  Sh.fail ("job ".toList ++ args.headD "(null)".toList ++ " not created under job control".toList)

/-- The builtins that evaluate no commands. -/
def plain? (name : Octets) (args : List Octets) : Option (Sh Nat) :=
  match String.ofList name with
  | ":" | "true" => some (return 0)
  | "false" => some (return 1)
  | "echo" => some (echo args)
  | "printf" => some (printf args)
  | "test" | "[" => some (test name args)
  | "cd" | "chdir" => some (cd args)
  | "pwd" => some (pwd args)
  | "umask" => some (umask args)
  | "read" => some (readFields args)
  | "export" => some (markVariables "export" args)
  | "readonly" => some (markVariables "readonly" args)
  | "local" => some (localVariables args)
  | "set" => some (setParameters args)
  | "shift" => some (shift args)
  | "unset" => some (unset args)
  | "getopts" => some (getopts args)
  | "wait" => some (wait args)
  | "jobs" => some (jobs args)
  | "kill" => some (kill args)
  | "trap" => some (trap args)
  | "type" => some (type_ args)
  | "hash" => some (hash args)
  | "alias" => some (alias_ args)
  | "unalias" => some (unalias args)
  | "break" => some (leaveLoops .break_ args)
  | "continue" => some (leaveLoops .continue_ args)
  | "return" => some (return_ args)
  | "exit" => some (exit args)
  | "command" => some (command args)
  | "ulimit" => some (ulimit args)
  | "fg" | "bg" => some (resume args)
  | "times" => some do
    Sh.putString "0m0.000000s 0m0.000000s\n0m0.000000s 0m0.000000s\n"
    return 0
  | _ => none

/-- Looks for a script that is to be read into the shell. -/
def findScript (name : Octets) : Sh Octets := do
  if name.contains '/' then return name
  let v ← Sh.view
  let dirs := searchDirectories (((← get).value? "PATH").getD [])
  match (dirs.map (joinPath · name)).find? fun p => v.fs.isFile v.cwd (Octets.toPath p) with
  | some path => return path
  | none => Sh.fail (name ++ ": not found".toList)

end Builtin

end AlloyGrade.Shell
