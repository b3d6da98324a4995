import AlloyGrade.Shell.Directory

/-! What names mean where a command is expected, and the builtins that tell. -/

namespace AlloyGrade.Shell

open Process

/-- The builtins that belong to the language, and the others that are found before functions of the same name could
be. -/
def regularNames : List String :=
  specialNames ++ ["local", "alias", "bg", "cd", "chdir", "command", "false", "fc", "fg", "getopts", "jobs", "kill", "pwd",
    "read", "true", "umask", "unalias", "wait"]

def builtinNames : List String := regularNames ++ ["echo", "printf", "test", "[", "hash", "type", "ulimit"]

def isSpecialBuiltin (name : Octets) : Bool := (specialNames ++ ["local"]).any (·.toList == name)

def isBuiltin (name : Octets) : Bool := builtinNames.any (·.toList == name)

/-- What stands behind a name. -/
inductive Meaning where
  | builtin
  | function (line : Nat) (body : Node)
  /-- A program, with the paths where it can be, the best first. -/
  | program (paths : List Octets)
  | unknown (error : Errno)

/-- The directories in which programs are looked for. -/
def searchDirectories (path : Octets) : List Octets := Octets.splitOn ':' path

def joinPath (dir name : Octets) : Octets := if dir.isEmpty then name else dir ++ '/' :: name

/-- Whether a file can be a program. -/
def isProgram (v : View) (path : Octets) : Bool :=
  match v.fs.stat v.cwd (Octets.toPath path) with
  | .ok (_, .file f) => f.isExecutable
  | _ => false

/-- Looks for a program in directories; the paths in the directories behind the first hit come after it. -/
def findProgram (v : View) (name : Octets) : List Octets → Errno → Except Errno (List Octets)
  | [], e => .error e
  | dir :: rest, e =>
    let full := joinPath dir name
    match v.fs.stat v.cwd (Octets.toPath full) with
    | .error (.os code) => findProgram v name rest (if code = 2 || code = 20 then e else code)
    | .error _ => findProgram v name rest e
    | .ok _ =>
      if isProgram v full then .ok (full :: rest.map (joinPath · name))
      else findProgram v name rest Errno.accessDenied

/-- The directories of the usual programs. -/
def standardPath : Octets := "/usr/local/sbin:/usr/local/bin:/usr/sbin:/usr/bin:/sbin:/bin".toList

/-- What a name means; functions may be left out, and another search path used. -/
def meaning (name : Octets) (withFunctions : Bool) (path : Option Octets) : Sh Meaning := do
  let s ← get
  if name.contains '/' then return .program [name]
  match if withFunctions then s.functions.lookup name else none with
  | some (line, body) => return .function line body
  | none =>
    if isBuiltin name then return .builtin
    let v ← Sh.view
    match findProgram v name (searchDirectories (path.getD ((s.value? "PATH").getD []))) Errno.noEntry with
    | .ok paths =>
      if path.isNone && !s.hashed.contains name then modify fun s => { s with hashed := s.hashed ++ [name] }
      return .program paths
    | .error e => return .unknown e

/-- How the failure to find or to start a program is reported. -/
def startFailure (e : Errno) : String := if e = 2 || e = 20 then "not found" else Errno.text e

namespace Builtin

/-- Tells what a name means, in a sentence or briefly. -/
def describe (name : Octets) (path : Option Octets) (verbose : Bool) : Sh Nat := do
  let s ← get
  let say (sentence : Octets) (brief : Octets) : Sh Nat := do
    Sh.put ((if verbose then name ++ sentence else brief) ++ ['\n'])
    return 0
  if Token.keywords.any (·.1.toList == name) then say " is a shell keyword".toList name
  else match s.aliases.lookup name with
    | some value => say (" is an alias for ".toList ++ value) ("alias ".toList ++ name ++ '=' :: singleQuoted value)
    | none =>
      let tracked := path.isNone && s.hashed.contains name
      match ← meaning name true path with
      | .function .. => say " is a shell function".toList name
      | .builtin =>
        say (if isSpecialBuiltin name then " is a special shell builtin".toList else " is a shell builtin".toList) name
      | .program paths =>
        let full := paths.headD []
        let v ← Sh.view
        if name.contains '/' && !(v.fs.pathExists v.cwd (Octets.toPath name)) then
          if verbose then Sh.put (name ++ ": not found\n".toList)
          return 127
        else say ((if tracked then " is a tracked alias for ".toList else " is ".toList) ++ full) full
      | .unknown _ =>
        if verbose then Sh.put (name ++ ": not found\n".toList)
        return 127

def describeAll : List Octets → Nat → Sh Nat
  | [], status => return status
  | a :: rest, status => do
    let n ← describe a none true
    describeAll rest (status ||| n)

def type_ (args : List Octets) : Sh Nat := do
  describeAll (← noOptions args) 0

def hashNames : List Octets → Nat → Sh Nat
  | [], status => return status
  | a :: rest, status => do
    match ← meaning a true none with
    | .unknown e =>
      Sh.warn (a ++ ": ".toList ++ (startFailure e).toList)
      hashNames rest 1
    | _ => hashNames rest status

def hash (args : List Octets) : Sh Nat := do
  let (opts, args) ← options "r" "" args
  if !opts.isEmpty then
    modify ({ · with hashed := [] })
    return 0
  else if args.isEmpty then
    let v ← Sh.view
    let s ← get
    for name in s.hashed do
      match findProgram v name (searchDirectories ((s.value? "PATH").getD [])) Errno.noEntry with
      | .ok paths => Sh.put (paths.headD [] ++ ['\n'])
      | .error _ => pure ()
    return 0
  else hashNames args 0

def showAlias (name value : Octets) : Sh Unit := Sh.put (name ++ '=' :: singleQuoted value ++ ['\n'])

def aliasEach : List Octets → Nat → Sh Nat
  | [], status => return status
  | a :: rest, status => do
    let name := a.take 1 ++ (a.drop 1).takeWhile (· ≠ '=')
    let s ← get
    if name.length < a.length then
      let value := a.drop (name.length + 1)
      let changed := if s.aliases.any (·.1 == name) then
          s.aliases.map fun (n, old) => if n == name then (n, value) else (n, old)
        else s.aliases ++ [(name, value)]
      set { s with aliases := changed }
      aliasEach rest status
    else match s.aliases.lookup a with
      | some value =>
        showAlias a value
        aliasEach rest status
      | none =>
        let _ ← Sh.write 2 ("alias: ".toList ++ a ++ " not found\n".toList)
        aliasEach rest 1

def alias_ (args : List Octets) : Sh Nat := do
  if args.isEmpty then
    let s ← get
    for c in List.range State.chains do
      for (name, value) in s.aliases do
        if State.chain name = c then showAlias name value
    return 0
  else aliasEach args 0

def unaliasEach : List Octets → Nat → Sh Nat
  | [], status => return status
  | a :: rest, status => do
    let s ← get
    if s.aliases.any (·.1 == a) then
      set { s with aliases := s.aliases.filter (·.1 != a) }
      unaliasEach rest status
    else
      let _ ← Sh.write 2 ("unalias: ".toList ++ a ++ " not found\n".toList)
      unaliasEach rest 1

def unalias (args : List Octets) : Sh Nat := do
  let (opts, args) ← options "a" "" args
  if !opts.isEmpty then
    modify ({ · with aliases := [] })
    return 0
  else unaliasEach args 0

end Builtin

end AlloyGrade.Shell
