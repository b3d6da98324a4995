import AlloyGrade.Process.Program
import AlloyGrade.Shell.Parse

/-! What a running shell remembers, and the monad in which it is written: a state, an exception, and a program that
goes on afterwards. -/

namespace AlloyGrade.Shell

open Process

structure Variable where
  /-- Nothing, if the variable only has attributes. -/
  value : Option Octets
  exported : Bool
  readOnly : Bool
deriving DecidableEq, Repr

/-- What a function restores when it ends. -/
inductive Saved where
  | options (letters : List Char)
  | variable (name : Octets) (old : Option Variable)
deriving DecidableEq, Repr

/-- A pipeline that was started, with the ends of its processes as far as they are known. -/
structure Job where
  number : Nat
  processes : List (Nat × Option Death)
  /-- Somebody has waited for it. -/
  waited : Bool
  changed : Bool
deriving DecidableEq, Repr

namespace Job

def isRunning (j : Job) : Bool := j.processes.any (·.2.isNone)

/-- The status that stands for an end. -/
def statusOf : Death → Nat
  | .exited code => code
  | .signaled s => 128 + s
  | .stopped s => 128 + s

/-- The status of the last process. -/
def status (j : Job) : Nat :=
  match j.processes.getLast? with
  | some (_, some death) => statusOf death
  | _ => 0

end Job

/-- What is passed over until some construct ends. -/
inductive Skip where
  | nothing
  | break_
  | continue_
  /-- The rest of the function or of the text. -/
  | function
  | definition
deriving DecidableEq, Repr

/-- A limit on a resource, in its own units: the present one, and how far it may be raised; `none` for no limit. -/
structure Limit where
  letter : Char
  name : String
  soft : Option Nat
  hard : Option Nat

/-- The limits that a shell starts with. -/
def Limit.initial : List Limit :=
  [⟨'t', "time(seconds)", none, none⟩, ⟨'f', "file(blocks)", none, none⟩, ⟨'d', "data(kbytes)", none, none⟩,
    ⟨'s', "stack(kbytes)", some 8192, none⟩, ⟨'c', "coredump(blocks)", none, none⟩, ⟨'m', "memory(kbytes)", none, none⟩,
    ⟨'l', "locked memory(kbytes)", some 8192, some 8192⟩, ⟨'p', "process", none, none⟩,
    ⟨'n', "nofiles", some 1048576, some 1048576⟩, ⟨'v', "vmemory(kbytes)", none, none⟩, ⟨'w', "locks", none, none⟩,
    ⟨'r', "rtprio", some 0, some 0⟩]

structure State where
  name : Octets
  params : List Octets
  vars : List (Octets × Variable)
  /-- What the running functions and commands restore, innermost first. -/
  locals : List (List Saved)
  functions : List (Octets × Nat × Node)
  /-- How many calls of functions are under way, and how many texts are evaluated within each other. -/
  calls : Nat
  nested : Nat
  aliases : List (Octets × Octets)
  options : List Char
  traps : List (Signal × Octets)
  /-- Signals that have come in and wait for their trap. -/
  pending : List Signal
  /-- Signals that were ignored from the start, which no trap can change. -/
  unchangeable : List Signal
  status : Nat
  /-- The status that an exit will have, once it is settled. -/
  settled : Option Nat
  /-- The status of the last command substitution. -/
  substituted : Nat
  /-- The number of the first shell. -/
  root : Nat
  background : Nat
  line : Nat
  /-- The running builtin, as messages name it. -/
  command : Option Octets
  loops : Nat
  skip : Skip
  skipCount : Int
  jobs : List Job
  documents : List (Nat × Document)
  freshDocument : Nat
  /-- The directory as it was reached, and the one it really is once that has been asked for. -/
  logical : Octets
  physical : Option Octets
  /-- How far options have been read: the parameter, and the place in it. -/
  optionIndex : Nat
  optionOffset : Option Nat
  /-- The descriptors to be restored, innermost first; `none` means that one was closed. -/
  redirects : List (List (Nat × Option Nat))
  hashed : List Octets
  limits : List Limit
  /-- How many shells are above this one. -/
  level : Nat
  /-- What a builtin has written so far, last first. -/
  output : List Octets

/-- Why a shell stops what it does. -/
inductive Raise where
  | error
  /-- It is asked to exit. -/
  | exit
  /-- Its last command is done. -/
  | end_
deriving DecidableEq, Repr

/-- A part of the shell. -/
def Sh (α : Type) := State → (Except Raise α → State → Program) → Program

namespace Sh

variable {α β : Type}

instance : Monad Sh where
  pure a := fun s k => k (.ok a) s
  bind m f := fun s k => m s fun r s =>
    match r with
    | .ok a => f a s k
    | .error e => k (.error e) s

instance : MonadStateOf State Sh where
  get := fun s k => k (.ok s) s
  set s := fun _ k => k (.ok ()) s
  modifyGet f := fun s k => let (a, s) := f s; k (.ok a) s

instance : MonadExceptOf Raise Sh where
  throw e := fun s k => k (.error e) s
  tryCatch m handle := fun s k => m s fun r s =>
    match r with
    | .ok a => k (.ok a) s
    | .error e => handle e s k

/-- Runs a part and keeps how it ended. -/
def attempt (m : Sh α) : Sh (Except Raise α) := fun s k => m s fun r s => k (.ok r) s

def ask (request : Request) : Sh request.Answer := fun s k => .ask request fun a => k (.ok a) s

def view : Sh View := ask .view

/-- Ends the process. -/
def exit (code : Nat) : Sh α := fun _ _ => .exit code

/-- Starts a child that does one part, which has to exit by itself. -/
def fork (child : Sh Unit) : Sh Nat := fun s k => .fork (child s fun _ _ => .exit 0) fun pid => k (.ok pid) s

/-! ### Output -/

/-- Writes to a descriptor; says whether that went well. -/
def write (fd : Nat) (text : Octets) : Sh Bool := do
  if text.isEmpty then return true
  match ← ask (.write fd text) with
  | .ok () => return true
  | .error _ => return false

/-- Adds to the output of the running builtin. -/
def put (text : Octets) : Sh Unit := modify fun s => { s with output := text :: s.output }

def putString (text : String) : Sh Unit := put (Octets.ofString text)

/-- Writes what the builtin has put together. -/
def flush : Sh Bool := do
  let text := (← get).output.reverse.flatten
  modify ({ · with output := [] })
  write 1 text

/-! ### Complaints -/

/-- Writes a message with the name of the shell, the line and the builtin. -/
def warn (message : Octets) : Sh Unit := do
  let s ← get
  let command := match s.command with
    | some name => name ++ ": ".toList
    | none => []
  let _ ← write 2 (s.name ++ ": ".toList ++ Octets.ofNat s.line ++ ": ".toList ++ command ++ message ++ ['\n'])

def warnString (message : String) : Sh Unit := warn (Octets.ofString message)

/-- Gives up with a message, behind which comes what the builtin has put together. -/
def fail (message : Octets) : Sh α := do
  warn message
  let _ ← flush
  modify ({ · with status := 2 })
  throw .error

def failString (message : String) : Sh α := fail (Octets.ofString message)

/-! ### Options -/

def hasOption (letter : Char) : Sh Bool := do return (← get).options.contains letter

/-! ### Variables -/

def lookup? (name : Octets) : Sh (Option Variable) := do return (← get).vars.lookup name

def value? (name : Octets) : Sh (Option Octets) := do return ((← get).vars.lookup name).bind (·.value)

end Sh

namespace State

def value? (s : State) (name : String) : Option Octets := (s.vars.lookup name.toList).bind (·.value)

/-- Puts a variable in its place; a new one goes to the end. -/
def setVariable (s : State) (name : Octets) (v : Variable) : State :=
  let changed := if s.vars.any (·.1 == name) then
      s.vars.map fun (n, old) => if n == name then (n, v) else (n, old)
    else s.vars ++ [(name, v)]
  { s with vars := changed }

def removeVariable (s : State) (name : Octets) : State :=
  { s with vars := s.vars.filter (·.1 != name) }

/-- The separators of fields. -/
def separators (s : State) : Octets := (s.value? "IFS").getD [' ', '\t', '\n']

/-- Variables are kept in so many chains, by a sum over the name. -/
def chains : Nat := 39

def chain (name : Octets) : Nat :=
  (((name.head?.map (·.toNat)).getD 0) * 16 + (name.map (·.toNat)).foldl (· + ·) 0) % chains

/-- The variables that other programs see, chain by chain. -/
def environment (s : State) : List Octets :=
  let shown := s.vars.filterMap fun (n, v) =>
    match v.value with
    | some value => if v.exported then some (chain n, n ++ '=' :: value) else none
    | none => none
  (List.range chains).flatMap fun c => (shown.filter (·.1 == c)).map (·.2)

end State

namespace Sh

/-- After a variable has changed: the shell follows some of them. -/
def follow (name : Octets) : Sh Unit := do
  if name == "PATH".toList then modify ({ · with hashed := [] })
  else if name == "OPTIND".toList then modify fun s =>
    { s with optionIndex := ((s.value? "OPTIND").bind Octets.decimal?).getD 1, optionOffset := none }

/-- Gives a variable a value, and perhaps attributes. -/
def setVariable (name : Octets) (value : Option Octets) (exported readOnly : Bool) : Sh Unit := do
  let s ← get
  let old := (s.vars.lookup name).getD ⟨none, false, false⟩
  if old.readOnly && value.isSome then fail (name ++ ": is read only".toList)
  let all := s.options.contains 'a' && value.isSome
  set (s.setVariable name ⟨if value.isSome then value else old.value, old.exported || exported || all, old.readOnly || readOnly⟩)
  if value.isSome then follow name

def assign (name value : Octets) : Sh Unit := setVariable name (some value) false false

/-- Forgets a variable. -/
def unsetVariable (name : Octets) : Sh Unit := do
  let s ← get
  match s.vars.lookup name with
  | none => return ()
  | some old =>
    if old.readOnly then fail (name ++ ": is read only".toList)
    set (s.removeVariable name)
    follow name

/-- Splits `name=value`. -/
def splitAssignment (text : Octets) : Octets × Option Octets :=
  let name := text.takeWhile (· != '=')
  (name, if name.length < text.length then some (text.drop (name.length + 1)) else none)

end Sh

end AlloyGrade.Shell
