import AlloyGrade.Decimal.Dyadic
import AlloyGrade.Utility.Quoting

/-! The utilities that wait, end, or run another program. -/

namespace AlloyGrade.Utility

open Process Tool

def true_ : Body := fun _ => exit 0

def false_ : Body := fun _ => exit 1

/-! ### Time -/

/-- The microseconds that a text asks for, rounded up: a number, perhaps with a unit. -/
def duration? (text : Octets) : Option Nat :=
  match Dyadic.leading Dyadic.extended text with
  | none => none
  | some (x, _, rest) =>
    let unit : Option Nat := match rest with
      | [] | ['s'] => some 1
      | ['m'] => some 60
      | ['h'] => some 3600
      | ['d'] => some 86400
      | _ => none
    match x, unit with
    | .finite false m e, some unit =>
      let n := m * unit * 1000000
      some (if 0 ≤ e then n * Nat.pow 2 e.toNat else (n + Nat.pow 2 (-e).toNat - 1) / Nat.pow 2 (-e).toNat)
    | .finite true 0 _, some _ => some 0
    | .infinite false, some _ => some (Nat.pow 10 18)
    | _, _ => none

def sleep : Body := fun args => do
  let (_, names) ← (Options.of "" "" []).find args
  if names.isEmpty then misuse 1 "missing operand".toList
  let times := names.map duration?
  for (name, time) in names.zip times do
    if time.isNone then warn ("invalid time interval ".toList ++ textQuoted name)
  if times.any Option.isNone then usage 1
  let _ ← ask (.sleep ((times.map (·.getD 0)).foldl (· + ·) 0))

def yesLoop (text : Octets) : Nat → Tool Unit
  | 0 => return ()
  | fuel + 1 => do
    put text
    if (← get).lost.isNone then yesLoop text fuel

def yes : Body := fun args => do
  let (_, words) ← (Options.of "" "" []).find args
  let line := (if words.isEmpty then ['y'] else [' '].intercalate words) ++ ['\n']
  yesLoop (List.replicate (1 + 4096 / line.length) line).flatten patience

/-! ### Other programs -/

/-- The value of a variable in an environment. -/
def valueIn? (environment : List Octets) (name : Octets) : Option Octets :=
  (environment.find? fun e => (name ++ ['=']).isPrefixOf e).map (·.drop (name.length + 1))

/-- Tries one path after the other; says why none could be run. A file without a known form is a script. -/
def execAny (argv environment : List Octets) : List Octets → Errno → Tool Errno
  | [], e => return e
  | path :: rest, last => do
    let e : Errno ← ask (.exec (Octets.toPath path) argv environment)
    if e = 8 then
      let e : Errno ← ask (.exec (.ofString "/bin/sh") ("/bin/sh".toList :: path :: argv.drop 1) environment)
      return e
    else if e = Errno.noEntry || e = 20 then execAny argv environment rest last
    else if e = Errno.accessDenied then execAny argv environment rest e
    else return e

/-- Turns into another program; comes back with a reason only if that fails. -/
def become (argv environment : List Octets) : Tool Errno := do
  let name := argv.headD []
  if name.contains '/' then execAny argv environment [name] Errno.noEntry
  else if name.isEmpty then return Errno.noEntry
  else
    let dirs := Octets.splitOn ':' ((valueIn? environment "PATH".toList).getD "/bin:/usr/bin".toList)
    execAny argv environment (dirs.map fun d => if d.isEmpty then name else d ++ '/' :: name) Errno.noEntry

/-- The status for a program that could not be run. -/
def notRun (e : Errno) : Nat := if e = Errno.noEntry then 127 else 126

/-- Starts another program in a child. -/
def spawn (child : Tool Unit) : Tool Nat := fun s k =>
  .fork (child { s with output := [], size := 0 } fun _ _ => .exit 0) fun pid => k pid s

/-- Waits for a child. -/
def await (pid : Option Nat) : Nat → Tool Awaited
  | 0 => return .none_
  | fuel + 1 => do
    match ← ask (.wait pid true) with
    | .interrupted | .still => await pid fuel
    | found => return found

/-- Runs another program and waits for its end; one that cannot be run is named in the given way. -/
def runNamed (shown : Octets → Octets) (argv environment : List Octets) : Tool Death := do
  flush
  let pid ← spawn do
    let e ← become argv environment
    warn (because (shown (argv.headD [])) e)
    exit (notRun e)
  match ← await (some pid) patience with
  | .ended _ death => return death
  | _ => return .exited 127

def runProgram (argv environment : List Octets) : Tool Death := runNamed nameShown argv environment

/-! ### Environments -/

def envOptions : Options :=
  { Options.of "iv0" "uCS" [("ignore-environment", 'i'), ("null", '0'), ("unset", 'u'), ("chdir", 'C'), ("debug", 'v'),
      ("split-string", 'S')] with
    misuse := 125, inOrder := true }

def isAssignment (a : Octets) : Bool := a.contains '='

/-- Sets a variable of an environment. -/
def setIn (environment : List Octets) (assignment : Octets) : List Octets :=
  let named := assignment.takeWhile (· ≠ '=') ++ ['=']
  if environment.any (named.isPrefixOf ·) then environment.map fun e => if named.isPrefixOf e then assignment else e
  else environment ++ [assignment]

def env : Body := fun args => do
  let (opts, operands) ← envOptions.find args
  let (opts, operands) ← match Options.last? opts 'S' with
    | none => pure (opts, operands)
    | some text => do
      let words := (Octets.splitOn ' ' text).filter (!·.isEmpty)
      envOptions.find (words ++ operands)
  let dashed := operands.head? == some ['-']
  let operands := if dashed then operands.drop 1 else operands
  let given := (← get).environment
  let start := if dashed || Options.has opts 'i' then [] else given
  let start := (opts.filter (·.1 == 'u')).foldl (fun e (_, name) => e.filter (!(name ++ ['=']).isPrefixOf ·)) start
  let settings := operands.takeWhile isAssignment
  let environment := settings.foldl setIn start
  match operands.drop settings.length with
  | [] =>
    let stop := if Options.has opts '0' then '\x00' else '\n'
    for e in environment do put (e ++ [stop])
  | argv =>
    if Options.has opts '0' then misuse 125 "cannot specify --null (-0) with command".toList
    match Options.last? opts 'C' with
    | some dir =>
      match ← ask (.chdir (Octets.toPath dir)) with
      | .ok () => pure ()
      | .error e => fail 125 ("cannot change directory to ".toList ++ because (nameQuoted dir) e)
    | none => pure ()
    let e ← become argv environment
    fail (notRun e) (because (nameQuoted (argv.headD [])) e)

def printenv : Body := fun args => do
  let (opts, names) ← { Options.of "0" "" [("null", '0')] with misuse := 2 }.find args
  let stop := if Options.has opts '0' then '\x00' else '\n'
  let environment := (← get).environment
  if names.isEmpty then
    for e in environment do put (e ++ [stop])
  else
    for name in names do
      match if name.contains '=' then none else valueIn? environment name with
      | some value => put (value ++ [stop])
      | none => modify ({ · with failed := true })

/-! ### Limits -/

def timeoutOptions : Options :=
  { Options.of "vpf" "ks" [("verbose", 'v'), ("preserve-status", 'p'), ("foreground", 'f'), ("kill-after", 'k'), ("signal", 's')] with
    misuse := 125, inOrder := true }

/-- The signal that a name or a number stands for. -/
def signal? (text : Octets) : Option Signal :=
  match Octets.decimal? text with
  | some n => if n < Signal.limit then some n else none
  | none =>
    let name := text.map Char.toUpper
    let name := if "SIG".toList.isPrefixOf name then name.drop 3 else name
    if name == "EXIT".toList then some 0
    else (List.range Signal.limit).find? fun n => n ≠ 0 && (Signal.name n).toList == name

/-- What a child does that only waits for a time to pass. -/
def clock (time : Nat) : Tool Unit := do
  for fd in [0, 1, 2] do close fd
  let _ ← ask (.sleep time)
  exit 0

/-- Runs a program for a limited time: a second child wakes up when it is over. -/
def limited (verbose keepStatus foreground : Bool) (signal : Signal) (killAfter : Option Nat) (time : Nat) (argv : List Octets) : Tool Unit := do
  let environment := (← get).environment
  let worker ← spawn do
    let e ← become argv environment
    warn ("failed to run command ".toList ++ because (nameQuoted (argv.headD [])) e)
    exit (notRun e)
  let timer ← spawn (clock (if time = 0 then Nat.pow 10 18 else time))
  match ← await none patience with
  | .ended pid death =>
    if pid = worker then
      let _ ← ask (.kill timer Signal.kill)
      match death with
      | .exited code => exit code
      | .signaled s | .stopped s => exit (128 + s)
    else
      let announce (s : Signal) : Tool Unit :=
        if verbose then
          warn ("sending signal ".toList ++ (Signal.name s).toList ++ " to command ".toList ++ nameQuoted (argv.headD []))
        else pure ()
      -- The group of processes gets the signal too, and this one is among them.
      let strike (s : Signal) : Tool Unit := do
        announce s
        let _ ← ask (.kill worker s)
        if s = Signal.kill && !foreground then
          flush
          let _ ← ask (.kill (← view).pid s)
      strike signal
      let second ← match killAfter with
        | none => pure none
        | some more =>
          let pid ← spawn (clock more)
          pure (some pid)
      let found ← await none patience
      let found ← match found, second with
        | .ended pid _, some t =>
          if pid = t then do
            strike Signal.kill
            await none patience
          else do
            let _ ← ask (.kill t Signal.kill)
            pure found
        | _, _ => pure found
      match found with
      | .ended _ (.signaled s) =>
        if s = Signal.kill then exit 137 else exit (if keepStatus then 128 + s else 124)
      | .ended _ (.exited code) => exit (if keepStatus then code else 124)
      | _ => exit 124
  | _ => exit 125

def timeout : Body := fun args => do
  let (opts, operands) ← timeoutOptions.find args
  let readTime (text : Octets) : Tool Nat := match duration? text with
    | some t => pure t
    | none => misuse 125 ("invalid time interval ".toList ++ textQuoted text)
  let signal ← match Options.last? opts 's' with
    | none => pure Signal.term
    | some text => match signal? text with
      | some s => pure s
      | none => misuse 125 (textQuoted text ++ ": invalid signal".toList)
  let killAfter ← match Options.last? opts 'k' with
    | none => pure none
    | some text => do pure (some (← readTime text))
  match operands with
  | time :: command :: more =>
    limited (Options.has opts 'v') (Options.has opts 'p') (Options.has opts 'f') signal killAfter (← readTime time) (command :: more)
  | _ => usage 125

/-- Runs a program under conditions that make no difference here. -/
def wrapped (misuse : Nat) (takers : String) (requires : Bool) : Body := fun args => do
  let (_, argv) ← { Options.of "" takers [] with misuse, inOrder := true }.find args
  if argv.isEmpty then
    if requires then Tool.misuse misuse "missing operand".toList else putLine ['0']
  else
    let e ← become argv (← get).environment
    fail (notRun e) (if requires then "failed to run command ".toList ++ because (nameQuoted (argv.headD [])) e
      else because (nameQuoted (argv.headD [])) e)

def nohup : Body := wrapped 125 "" true

def nice : Body := wrapped 125 "n" false

/-- Sends signals to processes. -/
def kill : Body := fun args => do
  let send (s : Signal) (pids : List Octets) : Tool Unit := do
    for pid in pids do
      let (negative, ds) := match pid with
        | '-' :: ds => (true, ds)
        | ds => (false, ds)
      match Octets.decimal? ds with
      | none => wrong ("failed to parse argument: ".toList ++ quoted pid)
      | some n =>
        match ← ask (.kill (if negative then -(n : Int) else n) s) with
        | .ok () => pure ()
        | .error e => wrong ("(".toList ++ pid ++ "): ".toList ++ (Errno.text e).toList)
  let named (text : Octets) : Tool Signal := match signal? text with
    | some s => pure s
    | none => fail 1 ("unknown signal name: ".toList ++ text)
  match args with
  | ['-', 'l'] :: [] => putLine ([' '].intercalate (Signal.names.map String.toList))
  | ['-', 'l'] :: text :: _ =>
    match Octets.decimal? text with
    | some n => putLine (Signal.name (if 128 < n then n - 128 else n)).toList
    | none => putLine (Octets.ofNat (← named text))
  | ['-', 's'] :: text :: pids => send (← named text) pids
  | ['-', '-'] :: pids => send Signal.term pids
  | ('-' :: c :: text) :: pids =>
    if pids.isEmpty then exit 1
    send (← named (c :: text)) pids
  | pids => if pids.isEmpty then exit 1 else send Signal.term pids

end AlloyGrade.Utility
