import AlloyGrade.Shell.Options

/-! Children of the shell: waiting for them, listing them, and signals. -/

namespace AlloyGrade.Shell

open Process

/-! ### Waiting -/

namespace Sh

/-- Notes the signals that have come in. -/
def poll : Sh Unit := do
  unless (← get).traps.isEmpty do
    let caught ← ask .caught
    modify fun s => { s with pending := s.pending ++ caught.filter (!s.pending.contains ·) }

/-- Notes the end of a child in the job it belongs to. -/
def noteDeath (pid : Nat) (death : Death) : Sh Unit := modify fun s =>
  { s with jobs := s.jobs.map fun j =>
    if j.processes.any (fun (p, d) => p == pid && d.isNone) then
      { j with
        processes := j.processes.map fun (p, d) => if p == pid then (p, some death) else (p, d)
        changed := true }
    else j }

/-- A foreground process that was killed is described, unless the user or a reader did it. -/
def describeDeath (death : Death) : Sh Unit := do
  match death with
  | .signaled s =>
    unless s = Signal.int || s = Signal.pipe do
      let _ ← write 2 (Octets.ofString (Signal.description s) ++ ['\n'])
  | _ => return ()

/-- How many events are waited for at most. -/
def patience : Nat := 1000000000

/-- Waits until all of some children have ended; the status is that of the last. -/
def awaitAll (last : Nat) : Nat → List Nat → Nat → Sh Nat
  | 0, _, status => return status
  | fuel + 1, pids, status => do
    if pids.isEmpty then return status
    match ← ask (.wait none true) with
    | .ended pid death =>
      noteDeath pid death
      if pids.contains pid then
        describeDeath death
        awaitAll last fuel (pids.filter (· != pid)) (if pid = last then Job.statusOf death else status)
      else awaitAll last fuel pids status
    | .none_ => return status
    | .still => awaitAll last fuel pids status
    | .interrupted =>
      poll
      awaitAll last fuel pids status

/-- Waits for the processes of a foreground pipeline. -/
def foreground (pids : List Nat) : Sh Nat := awaitAll (pids.getLast?.getD 0) patience pids 0

/-- Enters a pipeline into the table of jobs, under the lowest number that is free. -/
def addJob (pids : List Nat) : Sh Unit := modify fun s =>
  let kept := s.jobs.filter fun j => j.isRunning || !j.waited
  let number := ((List.range (kept.length + 1)).find? fun n => !(kept.any (·.number == n + 1))).getD 0 + 1
  { s with jobs := ⟨number, pids.map ((·, none)), false, false⟩ :: kept, background := pids.getLast?.getD 0 }

/-- Waits until a job has ended; a signal with a trap ends the waiting early. What killed a process of the job is
described if asked for. -/
def awaitJob (number : Nat) (describes : Bool) : Nat → Sh Bool
  | 0 => return true
  | fuel + 1 => do
    let s ← get
    match s.jobs.find? (·.number == number) with
    | none => return true
    | some j =>
      if !j.isRunning then return true
      if !s.pending.isEmpty then return false
      match ← ask (.wait none true) with
      | .ended pid death =>
        noteDeath pid death
        if describes && j.processes.any (·.1 == pid) then describeDeath death
        awaitJob number describes fuel
      | .none_ => return true
      | .still => awaitJob number describes fuel
      | .interrupted =>
        poll
        awaitJob number describes fuel

/-- Notes the children that have ended already. -/
def reap : Nat → Sh Unit
  | 0 => return ()
  | fuel + 1 => do
    match ← ask (.wait none false) with
    | .ended pid death =>
      noteDeath pid death
      reap fuel
    | _ => return ()

end Sh

/-! ### Jobs by name -/

/-- The job that a word with a percent sign means. -/
def namedJob (word : Octets) : Sh Job := do
  let s ← get
  if word.head? ≠ some '%' then Sh.fail ("No such job: ".toList ++ word)
  let found := match word.drop 1 with
    | [] | ['%'] | ['+'] => s.jobs.head?
    | ['-'] => (s.jobs.drop 1).head?
    | ds => (Octets.decimal? ds).bind fun n => s.jobs.find? (·.number == n)
  match found with
  | some j => return j
  | none =>
    match word.drop 1 with
    | [] | ['%'] | ['+'] => Sh.failString "No current job"
    | ['-'] => Sh.failString "No previous job"
    | _ => Sh.fail ("No such job: ".toList ++ word)

namespace Builtin

/-- Waits for one job after another; `none` if a signal came between. -/
def waitFor : List Octets → Nat → Sh (Option Nat)
  | [], status => return some status
  | a :: rest, status => do
    let job ← if a.head? = some '%' then do pure (some (← namedJob a)) else do
      let pid ← naturalNumber a
      pure ((← get).jobs.find? fun j => (j.processes.getLast?.map (·.1)) = some pid)
    match job with
    | none => waitFor rest status
    | some job =>
      if ← Sh.awaitJob job.number true Sh.patience then
        let s ← get
        let status := ((s.jobs.find? (·.number == job.number)).map Job.status).getD 127
        set { s with jobs := s.jobs.map fun (j : Job) => if j.number == job.number then { j with waited := true } else j }
        waitFor rest status
      else return none

def waitAll : Nat → Sh Bool
  | 0 => return true
  | fuel + 1 => do
    match (← get).jobs.find? Job.isRunning with
    | none =>
      modify fun s => { s with jobs := s.jobs.map ({ · with waited := true }) }
      return true
    | some j => if ← Sh.awaitJob j.number false Sh.patience then waitAll fuel else return false

def wait (args : List Octets) : Sh Nat := do
  let args ← noOptions args
  let interrupted : Sh Nat := do return 128 + ((← get).pending.head?.getD 0)
  if args.isEmpty then
    if ← waitAll Sh.patience then return 0 else interrupted
  else
    match ← waitFor args 127 with
    | some status => return status
    | none => interrupted

/-- How a job stands. -/
def jobState (j : Job) : String :=
  if j.isRunning then "Running"
  else match j.processes.getLast? with
    | some (_, some (.exited 0)) => "Done"
    | some (_, some (.exited n)) => "Done(" ++ toString n ++ ")"
    | some (_, some (.signaled s)) => Signal.description s
    | some (_, some (.stopped s)) => Signal.description s
    | _ => ""

def showJob (withPids pidsOnly : Bool) (sign : Char) (j : Job) : Sh Unit := do
  if pidsOnly then Sh.putString (toString ((j.processes.head?.map (·.1)).getD 0) ++ "\n")
  else
    let head := "[" ++ toString j.number ++ "] " ++ sign.toString ++ " "
    let pid := if withPids then toString ((j.processes.head?.map (·.1)).getD 0) ++ " " else ""
    let text := head ++ pid ++ jobState j
    let gap (n : Nat) : String := String.ofList (List.replicate n ' ')
    Sh.putString (text ++ gap (max 1 (33 - text.length)))
    for (p, _) in j.processes.drop 1 do
      if withPids then
        let line := gap head.length ++ toString p ++ " "
        Sh.putString (" |\n" ++ line ++ gap (max 1 (33 - line.length)))
      else Sh.putString " | "
    Sh.putString "\n"

def jobs (args : List Octets) : Sh Nat := do
  let (opts, args) ← options "lp" "" args
  let withPids := opts.any (·.1 == 'l')
  let pidsOnly := opts.any (·.1 == 'p')
  Sh.reap 100000
  let s ← get
  let wanted ← if args.isEmpty then pure s.jobs else args.mapM namedJob
  for j in wanted do
    let sign := if (s.jobs.head?.map (·.number)) = some j.number then '+'
      else if ((s.jobs.drop 1).head?.map (·.number)) = some j.number then '-'
      else ' '
    showJob withPids pidsOnly sign j
  modify fun s => { s with jobs := s.jobs.filter fun j => j.isRunning || !(wanted.any (·.number == j.number)) }
  return 0

/-! ### Signals -/

/-- The signal that a word names, by number or by name. -/
def signalNamed? (least : Nat) (word : Octets) : Option Signal :=
  match Octets.decimal? word with
  | some n => if n < Signal.limit then some n else none
  | none =>
    ((List.range Signal.limit).drop least).find? fun s =>
      (Signal.name s).toList.map Char.toLower == word.map Char.toLower

def killUsage : String :=
  "Usage: kill [-s sigspec | -signum | -sigspec] [pid | job]... or\nkill -l [exitstatus]"

/-- Sends a signal to the processes that words name. -/
def sendTo (signal : Signal) : List Octets → Nat → Sh Nat
  | [], status => return status
  | a :: rest, status => do
    let pid : Int ← match a with
      | '%' :: _ => do pure (-(((← namedJob a).processes.head?.map (·.1)).getD 0 : Nat) : Int)
      | '-' :: ds => do pure (-(← naturalNumber ds : Nat) : Int)
      | _ => do pure ((← naturalNumber a : Nat) : Int)
    match ← Sh.ask (.kill pid signal) with
    | .ok () => sendTo signal rest status
    | .error e =>
      Sh.warnString (Errno.text e ++ "\n")
      sendTo signal rest 1

def kill (args : List Octets) : Sh Nat := do
  match args with
  | [] => Sh.failString killUsage
  | first :: rest =>
    let (signal, list, targets) ← match first with
      | '-' :: word =>
        match signalNamed? 1 word with
        | some s => pure (some s, false, rest)
        | none => do
          let (opts, targets) ← options "l" "s" args
          let mut signal : Option Signal := none
          for (letter, value) in opts do
            if letter = 's' then
              match signalNamed? 1 value with
              | some s => signal := some s
              | none => Sh.fail ("invalid signal number or name: ".toList ++ value)
          pure (signal, opts.any (·.1 == 'l'), targets)
      | _ => pure (none, false, args)
    let signal := if list then signal else some (signal.getD Signal.term)
    if (signal.isNone || targets.isEmpty) != list then Sh.failString killUsage
    if list then
      match targets with
      | [] =>
        Sh.putString "0\n"
        for s in (List.range Signal.limit).drop 1 do
          Sh.putString (Signal.name s ++ "\n")
      | a :: _ =>
        let n ← naturalNumber a
        let n := if 128 < n then n - 128 else n
        if 0 < n && n < Signal.limit then Sh.putString (Signal.name n ++ "\n")
        else Sh.fail ("invalid signal number or exit status: ".toList ++ a)
      return 0
    else sendTo (signal.getD Signal.term) targets 0

/-- Tells the system what to do with a signal, as the traps say. -/
def arrange (signal : Signal) : Sh Unit := do
  let s ← get
  unless signal = 0 || s.unchangeable.contains signal do
    Sh.ask (.arrange signal (match s.traps.lookup signal with
      | none => .default
      | some [] => .ignore
      | some _ => .catch_))

def setTraps (action : Option Octets) : List Octets → Sh Nat
  | [] => return 0
  | word :: rest => do
    match signalNamed? 0 word with
    | none =>
      let _ ← Sh.write 2 ("trap: ".toList ++ word ++ ": bad trap\n".toList)
      return 1
    | some signal =>
      modify fun s =>
        let others := s.traps.filter (·.1 != signal)
        { s with traps := match action with
          | some text => if text == ['-'] then others else (signal, text) :: others
          | none => others }
      arrange signal
      setTraps action rest

def trap (args : List Octets) : Sh Nat := do
  let args ← noOptions args
  match args with
  | [] =>
    for (signal, text) in (← get).traps.mergeSort fun a b => a.1 ≤ b.1 do
      Sh.put ("trap -- ".toList ++ singleQuoted text ++ [' '] ++ (Signal.name signal).toList ++ ['\n'])
    return 0
  | first :: rest =>
    if rest.isEmpty || (Octets.decimal? first).any (· < Signal.limit) then setTraps none args
    else setTraps (some first) rest

end Builtin

end AlloyGrade.Shell
