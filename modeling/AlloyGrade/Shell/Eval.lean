import AlloyGrade.Shell.Command

/-! Evaluation of commands. Each function spends fuel on its way down; one step of a program is asked for at every
command, so that long scripts run in constant depth. -/

namespace AlloyGrade.Shell

open Process

/-- How a command is evaluated. -/
structure Flags where
  /-- The shell has nothing else to do afterwards. -/
  exits : Bool
  /-- Its failure is looked at, and does not end the shell. -/
  tested : Bool

namespace Flags

def plain : Flags := ⟨false, false⟩
def test : Flags := ⟨false, true⟩
def last : Flags := ⟨true, false⟩

/-- What is left of the flags inside a construct. -/
def inner (f : Flags) : Flags := ⟨false, f.tested⟩

end Flags

/-- What kind of child is started. -/
inductive Fork where
  | foreground
  | background (isFirst : Bool)
deriving DecidableEq

/-- Whether some trap does something. -/
def State.hasTraps (s : State) : Bool := s.traps.any fun (_, action) => !action.isEmpty

/-- What a child does first: it has no jobs and no traps of its own, and in the background it reads nothing and is not
interrupted. -/
def enterChild (mode : Fork) : Sh Unit := do
  let s ← get
  let dropped := s.traps.filter fun (_, action) => !action.isEmpty
  set { s with
    level := s.level + 1, traps := s.traps.filter (·.2.isEmpty), pending := [], jobs := [] }
  for (signal, _) in dropped do Builtin.arrange signal
  match mode with
  | .foreground => pure ()
  | .background isFirst =>
    Sh.ask (.arrange Signal.int .ignore)
    Sh.ask (.arrange Signal.quit .ignore)
    modify fun s => { s with unchangeable := Signal.int :: Signal.quit :: s.unchangeable }
    if isFirst then
      let _ ← Sh.ask (.close 0)
      let _ ← Sh.ask (.open_ (Octets.toPath "/dev/null".toList) .reading 0)

/-- Makes one descriptor lead where another does, and closes that. -/
def moveDescriptor (source target : Nat) : Sh Unit := do
  let _ ← Sh.ask (.duplicate source target)
  let _ ← Sh.ask (.close source)

def setStatus (n : Nat) : Sh Unit := modify ({ · with status := n })

/-- What a loop does after its body: whether it goes on, and what still has to be passed over. -/
def afterBody : Sh Bool := modifyGet fun s =>
  match s.skip with
  | .nothing => (true, s)
  | .break_ =>
    if s.skipCount ≤ 1 then (false, { s with skip := .nothing, skipCount := s.skipCount - 1 })
    else (false, { s with skipCount := s.skipCount - 1 })
  | .continue_ =>
    if s.skipCount ≤ 1 then (true, { s with skip := .nothing, skipCount := s.skipCount - 1 })
    else (false, { s with skipCount := s.skipCount - 1 })
  | .function | .definition => (false, s)

/-- Settles the status of a shell that is about to exit, and undoes what is under way. -/
def resetForExit (isExit : Bool) : Sh Unit := do
  modify fun s =>
    { s with
      status := match s.settled with
        | some n => if isExit || s.skip = .definition then n else s.status
        | none => s.status
      settled := none, skip := .nothing, loops := 0, output := [] }
  unwindRedirects 0 (← get).redirects.length

/-- The text that a prompt stands for, as symbols. -/
def promptWord (text : Octets) : Word :=
  let start := ReaderState.start text
  let read : Reader Word := do
    let r ← Reader.chars Reader.limit (some ([joint], false)) (← Reader.nextChar?) (.fresh .double) [] [] false
    return r.symbols
  match read.run start with
  | .ok (w, _) => w
  | .error _ => text.map .char

/-- Shows a command before it runs. -/
def trace (run : Node → Sh Octets) (assigned words : List Octets) : Sh Unit := do
  let s ← get
  if s.options.contains 'x' then
    let mark ← Expansion.text run .document (promptWord ((s.value? "PS4").getD []))
    let fd := (((s.redirects.headD []).lookup 2).join).getD 2
    let _ ← Sh.write fd (mark ++ [' '].intercalate (assigned ++ words) ++ ['\n'])

/-- Looks up the program of a stage before its process starts, so that the shell itself remembers it. -/
def remember : Node → Sh Unit
  | .simple _ _ (word :: _) _ => do
    let plain := word.filterMap fun | .char c => some c | _ => none
    if plain.length = word.length && isVariableName plain then
      let _ ← meaning plain true none
  | _ => return ()

/-- Gives variables the values of assignments. -/
def assignAll (run : Node → Sh Octets) (isLocal exported : Bool) : List Word → Sh (List Octets)
  | [] => return []
  | w :: rest => do
    let text ← Expansion.text run .assignment w
    if isLocal then Builtin.makeLocal text true
    else
      let (name, value) := Sh.splitAssignment text
      Sh.setVariable name value exported false
    return text :: (← assignAll run isLocal exported rest)

/-- How many calls of functions can be under way. -/
def deepestCall : Nat := 1000

/-- How many texts can be evaluated within each other before the memory for that is used up. -/
def deepestText : Nat := 1000

/-- Evaluates a text within another one; where there is no memory left, the process ends. -/
def within (body : Sh Nat) : Sh Nat := do
  let depth := (← get).nested
  if deepestText ≤ depth then
    let _ ← Sh.ask (.kill (← Sh.view).pid Signal.segv)
  modify ({ · with nested := depth + 1 })
  let r ← Sh.attempt body
  modify ({ · with nested := depth })
  match r with
  | .ok status => return status
  | .error e => throw e

mutual

/-- Evaluates a command and returns its status. -/
def evalTree : Nat → Node → Flags → Sh Nat
  | 0, _, _ => Sh.exit 2
  | fuel + 1, n, flags => do
    Sh.ask .step
    let s ← get
    if s.options.contains 'n' then return s.status
    match n with
    | .nothing => finish fuel flags none false
    | _ =>
      runTraps fuel
      match n with
      | .nothing => finish fuel flags none false
      | .negated body =>
        let status ← evalTree fuel body .test
        finish fuel flags (some (if status = 0 then 1 else 0)) false
      | .redirected line body redirects =>
        modify ({ · with line })
        let directions ← expandRedirects (substitute fuel) redirects
        pushRedirects
        let failed ← redirectSafely (substitute fuel) directions
        let status ← if failed = 0 then evalTree fuel body flags.inner else pure failed
        popRedirects false
        finish fuel flags (some status) (failed ≠ 0)
      | .simple line assigns words redirects =>
        let status ← evalSimple fuel line assigns words redirects flags
        finish fuel flags (some status) true
      | .each line name items body =>
        modify ({ · with line })
        let values ← expandRest (substitute fuel) false items
        modify fun s => { s with loops := s.loops + 1 }
        let status ← evalEach fuel name body flags.inner values 0
        modify fun s => { s with loops := s.loops - 1 }
        finish fuel flags (some status) false
      | .loop untilHolds test body =>
        modify fun s => { s with loops := s.loops + 1 }
        let status ← evalLoop fuel untilHolds test body flags.inner 0
        modify fun s => { s with loops := s.loops - 1 }
        finish fuel flags (some status) false
      | .subshell line body redirects =>
        modify ({ · with line })
        let directions ← expandRedirects (substitute fuel) redirects
        let inside (flags : Flags) : Sh Unit := do
          redirect (substitute fuel) false directions
          let _ ← evalTree fuel body flags
        if flags.exits && !(← get).hasTraps then
          inside flags
          return 0
        else
          let pid ← inChild fuel .foreground (inside { flags with exits := true })
          let status ← Sh.foreground [pid]
          finish fuel flags (some status) true
      | .background line body redirects =>
        modify ({ · with line })
        let directions ← expandRedirects (substitute fuel) redirects
        let pid ← inChild fuel (.background true) do
          redirect (substitute fuel) false directions
          let _ ← evalTree fuel body .last
        Sh.addJob [pid]
        finish fuel flags (some 0) true
      | .pipe background stages =>
        let pids ← pipeFrom fuel background { flags with exits := true } stages none []
        let status ← if background then do
            Sh.addJob pids
            pure 0
          else Sh.foreground pids
        finish fuel flags (some status) true
      | .choose line word arms =>
        modify ({ · with line })
        let text ← Expansion.text (substitute fuel) .text word
        let status ← evalArms fuel flags text arms
        finish fuel flags (some status) false
      | .both first second =>
        let status ← evalTree fuel first .test
        if status ≠ 0 || (← get).skip ≠ .nothing then finish fuel flags none false
        else finish fuel flags (some (← evalTree fuel second flags)) false
      | .either first second =>
        let status ← evalTree fuel first .test
        if status = 0 || (← get).skip ≠ .nothing then finish fuel flags none false
        else finish fuel flags (some (← evalTree fuel second flags)) false
      | .sequence first second =>
        let _ ← evalTree fuel first flags.inner
        if (← get).skip ≠ .nothing then finish fuel flags none false
        else finish fuel flags (some (← evalTree fuel second flags)) false
      | .branch test yes no =>
        let status ← evalTree fuel test .test
        if (← get).skip ≠ .nothing then finish fuel flags none false
        else if status = 0 then finish fuel flags (some (← evalTree fuel yes flags)) false
        else match no with
          | .nothing => finish fuel flags (some 0) false
          | no => finish fuel flags (some (← evalTree fuel no flags)) false
      | .define line name body =>
        modify fun s => { s with functions := (name, line, body) :: s.functions.filter (·.1 != name) }
        finish fuel flags (some 0) false

/-- What follows every command: its status is noted, traps run, and the shell ends if it is meant to. -/
def finish : Nat → Flags → Option Nat → Bool → Sh Nat
  | 0, _, _, _ => Sh.exit 2
  | fuel + 1, flags, status, checked => do
    match status with
    | some n => setStatus n
    | none => pure ()
    runTraps fuel
    let s ← get
    if checked && !flags.tested && s.options.contains 'e' && status.any (· ≠ 0) then throw .end_
    if flags.exits then throw .end_
    return s.status

/-- Starts a child that evaluates something and then exits. -/
def inChild : Nat → Fork → Sh Unit → Sh Nat
  | 0, _, _ => return 0
  | fuel + 1, mode, body => Sh.fork do
    let r ← Sh.attempt do
      enterChild mode
      body
    leave fuel r

/-- Ends the shell: the trap for that runs, then the process exits. -/
def leave : Nat → Except Raise Unit → Sh Unit
  | 0, _ => Sh.exit 2
  | fuel + 1, r => do
    match r with
    | .error e => resetForExit (e = .exit)
    | .ok () => pure ()
    let s ← get
    let status := s.status
    match s.traps.lookup 0 with
    | none => Sh.exit status
    | some action =>
      set { s with settled := some status, traps := s.traps.filter (·.1 != 0), skip := .nothing }
      match ← Sh.attempt (evalText fuel action .plain) with
      | .ok _ =>
        modify ({ · with skip := .definition })
        resetForExit false
      | .error e => resetForExit (e = .exit)
      Sh.exit (← get).status

/-- Runs the traps of the signals that have come in. -/
def runTraps : Nat → Sh Unit
  | 0 => return ()
  | fuel + 1 => do
    Sh.poll
    let s ← get
    unless s.pending.isEmpty do
      let status := s.settled.getD s.status
      set { s with settled := some status }
      trapsFrom fuel status (s.pending.mergeSort (· ≤ ·))
      modify ({ · with settled := s.settled })

def trapsFrom : Nat → Nat → List Signal → Sh Unit
  | 0, _, _ => return ()
  | _, _, [] => return ()
  | fuel + 1, status, signal :: rest => do
    let s ← get
    if s.skip = .nothing then
      set { s with pending := s.pending.filter (· != signal) }
      match s.traps.lookup signal with
      | none => pure ()
      | some action =>
        let _ ← evalText fuel action .plain
        if (← get).skip ≠ .function then setStatus status
      trapsFrom fuel status rest

/-- Evaluates the commands of a text. -/
def evalText : Nat → Octets → Flags → Sh Nat
  | 0, _, _ => return 0
  | fuel + 1, text, flags => evalCommands fuel (.start text) flags false none 0

/-- Evaluates one command after another; those of a script may be shown as they are read. If a command goes on
past the end of the text, it is read again with more of the script that the text comes from. -/
def evalCommands : Nat → ReaderState → Flags → Bool → Option Nat → Nat → Sh Nat
  | 0, _, _, _, _, status => return status
  | fuel + 1, r, flags, isScript, source, status => do
    let s ← get
    let read := Reader.complete.run { r with aliases := s.aliases, fresh := s.freshDocument, documents := [], ended := false }
    let ended := match read with
      | .error _ => true
      | .ok (_, left) => left.ended
    let more ← match source with
      | some fd => if ended then moreScript fd Sh.patience else pure []
      | none => pure []
    if !more.isEmpty then evalCommands fuel { r with text := r.text ++ more } flags isScript source status
    else
      let source := if ended then none else source
      match read with
      | .error fault =>
        modify ({ · with line := fault.line })
        Sh.failString fault.message
      | .ok (found, left) =>
        if isScript && s.options.contains 'v' then
          let _ ← Sh.write 2 (r.text.take (r.text.length - left.text.length))
        match found with
        | none => return status
        | some n =>
          modify fun s => { s with documents := left.documents ++ s.documents, freshDocument := left.fresh }
          let atEnd := left.pushedBack && left.last = .eof
          let found ← evalTree fuel n { flags with exits := flags.exits && atEnd }
          let status := match n with
            | .nothing => status
            | _ => found
          if (← get).skip ≠ .nothing then return status
          evalCommands fuel left flags isScript source status

/-- Runs the script behind a descriptor up to its end, or until it is left. -/
def evalScript : Nat → Nat → Sh Nat
  | 0, _ => return 0
  | fuel + 1, fd => do
    let r ← Sh.attempt (evalCommands fuel (.start []) .plain true (some fd) 0)
    unless fd = 0 do
      let _ ← Sh.ask (.close fd)
    match r with
    | .error e => throw e
    | .ok status =>
      modify fun s => match s.skip with
        | .function | .definition => { s with skip := .nothing }
        | _ => s
      return status

/-- The output of a command. -/
def substitute : Nat → Node → Sh Octets
  | 0, _ => return []
  | fuel + 1, n => do
    match n with
    | .nothing => return []
    | _ =>
      let (input, output) ← Sh.ask .pipe
      let pid ← inChild fuel .foreground do
        let _ ← Sh.ask (.close input)
        unless output = 1 do moveDescriptor output 1
        let _ ← evalTree fuel n .last
      let _ ← Sh.ask (.close output)
      let text ← readAll input Sh.patience []
      let _ ← Sh.ask (.close input)
      let status ← Sh.foreground [pid]
      modify ({ · with substituted := status })
      return text

def evalEach : Nat → Octets → Node → Flags → List Octets → Nat → Sh Nat
  | 0, _, _, _, _, status => return status
  | _, _, _, _, [], status => return status
  | fuel + 1, name, body, flags, v :: rest, _ => do
    Sh.assign name v
    let status ← evalTree fuel body flags
    if ← afterBody then evalEach fuel name body flags rest status else return status

def evalLoop : Nat → Bool → Node → Node → Flags → Nat → Sh Nat
  | 0, _, _, _, _, status => return status
  | fuel + 1, untilHolds, test, body, flags, status => do
    let tested ← evalTree fuel test .test
    match (← get).skip with
    | .nothing =>
      if (tested = 0) = untilHolds then return status
      let status ← evalTree fuel body flags
      if ← afterBody then evalLoop fuel untilHolds test body flags status else return status
    | skip =>
      let status := if skip = .function then tested else status
      if ← afterBody then evalLoop fuel untilHolds test body flags status else return status

/-- Evaluates the first arm that fits. -/
def evalArms : Nat → Flags → Octets → List (List Word × Node) → Sh Nat
  | 0, _, _, _ => return 0
  | _, _, _, [] => return 0
  | fuel + 1, flags, text, (patterns, body) :: rest => do
    if (← get).skip ≠ .nothing then return 0
    if ← fitsAny fuel text patterns then
      match body with
      | .nothing => return 0
      | body => if (← get).skip = .nothing then evalTree fuel body flags else return 0
    else evalArms fuel flags text rest

def fitsAny : Nat → Octets → List Word → Sh Bool
  | 0, _, _ => return false
  | _, _, [] => return false
  | fuel + 1, text, w :: rest => do
    let pattern ← Expansion.pattern (substitute fuel) w
    if pattern.fits text then return true else fitsAny fuel text rest

/-- Starts the stages of a pipeline, each reading from the one before. -/
def pipeFrom : Nat → Bool → Flags → List Node → Option Nat → List Nat → Sh (List Nat)
  | 0, _, _, _, _, pids => return pids.reverse
  | _, _, _, [], _, pids => return pids.reverse
  | fuel + 1, background, flags, stage :: rest, input, pids => do
    remember stage
    let next ← if rest.isEmpty then pure none else do pure (some (← Sh.ask .pipe))
    let mode : Fork := if background then .background pids.isEmpty else .foreground
    let pid ← inChild fuel mode do
      match next with
      | some (r, _) =>
        let _ ← Sh.ask (.close r)
      | none => pure ()
      match input with
      | some fd => if fd ≠ 0 then moveDescriptor fd 0
      | none => pure ()
      match next with
      | some (_, w) => if w ≠ 1 then moveDescriptor w 1
      | none => pure ()
      let _ ← evalTree fuel stage flags
    match input with
    | some fd =>
      let _ ← Sh.ask (.close fd)
    | none => pure ()
    match next with
    | some (r, w) =>
      let _ ← Sh.ask (.close w)
      pipeFrom fuel background flags rest (some r) (pid :: pids)
    | none => pipeFrom fuel background flags rest none (pid :: pids)

/-- Evaluates a simple command. -/
def evalSimple : Nat → Nat → List Word → List Word → List Redirect → Flags → Sh Nat
  | 0, _, _, _, _, _ => return 0
  | fuel + 1, line, assigns, words, redirects, flags => do
    modify ({ · with line, substituted := 0 })
    let run := substitute fuel
    let i ← invocation run words
    let depth := (← get).locals.length
    if i.isLocal then pushLocals
    let directions ← expandRedirects run redirects
    let outer := (← get).redirects.length
    pushRedirects
    let failed ← redirectSafely run directions
    let status ← if failed ≠ 0 then do
        setStatus failed
        if i.isSpecial then throw .error
        pure failed
      else do
        let assigned ← assignAll run i.isLocal (i.isExec && 1 < i.argv.length) assigns
        trace run assigned i.all
        let status ← runCommand fuel i flags
        popRedirects i.isExec
        pure status
    unwindRedirects outer (← get).redirects.length
    unwindLocals depth
    return status

/-- Runs a command whose words and surroundings are ready. -/
def runCommand : Nat → Invocation → Flags → Sh Nat
  | 0, _, _ => return 0
  | fuel + 1, i, flags => do
    match i.argv with
    | [] =>
      let s ← get
      setStatus s.substituted
      return s.substituted
    | name :: args =>
      match ← meaning name i.withFunctions i.path with
      | .unknown e =>
        Sh.warn (name ++ ": ".toList ++ (startFailure e).toList)
        setStatus 127
        if i.isSpecial then throw .error
        return 127
      | .builtin =>
        runBuiltin fuel name args flags i.isSpecial
        return (← get).status
      | .function _ body =>
        runFunction fuel body args flags
        return (← get).status
      | .program paths =>
        if flags.exits && !(← get).hasTraps then execute i.argv paths
        else
          let pid ← Sh.fork do
            let _ ← Sh.attempt (execute (α := Unit) i.argv paths)
            Sh.exit (← get).status
          Sh.foreground [pid]

/-- Runs a builtin. Its failure ends the shell only if it belongs to the language. -/
def runBuiltin : Nat → Octets → List Octets → Flags → Bool → Sh Unit
  | 0, _, _, _, _ => return ()
  | fuel + 1, name, args, flags, isSpecial => do
    let before := (← get).command
    modify ({ · with command := some name })
    let r ← Sh.attempt do
      let status ← match Builtin.plain? name args with
        | some body => body
        | none => evaluatingBuiltin fuel name args flags
      let written ← Sh.flush
      unless written do Sh.warn (name ++ ": I/O error".toList)
      setStatus (if written then status else status ||| 1)
    modify ({ · with command := before, output := [] })
    match r with
    | .ok () => return ()
    | .error e => unless e = .error && !isSpecial do throw e

/-- The builtins that evaluate commands themselves. -/
def evaluatingBuiltin : Nat → Octets → List Octets → Flags → Sh Nat
  | 0, _, _, _ => return 0
  | fuel + 1, name, args, flags => do
    match String.ofList name with
    | "eval" =>
      let args ← pure (if args.head? = some ['-', '-'] then args.drop 1 else args)
      if args.isEmpty then return 0
      within (evalText fuel ([' '].intercalate args) flags.inner)
    | "exec" =>
      let args := if args.head? = some ['-', '-'] then args.drop 1 else args
      match args with
      | [] => return 0
      | program :: _ =>
        let dirs := searchDirectories (((← get).value? "PATH").getD [])
        execute args (dirs.map (joinPath · program))
    | "." =>
      let args ← noOptions args
      match args with
      | [] => return 0
      | file :: _ =>
        let path ← Builtin.findScript file
        let fd ← openScript path
        modify ({ · with command := some path })
        within (evalScript fuel fd)
    | _ => return 0

/-- Runs the body of a function with its own parameters. -/
def runFunction : Nat → Node → List Octets → Flags → Sh Unit
  | 0, _, _, _ => return ()
  | fuel + 1, body, args, flags => do
    let s ← get
    if deepestCall ≤ s.calls then
      Sh.failString ("Maximum function recursion depth (" ++ toString deepestCall ++ ") reached")
    set { s with params := args, loops := 0, optionIndex := 1, optionOffset := none, calls := s.calls + 1 }
    let r ← Sh.attempt (evalTree fuel body flags.inner)
    modify fun t => { t with
      params := s.params, calls := s.calls, loops := s.loops, optionIndex := s.optionIndex, optionOffset := s.optionOffset
      skip := if t.skip = .function || t.skip = .definition then .nothing else t.skip }
    match r with
    | .ok _ => return ()
    | .error e => throw e

end

end AlloyGrade.Shell
