import AlloyGrade.Shell.Eval

/-! The shell as a program: its arguments, its environment, and where its commands come from. -/

namespace AlloyGrade.Shell

open Process

/-- The variables of a shell before it looks at its environment. -/
def initialVariables : List (Octets × Variable) :=
  [("IFS", " \t\n"), ("PATH", String.ofList standardPath), ("PS1", "# "), ("PS2", "> "), ("PS4", "+ "), ("OPTIND", "1")].map
    fun (name, value) => (name.toList, ⟨some value.toList, false, false⟩)

/-- Takes the environment over; separators are never inherited. -/
def inherited (environment : List Octets) : List (Octets × Variable) :=
  environment.foldl (fun vars text =>
    let (name, value) := Sh.splitAssignment text
    if !isVariableName name || value.isNone then vars
    else
      let value := if name == "IFS".toList then some " \t\n".toList else if name == "OPTIND".toList then some ['1'] else value
      if vars.any (·.1 == name) then vars.map fun (n, v) => if n == name then (n, ⟨value, true, false⟩) else (n, v)
      else vars ++ [(name, ⟨value, true, false⟩)]) initialVariables

def State.initial (name : Octets) (environment : List Octets) : State where
  name
  params := []
  vars := inherited environment
  locals := []
  functions := []
  calls := 0
  nested := 0
  aliases := []
  options := []
  traps := []
  pending := []
  unchangeable := []
  status := 0
  settled := none
  substituted := 0
  root := 0
  background := 0
  line := 0
  command := none
  loops := 0
  skip := .nothing
  skipCount := 0
  jobs := []
  documents := []
  freshDocument := 0
  logical := []
  physical := none
  optionIndex := 1
  optionOffset := none
  redirects := []
  hashed := []
  limits := Limit.initial
  level := 0
  output := []

/-- Finds out which signals are ignored from the start. -/
def noteIgnored : List Signal → Sh Unit
  | [] => return ()
  | signal :: rest => do
    let a : Arrangement ← Sh.ask (.arrangement signal)
    if a = .ignore then modify fun s => { s with unchangeable := signal :: s.unchangeable }
    noteIgnored rest

/-- Takes notice of the surroundings. -/
def settleIn : Sh Unit := do
  let v ← Sh.view
  modify ({ · with root := v.pid })
  Sh.setVariable "PPID".toList (some (Octets.ofNat v.parent)) false false
  noteIgnored ((List.range 32).drop 1)
  let given := (← get).value? "PWD"
  let isHere := given.any fun p => p.head? = some '/' &&
    (match v.fs.stat v.cwd (Octets.toPath p) with
      | .ok (loc, _) => loc == v.cwd
      | .error _ => false)
  noteDirectory (if isHere then given else none) false

/-- Fuel for everything that a shell does. -/
def lifetime : Nat := 1000000000000

/-- What a shell runs: the text of an option, a script, or its input. -/
def runGiven (args : Arguments) : Sh Unit := do
  let setParameters (name : Option Octets) (params : List Octets) : Sh Unit :=
    modify fun s => { s with name := name.getD s.name, params }
  if args.rest.isEmpty then
    if args.hasText then Sh.failString "-c requires an argument"
    switch 's' true
  let fromInput ← Sh.hasOption 's'
  if args.hasText then
    match args.rest with
    | text :: more =>
      setParameters more.head? (more.drop 1)
      let _ ← evalText lifetime text { Flags.plain with exits := !fromInput }
    | [] => pure ()
    unless fromInput do return ()
  else if !fromInput then
    match args.rest with
    | file :: params =>
      let fd ← openScript file
      setParameters (some file) params
      let _ ← evalScript lifetime fd
    | [] => pure ()
    return ()
  else setParameters none args.rest
  let _ ← evalScript lifetime 0

/-- The shell. -/
def program (argv environment : List Octets) : Program :=
  let body : Sh Unit := do
    let r ← Sh.attempt do
      settleIn
      let args := argv.drop 1
      runGiven (← shellOptions true (args.length + 1) args false)
    leave lifetime r
  body (.initial (argv.headD "sh".toList) environment) fun _ _ => .exit 2

end AlloyGrade.Shell
