import AlloyGrade.Shell.Names

/-! Redirections: where descriptors lead while a command runs. -/

namespace AlloyGrade.Shell

open Process

/-- A redirection whose words have been expanded. -/
inductive Direction where
  | file (fd : Nat) (use : FileUse) (name : Octets)
  | copy (fd source : Nat)
  | close (fd : Nat)
  | document (fd : Nat) (d : Document)

namespace Direction

def fd : Direction → Nat
  | .file fd .. | .copy fd _ | .close fd | .document fd _ => fd

end Direction

/-- Expands the words of redirections. Documents stay as they are until they are needed. -/
def expandRedirects (run : Node → Sh Octets) : List Redirect → Sh (List Direction)
  | [] => return []
  | r :: rest => do
    let direction ← match r with
      | .file fd use name => do pure (Direction.file fd use (← Expansion.text run .text name))
      | .copy fd source => pure (.copy fd source)
      | .close fd => pure (.close fd)
      | .named fd _ word => do
        match ← Expansion.fields run word with
        | [] => Sh.failString "redir error"
        | [c] :: _ =>
          if c.isDigit then pure (.copy fd (c.toNat - '0'.toNat))
          else if c = '-' then pure (.close fd)
          else Sh.failString "Syntax error: Bad fd number"
        | _ => Sh.failString "Syntax error: Bad fd number"
      | .here fd number => do
        pure (.document fd (((← get).documents.lookup number).getD ⟨[], false⟩))
    return direction :: (← expandRedirects run rest)

/-- Why a file could not be opened. -/
def openFailure (creates : Bool) (name : Octets) (e : Errno) : Octets :=
  let reason := if e = 2 || e = 20 then (if creates then "Directory nonexistent" else "No such file") else Errno.text e
  (if creates then "cannot create " else "cannot open ").toList ++ name ++ ": ".toList ++ reason.toList

def openFile (name : Octets) (how : Opening) : Sh Nat := do
  match ← Sh.ask (.open_ (Octets.toPath name) how 0o666) with
  | .ok fd => return fd
  | .error e => Sh.fail (openFailure how.create name e)

/-- How much a pipe is sure to take at once. -/
def pipeRoom : Nat := 4096

/-- Opens what a redirection leads to; `none` if nothing has to be done, and no descriptor if one is closed. -/
def openDirection (run : Node → Sh Octets) : Direction → Sh (Option (Option Nat))
  | .file _ .input name => do return some (some (← openFile name .reading))
  | .file _ .both name => do return some (some (← openFile name .both))
  | .file _ .append name => do return some (some (← openFile name .appending))
  | .file _ .clobber name => do return some (some (← openFile name .writing))
  | .file _ .output name => do
    if ← Sh.hasOption 'C' then
      let v ← Sh.view
      match v.fs.stat v.cwd (Octets.toPath name) with
      | .error _ => return some (some (← openFile name .fresh))
      | .ok (_, .file _) => Sh.fail (openFailure true name Errno.alreadyExists)
      | .ok _ => return some (some (← openFile name .present))
    else return some (some (← openFile name .writing))
  | .copy fd source => return if fd = source then none else some (some source)
  | .close _ => return some none
  | .document _ d => do
    let text ← if d.expands then Expansion.text run .document d.text else pure (Word.plain d.text)
    let (input, output) ← Sh.ask .pipe
    if text.length ≤ pipeRoom then
      let _ ← Sh.write output text
    else
      let _ ← Sh.fork do
        let _ ← Sh.ask (.close input)
        let _ ← Sh.write output text
        Sh.exit 0
    let _ ← Sh.ask (.close output)
    return some (some input)

/-- Lets a descriptor lead to what has been opened. -/
def connect (d : Direction) (opened : Option Nat) : Sh Unit := do
  match d, opened with
  | .copy fd _, some source =>
    match ← Sh.ask (.duplicate source fd) with
    | .ok () => return ()
    | .error e => Sh.fail (Octets.ofNat source ++ ": ".toList ++ (Errno.text e).toList)
  | d, none =>
    let _ ← Sh.ask (.close d.fd)
  | d, some opened =>
    let _ ← Sh.ask (.duplicate opened d.fd)
    let _ ← Sh.ask (.close opened)

/-- Remembers where a descriptor led, and closes it. -/
def setAside (fd : Nat) (opened : Option Nat) : Sh Unit := do
  let known := ((← get).redirects.headD []).any (·.1 == fd)
  unless known do
    let saved ← if opened = some fd then pure none else do
      match ← Sh.ask (.save fd 10) with
      | .ok saved =>
        let _ ← Sh.ask (.close fd)
        pure (some saved)
      | .error _ => pure none
    modify fun s => { s with redirects := match s.redirects with
      | frame :: rest => ((fd, saved) :: frame) :: rest
      | [] => [] }

/-- Carries redirections out, one after another; if they are to be undone later, the old descriptors are kept. -/
def redirect (run : Node → Sh Octets) (keep : Bool) : List Direction → Sh Unit
  | [] => return ()
  | d :: rest => do
    match ← openDirection run d with
    | none => pure ()
    | some opened =>
      if keep then setAside d.fd opened
      unless opened = some d.fd do connect d opened
    redirect run keep rest

/-- Starts to remember descriptors. -/
def pushRedirects : Sh Unit := modify fun s => { s with redirects := [] :: s.redirects }

def restoreAll (forget : Bool) : List (Nat × Option Nat) → Sh Unit
  | [] => return ()
  | (fd, saved) :: rest => do
    match saved with
    | some old =>
      unless forget do
        let _ ← Sh.ask (.duplicate old fd)
      let _ ← Sh.ask (.close old)
    | none =>
      unless forget do
        let _ ← Sh.ask (.close fd)
    restoreAll forget rest

/-- Puts descriptors back as they were, or forgets how they were. -/
def popRedirects (forget : Bool) : Sh Unit := do
  let s ← get
  match s.redirects with
  | [] => return ()
  | frame :: rest =>
    set { s with redirects := rest }
    restoreAll forget frame

/-- Undoes redirections until so many are left. -/
def unwindRedirects (depth : Nat) : Nat → Sh Unit
  | 0 => return ()
  | fuel + 1 => do
    if depth < (← get).redirects.length then
      popRedirects false
      unwindRedirects depth fuel

/-- Carries redirections out; a failure gives the status 2. -/
def redirectSafely (run : Node → Sh Octets) (ds : List Direction) : Sh Nat := do
  match ← Sh.attempt (redirect run true ds) with
  | .ok () => return 0
  | .error .error => return 2
  | .error e => throw e

/-- Everything that can be read from a descriptor. -/
def readAll (fd : Nat) : Nat → List Octets → Sh Octets
  | 0, acc => return acc.reverse.flatten
  | fuel + 1, acc => do
    match ← Sh.ask (.read fd 65536) with
    | .ok [] => return acc.reverse.flatten
    | .ok chunk => readAll fd fuel (chunk :: acc)
    | .error e =>
      if e = Errno.interrupted then
        Sh.poll
        readAll fd fuel acc
      else return acc.reverse.flatten

/-- Opens a script, out of the way of the descriptors that commands use. -/
def openScript (name : Octets) : Sh Nat := do
  let fd ← openFile name .reading
  match ← Sh.ask (.save fd 10) with
  | .ok moved =>
    let _ ← Sh.ask (.close fd)
    return moved
  | .error _ => return fd

/-- How much of a script is read at a time. -/
def scriptPiece : Nat := 8192

/-- The next piece of a script, empty at its end. -/
def moreScript (fd : Nat) : Nat → Sh Octets
  | 0 => return []
  | fuel + 1 => do
    match ← Sh.ask (.read fd scriptPiece) with
    | .ok piece => return piece
    | .error e =>
      if e = Errno.interrupted then
        Sh.poll
        moreScript fd fuel
      else return []

end AlloyGrade.Shell
