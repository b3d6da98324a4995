import AlloyGrade.Process.Schedule
import AlloyGrade.Process.System
import AlloyGrade.Shell.Start
import AlloyGrade.Utility.Table

/-! A host on which processes run: its programs are the shell, the utilities and the scripts in its files. -/

namespace AlloyGrade

open Process

structure Host where
  /-- The directory that commands without one of their own run in. -/
  cwd : Location
  /-- The environment of every process; the first of several values counts. -/
  environment : List (Bytes × Bytes)

namespace Host

/-! ### Programs -/

def shellNames : List String := ["sh", "dash"]

def programNames : List String := shellNames ++ Utility.table.map (·.1)

/-- What a program of the system does. -/
def boot : Boot := fun name argv environment =>
  match Utility.table.find? fun (n, _) => Bytes.ofString n == name with
  | some (_, u) => Utility.program u argv environment
  | none => Shell.program argv environment

/-! ### Files -/

def location (path : String) : Location := (Path.ofString path).pieces

def directories : List String :=
  ["boot", "dev", "dev/pts", "dev/shm", "etc", "home", "media", "mnt", "opt", "proc", "proc/self", "root", "run", "srv", "sys",
    "tmp", "usr", "usr/bin", "usr/lib", "usr/local", "usr/local/bin", "usr/local/sbin", "usr/sbin", "usr/share", "var", "var/log",
    "var/tmp"]

def devices : List (String × Device) :=
  [("dev/null", .null), ("dev/zero", .zero), ("dev/full", .full), ("dev/tty", .terminal)]

/-- The files every host has. -/
def installed : FileSystem :=
  let programs := programNames.map fun name =>
    (location ("usr/bin/" ++ name), Entry.file (.program (Image.contents (Bytes.ofString name))))
  let links := [("bin", "usr/bin"), ("sbin", "usr/sbin"), ("lib", "usr/lib")]
  ⟨programs ++ directories.map (fun d => (location d, Entry.dir)) ++
    links.map (fun (name, target) => (location name, Entry.link (.ofString target))) ++
    devices.map fun (name, d) => (location name, Entry.device d)⟩

/-! ### Commands -/

/-- The value that counts for each variable. -/
def settings (host : Host) : List (Bytes × Bytes) :=
  host.environment.foldl (fun known (name, value) =>
    if (known.lookup name).isSome then known else known ++ [(name, value)]) []

def environmentTexts (host : Host) : List Bytes := host.settings.map fun (name, value) => name ++ 0x3d :: value

def searchPath (host : Host) : List Path :=
  let dirs := (host.environment.lookup (Bytes.ofString "PATH")).getD (Bytes.ofString "/bin:/usr/bin")
  (Bytes.splitOn 0x3a dirs).map Path.mk

/-- The directory a command runs in. -/
def directory (host : Host) (command : ToolCommand) (fs : FileSystem) : Except IoError Location :=
  match command.currentDir with
  | none => .ok host.cwd
  | some dir =>
    match fs.stat host.cwd dir with
    | .error e => .error e
    | .ok (loc, .dir) => .ok loc
    | .ok _ => .error .notDirectory

/-- The last change to a file, among those made since the host came up and within its first year. -/
def lastChange (fs : FileSystem) : Int :=
  fs.entries.foldl (fun latest (_, entry) => match entry with
    | .file f => if f.modified < Regular.dawn + 31536000000000000 then max latest f.modified else latest
    | _ => latest) Regular.dawn

/-- The number of the first process. -/
def firstPid : Nat := 4242

/-- The world when a program starts as the first process: nothing to read, two streams to write to. -/
def world (program : Program) (cwd : Location) (fs : FileSystem) : World :=
  let task : Task := {
    pid := firstPid
    parent := firstPid - 1
    program
    descriptors := [(0, ⟨0, true⟩), (1, ⟨1, true⟩), (2, ⟨2, true⟩)]
    cwd
    umask := 0o022
    arrangements := []
    caught := []
    wakes := none
    opening := none
    stopped := false
    death := none }
  { fs
    orphans := []
    start := lastChange fs
    clock := 0
    files := [(0, ⟨.device .null, 0, .reading⟩), (1, ⟨.collected 0, 0, .writing⟩), (2, ⟨.collected 1, 0, .writing⟩)]
    pipes := []
    tasks := [task]
    collected := [(0, []), (1, [])]
    fresh := firstPid + 1 }

/-- The world when the first process of a command starts. -/
def start (host : Host) (command : ToolCommand) (fs : FileSystem) : Except IoError World := do
  let texts := command.program :: command.args ++ (command.currentDir.map Path.bytes).toList
  if texts.any (·.contains 0) then throw .nulInData
  let dir ← host.directory command fs
  let environment := host.environmentTexts
  let (name, argv) ← fs.locate dir host.searchPath (command.program :: command.args) environment
  return world (boot name (argv.map Octets.ofBytes) (environment.map Octets.ofBytes)) dir fs

/-- Runs a command to its end, or to the end of its time in microseconds. -/
def run (host : Host) (limit : Nat) (command : ToolCommand) (fs : FileSystem) : Except IoError (World × Bool) := do
  let w ← host.start command fs
  return w.run boot firstPid limit (3 * World.effort) 0 0 0

/-- What the first process has come to. -/
def verdict (w : World) : Reply :=
  let finished (status : ExitStatus) : Reply :=
    .finished status (Octets.toBytes (w.collectedOctets 0)) (Octets.toBytes (w.collectedOctets 1)) (w.clock / 1000)
  match (w.tasks.find? (·.pid == firstPid)).bind Task.death with
  | some (.exited code) => finished (.exited code)
  | some (.signaled s) | some (.stopped s) => finished (.signaled s)
  | none => .running

/-- Processes run until their limit. -/
def system (host : Host) : System where
  respond command fs :=
    match host.run (1000000 * command.limit.toNat) command fs with
    | .error e => (.refused e, fs)
    | .ok (w, ended) => (if ended then verdict w else .running, w.fs)

/-- Time is up as soon as a process waits, and no process is seen to finish. -/
def expiring (host : Host) : System where
  respond command fs :=
    match host.run 0 command fs with
    | .error e => (.refused e, fs)
    | .ok (w, _) => (.running, w.fs)

end Host

end AlloyGrade
