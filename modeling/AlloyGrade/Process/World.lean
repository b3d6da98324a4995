import AlloyGrade.Process.Image

/-! What the kernel keeps: open files, pipes, and the tasks that run programs. -/

namespace AlloyGrade.Process

/-- Where an open file leads. -/
inductive Stream where
  | file (loc : Location)
  /-- A file that has lost its last name, by its number. -/
  | orphan (serial : Nat)
  | dir (loc : Location)
  | device (d : Device)
  | reader (pipe : Nat)
  | writer (pipe : Nat)
  | channel (pipe : Nat)
  /-- One of the streams that are collected for whoever started the first program. -/
  | collected (index : Nat)
deriving DecidableEq, Repr

structure OpenFile where
  stream : Stream
  position : Nat
  how : Opening
deriving DecidableEq, Repr

structure Descriptor where
  file : Nat
  /-- It stays open in the program that takes over. -/
  survives : Bool
deriving DecidableEq, Repr

/-- What has been written and not yet read: the octets to be read next, and the rest, last first. -/
structure Pipe where
  front : Octets
  back : List Octets
  size : Nat
  /-- The name of the pipe, if it has one. -/
  place : Option Location
  /-- How often it was opened for reading and for writing. -/
  readers : Nat
  writers : Nat
deriving DecidableEq, Repr

namespace Pipe

def empty (place : Option Location) : Pipe := ⟨[], [], 0, place, 0, 0⟩

/-- How much a pipe holds before its writers have to wait. -/
def capacity : Nat := 65536

def push (p : Pipe) (cs : Octets) : Pipe := { p with back := cs :: p.back, size := p.size + cs.length }

/-- Takes at most `size` octets out. -/
def take (p : Pipe) (size : Nat) : Octets × Pipe :=
  let all := if p.front.isEmpty then p.back.reverse.flatten else p.front
  let back := if p.front.isEmpty then [] else p.back
  let got := all.take size
  (got, { p with front := all.drop size, back, size := p.size - got.length })

end Pipe

structure Task where
  pid : Nat
  parent : Nat
  program : Program
  descriptors : List (Nat × Descriptor)
  cwd : Location
  umask : Nat
  arrangements : List (Signal × Arrangement)
  caught : List Signal
  /-- When a sleeper wakes up. -/
  wakes : Option Nat
  /-- A pipe that is being opened, and how often it had been opened at the other end. -/
  opening : Option (Nat × Nat)
  stopped : Bool
  death : Option Death

structure World where
  fs : FileSystem
  /-- The files without a name that somebody has open, by their numbers. -/
  orphans : List (Nat × Regular)
  /-- When the first process started, in nanoseconds since the beginning of 1970. -/
  start : Int
  /-- Microseconds since then. -/
  clock : Nat
  files : List (Nat × OpenFile)
  pipes : List (Nat × Pipe)
  /-- The task whose turn it is comes first. -/
  tasks : List Task
  /-- What was written to the collected streams, last first. -/
  collected : List (Nat × List Octets)
  fresh : Nat

namespace Task

def isAlive (t : Task) : Bool := t.death.isNone

def arrangement (t : Task) (s : Signal) : Arrangement := (t.arrangements.lookup s).getD .default

def descriptor? (t : Task) (fd : Nat) : Option Nat := (t.descriptors.lookup fd).map (·.file)

def setDescriptor (t : Task) (fd : Nat) (d : Descriptor) : Task :=
  { t with descriptors := (fd, d) :: t.descriptors.filter (·.1 != fd) }

/-- The lowest descriptor from `least` on that is free. -/
def freeDescriptor (t : Task) (least : Nat) : Nat :=
  ((t.descriptors.map (·.1)).mergeSort (· ≤ ·)).foldl (fun free fd => if fd = free then free + 1 else free) least

/-- Whether the task keeps an open file alive. -/
def holds (t : Task) (file : Nat) : Bool :=
  t.isAlive && (t.descriptors.any (·.2.file == file) || t.opening.any (·.1 == file))

end Task

namespace World

/-- Lets the time pass that it takes to move octets. -/
def charge (w : World) (octets : Nat) : World := { w with clock := w.clock + octets / 64 }

/-- The time, in nanoseconds since the beginning of 1970. -/
def now (w : World) : Int := w.start + 1000 * (w.clock : Int)

def file? (w : World) (file : Nat) : Option OpenFile := w.files.lookup file

def setFile (w : World) (id : Nat) (f : OpenFile) : World :=
  { w with files := (id, f) :: w.files.filter (·.1 != id) }

def addFile (w : World) (f : OpenFile) : Nat × World :=
  (w.fresh, { w with files := (w.fresh, f) :: w.files, fresh := w.fresh + 1 })

def pipe? (w : World) (id : Nat) : Option Pipe := w.pipes.lookup id

def setPipe (w : World) (id : Nat) (p : Pipe) : World :=
  { w with pipes := (id, p) :: w.pipes.filter (·.1 != id) }

def addPipe (w : World) (place : Option Location) : Nat × World :=
  (w.fresh, { w with pipes := (w.fresh, .empty place) :: w.pipes, fresh := w.fresh + 1 })

/-- Forgets the files that no task has open any more, and the pipes without an end. -/
def sweep (w : World) : World :=
  let files := w.files.filter fun (id, _) => w.tasks.any (·.holds id)
  let pipes := w.pipes.filter fun (id, _) => files.any fun (_, f) =>
    f.stream = .reader id || f.stream = .writer id || f.stream = .channel id
  let orphans := w.orphans.filter fun (serial, _) => files.any fun (_, f) => f.stream = .orphan serial
  { w with files, pipes, orphans }

/-- Whether some task can still read from a pipe. -/
def hasReader (w : World) (pipe : Nat) : Bool :=
  w.files.any fun (_, f) => f.stream = .reader pipe || f.stream = .channel pipe

/-- Whether some task can still write to a pipe. -/
def hasWriter (w : World) (pipe : Nat) : Bool :=
  w.files.any fun (_, f) => f.stream = .writer pipe || f.stream = .channel pipe

def collect (w : World) (index : Nat) (cs : Octets) : World :=
  { w with collected := w.collected.map fun (n, chunks) => if n = index then (n, cs :: chunks) else (n, chunks) }

/-- Everything that was written to a collected stream. -/
def collectedOctets (w : World) (index : Nat) : Octets := ((w.collected.lookup index).getD []).reverse.flatten

end World

end AlloyGrade.Process
