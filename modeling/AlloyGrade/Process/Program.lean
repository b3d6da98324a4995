import AlloyGrade.Files.Change
import AlloyGrade.Process.Signal

/-! Programs as trees. A program ends, or asks the system for something and goes on with the answer, or starts a
child. Nothing runs by itself: the kernel walks such a tree and answers each request. -/

namespace AlloyGrade.Process

abbrev Errno := Nat

namespace Errno

def noEntry : Errno := 2
def noProcess : Errno := 3
def interrupted : Errno := 4
def badDescriptor : Errno := 9
def noChild : Errno := 10
def accessDenied : Errno := 13
def alreadyExists : Errno := 17
def isDirectory : Errno := 21
def invalid : Errno := 22
def noSpace : Errno := 28
def illegalSeek : Errno := 29
def brokenPipe : Errno := 32

def ofError : IoError → Errno
  | .os code => code
  | _ => invalid

def text (e : Errno) : String := IoError.systemText e

end Errno

/-- What to do with a file that is opened. -/
structure Opening where
  readable : Bool
  writable : Bool
  append : Bool
  create : Bool
  exclusive : Bool
  truncate : Bool
deriving DecidableEq, Repr

namespace Opening

def reading : Opening := ⟨true, false, false, false, false, false⟩
def writing : Opening := ⟨false, true, false, true, false, true⟩
def appending : Opening := ⟨false, true, true, true, false, false⟩
def fresh : Opening := ⟨false, true, false, true, true, false⟩
def both : Opening := ⟨true, true, false, true, false, false⟩
def present : Opening := ⟨false, true, false, false, false, false⟩

end Opening

/-- What a process has arranged for a signal. -/
inductive Arrangement where
  | default
  | ignore
  | catch_
deriving DecidableEq, Repr

inductive Death where
  | exited (code : Nat)
  | signaled (signal : Signal)
  | stopped (signal : Signal)
deriving DecidableEq, Repr

/-- What became of a call to wait for a child. -/
inductive Awaited where
  | ended (pid : Nat) (death : Death)
  | none_
  /-- There is a child, but it still runs. -/
  | still
  | interrupted
deriving DecidableEq, Repr

/-- What a descriptor leads to. -/
inductive Handle where
  | entry (loc : Location) (entry : Entry)
  | pipe
  | closed
deriving DecidableEq, Repr

/-- Where a position in a file is counted from. -/
inductive Origin where
  | start
  | here
  | stop
deriving DecidableEq, Repr

/-- What a process can see without changing anything. -/
structure View where
  fs : FileSystem
  cwd : Location
  umask : Nat
  pid : Nat
  parent : Nat
  /-- Microseconds since the first process started. -/
  clock : Nat
  /-- The time, in nanoseconds since the beginning of 1970. -/
  now : Int
  /-- The open descriptors, in order. -/
  handles : List (Nat × Handle)

inductive Request where
  /-- Nothing but a step. -/
  | step
  | view
  | open_ (path : Path) (how : Opening) (mode : Nat)
  | close (fd : Nat)
  | duplicate (fd target : Nat)
  /-- Duplicates onto a free descriptor from `least` on, which does not survive into another program. -/
  | save (fd least : Nat)
  | pipe
  | read (fd size : Nat)
  | write (fd : Nat) (cs : Octets)
  | seek (fd : Nat) (offset : Int) (origin : Origin)
  /-- Changes the file system, seen from the directory of the process. -/
  | edit (change : Location → FileSystem → FileSystem.Change)
  | rename (source target : Path)
  | chdir (path : Path)
  | setUmask (mask : Nat)
  | exec (path : Path) (argv : List Octets) (environment : List Octets)
  | wait (pid : Option Nat) (block : Bool)
  | kill (pid : Int) (signal : Signal)
  | arrange (signal : Signal) (arrangement : Arrangement)
  | arrangement (signal : Signal)
  /-- The caught signals that have come in since the last time. -/
  | caught
  | sleep (microseconds : Nat)

namespace Request

/-- What each request is answered with; a sleep, with whether the time has passed undisturbed. -/
def Answer : Request → Type
  | .step => Unit
  | .view => View
  | .open_ .. => Except Errno Nat
  | .close _ => Except Errno Unit
  | .duplicate .. => Except Errno Unit
  | .save .. => Except Errno Nat
  | .pipe => Nat × Nat
  | .read .. => Except Errno Octets
  | .write .. => Except Errno Unit
  | .seek .. => Except Errno Nat
  | .edit _ => Except Errno Unit
  | .rename .. => Except Errno Unit
  | .chdir _ => Except Errno Unit
  | .setUmask _ => Unit
  | .exec .. => Errno
  | .wait .. => Awaited
  | .kill .. => Except Errno Unit
  | .arrange .. => Unit
  | .arrangement _ => Arrangement
  | .caught => List Signal
  | .sleep _ => Bool

end Request

inductive Program where
  | exit (code : Nat)
  | ask (request : Request) (next : request.Answer → Program)
  | fork (child : Program) (next : Nat → Program)

/-! ### Programs in direct style -/

/-- A part of a program that hands on a result. -/
def Act (α : Type) := (α → Program) → Program

namespace Act

instance : Monad Act where
  pure a := fun k => k a
  bind m f := fun k => m fun a => f a k

def ask (request : Request) : Act request.Answer := fun k => .ask request k

def exit {α : Type} (code : Nat) : Act α := fun _ => .exit code

def fork (child : Program) : Act Nat := fun k => .fork child k

end Act

end AlloyGrade.Process
