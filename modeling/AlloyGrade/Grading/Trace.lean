import AlloyGrade.Files.Basic
import AlloyGrade.Log.Event
import AlloyGrade.ScoreError

/-! Scoring calls as functions on what they have done so far: the file system they leave, the events
they report and the tools they call. A call ends with a value or an error, or it is torn down because a
tool's runner blew up or never came back. -/

namespace AlloyGrade

/-- A tool that was called, the file system it was called in, and what came of it if anything did. -/
structure Call where
  command : ToolCommand
  before : FileSystem
  outcome : Option (Except RunError ToolOutput)

structure Trace where
  fs : FileSystem
  events : List Event
  calls : List Call

namespace Trace

def start (fs : FileSystem) : Trace := ⟨fs, [], []⟩

def record (t : Trace) (events : List Event) : Trace := { t with events := t.events ++ events }

end Trace

/-- How a scoring call ends. -/
inductive Ending (α : Type) where
  | value (a : α)
  | error (e : ScoreError)
  | panic (message : String)
  | cancelled
deriving DecidableEq, Repr

def Grading (α : Type) := Trace → Ending α × Trace

namespace Grading

variable {α β : Type}

instance : Monad Grading where
  pure a := fun t => (.value a, t)
  bind m f := fun t =>
    match m t with
    | (.value a, t) => f a t
    | (.error e, t) => (.error e, t)
    | (.panic message, t) => (.panic message, t)
    | (.cancelled, t) => (.cancelled, t)

theorem pure_run (a : α) (t : Trace) : (pure a : Grading α) t = (.value a, t) := rfl

theorem bind_run (m : Grading α) (f : α → Grading β) (t : Trace) :
    (m >>= f) t = match m t with
      | (.value a, t) => f a t
      | (.error e, t) => (.error e, t)
      | (.panic message, t) => (.panic message, t)
      | (.cancelled, t) => (.cancelled, t) := rfl

def emit (e : Event) : Grading Unit := fun t => (.value (), t.record [e])

/-- Looks at the file system. -/
def inspect (f : FileSystem → α) : Grading α := fun t => (.value (f t.fs), t)

def ofExcept : Except ScoreError α → Grading α
  | .ok a => fun t => (.value a, t)
  | .error e => fun t => (.error e, t)

/-- Looks at the file system and reports events. -/
def observe (f : FileSystem → α × List Event) : Grading α := fun t =>
  let (a, events) := f t.fs
  (.value a, t.record events)

/-- Cleans up after `m`, however `m` ends. -/
def guarded (cleanup : FileSystem → FileSystem × List Event) (m : Grading α) : Grading α := fun t =>
  let (ending, t) := m t
  let (fs, events) := cleanup t.fs
  (ending, { t with fs, events := t.events ++ events })

end Grading

end AlloyGrade
