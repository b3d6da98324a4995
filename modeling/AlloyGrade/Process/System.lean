import AlloyGrade.Grading.Runner
import AlloyGrade.Text.Utf8

/-! Running tools as processes. The system decides what becomes of a process; the runner turns its answer
into output or an error, and decodes the captured streams. -/

namespace AlloyGrade

inductive ExitStatus where
  | exited (code : Nat)
  | signaled (signal : Nat)
deriving DecidableEq, Repr

namespace ExitStatus

/-- The exit code, -1 for a death by signal. -/
def code : ExitStatus → Int
  | .exited code => code
  | .signaled _ => -1

def success : ExitStatus → Bool
  | .exited code => code == 0
  | .signaled _ => false

end ExitStatus

/-- What the system answers when it is asked to run a command within its limit. -/
inductive Reply where
  /-- The process could not be started, or its output could not be collected. -/
  | refused (error : IoError)
  /-- The process has not finished at its limit, and is killed. -/
  | running
  | finished (status : ExitStatus) (stdout stderr : Bytes) (durationMs : Nat)
deriving DecidableEq, Repr

structure System where
  respond : ToolCommand → FileSystem → Reply × FileSystem

namespace System

/-- The captured result of a process. -/
def output (command : ToolCommand) (status : ExitStatus) (stdout stderr : Bytes) : ToolOutput :=
  ⟨command.name, status.code, Utf8.lossy stdout, Utf8.lossy stderr, status.success⟩

/-- Runs a command that has a program. -/
def launch (system : System) (command : ToolCommand) (fs : FileSystem) : RunResult :=
  let launching := Event.launching command.name command.commandLine
  match system.respond command fs with
  | (.refused e, left) => ⟨.done (.error (.spawn command.name e)), left, [launching]⟩
  | (.running, left) => ⟨.done (.error (.timeout command.name command.limit.toNat)), left, [launching]⟩
  | (.finished status stdout stderr durationMs, left) =>
    ⟨.done (.ok (output command status stdout stderr)), left,
      [launching, .exited command.name status.code durationMs]⟩

/-- The runner that starts every tool as a process. -/
def runner (system : System) : Runner where
  run command fs :=
    if command.program.isEmpty then ⟨.done (.error (.emptyCommand command.name)), fs, []⟩
    else system.launch command fs

end System

end AlloyGrade
