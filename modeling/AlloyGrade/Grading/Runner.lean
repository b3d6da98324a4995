import AlloyGrade.Grading.Trace

/-! Whatever runs tools on behalf of a scoring call. It may change the file system, and it may fail to
come back. -/

namespace AlloyGrade

inductive RunEnding where
  | done (outcome : Except RunError ToolOutput)
  | panic (message : String)
  /-- Never finishes; the caller gives up on the whole scoring call. -/
  | pending

structure RunResult where
  ending : RunEnding
  fs : FileSystem
  events : List Event

structure Runner where
  run : ToolCommand → FileSystem → RunResult

namespace Runner

/-- Calls a tool within a scoring call. -/
def invoke (runner : Runner) (command : ToolCommand) : Grading (Except RunError ToolOutput) := fun t =>
  let result := runner.run command t.fs
  let after (outcome : Option (Except RunError ToolOutput)) : Trace :=
    ⟨result.fs, t.events ++ result.events, t.calls ++ [⟨command, t.fs, outcome⟩]⟩
  match result.ending with
  | .done outcome => (.value outcome, after (some outcome))
  | .panic message => (.panic message, after none)
  | .pending => (.cancelled, after none)

end Runner

end AlloyGrade
