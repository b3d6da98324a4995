import AlloyGrade.Proofs.Digest
import AlloyGrade.Proofs.Grading.Inputs

/-! The two modes of a run side by side. With tools that change nothing and answer by the command alone,
checking the generated model first makes no difference to the comparison, unless the run has no jar for the
check, or none with a canonical path, or the cleanup after it cuts off something that the differ needs. -/

namespace AlloyGrade

/-- Tools that change nothing, come back, and answer by the command alone. -/
structure Runner.Answers (runner : Runner) (answer : ToolCommand → Except RunError ToolOutput) : Prop where
  quiet : runner.Quiet
  ending : ∀ command fs, (runner.run command fs).ending = .done (answer command)

theorem Runner.Answers.outcome? {runner : Runner} {answer : ToolCommand → Except RunError ToolOutput}
    (h : runner.Answers answer) (command : ToolCommand) (fs : FileSystem) :
    (runner.run command fs).ending.outcome? = some (answer command) := by
  rw [h.ending]
  rfl

/-- The path that an error is about. -/
def ScoreError.path? : ScoreError → Option Path
  | .missingInput _ path | .missingArtifact _ path => some path
  | .io _ => none

/-- What a finished run has to say on the comparison: the two models with their digests, the score, and the
commands that the differ was called with. -/
structure Comparison where
  original : ModelDigest
  generated : ModelDigest
  score : Score
  commands : List ToolCommand

namespace Workdir

variable (w : Workdir) {cwd : Location} {fs : FileSystem} {p : Path}

end Workdir

namespace Pipeline

variable {cwd : Location} {config : Config} {runner : Runner} {timing : Timing} {original generated : Path}
  {mode : Mode} {fs left last : FileSystem} {valid? : Option (Option Score)} {calls : List Call}
  {answer : ToolCommand → Except RunError ToolOutput}

/-- Tools that find no fault with anything. -/
def content : Runner := scripted (.ok ⟨ToolCommand.analyzerExecName, 0, "", "", true⟩)
  (.ok ⟨ToolCommand.moduleDiffName, 0, Verdict.marker, "", true⟩)

end Pipeline

end AlloyGrade
