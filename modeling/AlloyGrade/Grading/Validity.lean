import AlloyGrade.Grading.Runner
import AlloyGrade.Report
import AlloyGrade.Workdir

/-! Scoring whether a model is accepted by the analyzer. The analyzer runs in the workdir, so the jar and
the model are handed to it as absolute paths. -/

namespace AlloyGrade.Validity

/-- Reads the analyzer's answer; one that did not complete counts as invalid. -/
def judge : Except RunError ToolOutput → Bool × Event
  | .ok output => (output.passed, .analyzerFinished output.exitCode output.stdout output.stderr)
  | .error e => (false, .analyzerIncomplete e)

/-- The part of a check during which the scratch directories may exist. -/
def analyze (runner : Runner) (command : ToolCommand) : Grading Score := do
  let outcome ← runner.invoke command
  let (valid, event) := judge outcome
  Grading.emit event
  Grading.emit (.validityKnown valid)
  return .ofPassed valid

/-- A model that cannot be resolved scores nothing, and no tool is launched for it. -/
def check (cwd : Location) (config : Config) (runner : Runner) (model : Path) : Grading Score := do
  let jar ← Grading.ofExcept (← Grading.inspect (config.artifacts.requireAnalyzerJar cwd))
  match ← Grading.inspect (·.canonicalize cwd model) with
  | .error e =>
    Grading.emit (.modelUnresolved model e)
    return .ofPassed false
  | .ok model =>
    match ← Grading.inspect (·.canonicalize cwd jar) with
    | .error e => Grading.ofExcept (.error (.io e))
    | .ok jar =>
      let workdir : Workdir := ⟨config.workdir⟩
      Grading.emit (.checkingValidity model workdir.root)
      Grading.guarded (workdir.cleanScratch cwd)
        (analyze runner (.analyzerExec config jar model workdir.root))

end AlloyGrade.Validity
