import AlloyGrade.Grading.Runner
import AlloyGrade.Report

/-! Scoring whether two models are equivalent, by the word of the module differ. -/

namespace AlloyGrade.Equivalence

/-- The differ's jar, once it and both models are known to be there. -/
def preflight (cwd : Location) (config : Config) (original generated : Path) (fs : FileSystem) :
    Except ScoreError Path := do
  let jar ← config.artifacts.requireDiffJar cwd fs
  requireInput cwd fs "Original" original
  requireInput cwd fs "Generated" generated
  return jar

/-- Reads the differ's answer; one that did not complete counts as not equivalent. -/
def judge : Except RunError ToolOutput → Bool × Event
  | .ok output => (Verdict.reportsEquivalence output.combined, .differFinished output.exitCode output.combined)
  | .error e => (false, .differIncomplete e)

def score (cwd : Location) (config : Config) (runner : Runner) (original generated : Path) : Grading Score := do
  let jar ← Grading.ofExcept (← Grading.inspect (preflight cwd config original generated))
  Grading.emit (.checkingEquivalence original generated config.scope config.solver)
  let outcome ← runner.invoke (.moduleDiff config jar original generated)
  let (equivalent, event) := judge outcome
  Grading.emit event
  Grading.emit (.equivalenceKnown equivalent)
  return .ofPassed equivalent

end AlloyGrade.Equivalence
