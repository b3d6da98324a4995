import AlloyGrade.Grading.Equivalence
import AlloyGrade.Grading.Validity
import AlloyGrade.Report

/-! A whole scoring run. Everything the differ needs is checked before the first tool starts, and again
before the differ itself, since the analyzer may have changed the file system. -/

namespace AlloyGrade

/-- When a run began, and how long it took. -/
structure Timing where
  startedAt : Instant
  durationMs : UInt64

namespace Pipeline

/-- The score of the generated model on its own, if the mode asks for it. -/
def validity (cwd : Location) (config : Config) (runner : Runner) (generated : Path) : Mode → Grading (Option Score)
  | .combined => do return some (← Validity.check cwd config runner generated)
  | .equivalenceOnly => return none

def run (cwd : Location) (config : Config) (runner : Runner) (timing : Timing) (original generated : Path)
    (mode : Mode) : Grading Report := do
  Grading.emit (.runStarted mode)
  let _ ← Grading.ofExcept (← Grading.inspect (Equivalence.preflight cwd config original generated))
  let validity ← validity cwd config runner generated mode
  let equivalence ← Equivalence.score cwd config runner original generated
  let originalDigest ← Grading.observe (ModelDigest.ofFile cwd · original)
  let generatedDigest ← Grading.observe (ModelDigest.ofFile cwd · generated)
  Grading.emit (.runComplete (validity.map Score.passed) equivalence.passed timing.durationMs.toNat)
  return ⟨originalDigest, generatedDigest, validity, equivalence, timing.startedAt, timing.durationMs⟩

end Pipeline

end AlloyGrade
