import AlloyGrade.Proofs.Files.Canonical
import AlloyGrade.Proofs.Grading.Course

/-! Which scoring runs end in an error. A run is refused, before any tool is called, exactly if one of its
first checks fails. A run that is not refused calls a tool, and then fails exactly if one of the things the
differ needs is missing in what the first half of the run has left. Whatever the tools answer is never the
reason. -/

namespace AlloyGrade

/-- A runner that always comes back, with an output or with an error. -/
def Runner.Returns (runner : Runner) : Prop := ∀ command fs, ∃ outcome, (runner.run command fs).ending = .done outcome

theorem Runner.Returns.outcome? {runner : Runner} (h : runner.Returns) (command : ToolCommand) (fs : FileSystem) :
    ∃ outcome, (runner.run command fs).ending.outcome? = some outcome := by
  obtain ⟨outcome, ho⟩ := h command fs
  exact ⟨outcome, by rw [ho]; rfl⟩

namespace Pipeline

variable {cwd : Location} {config : Config} {runner : Runner} {timing : Timing} {original generated : Path}
  {mode : Mode} {fs left : FileSystem} {valid? : Option (Option Score)} {calls : List Call}

theorem FirstHalf.ne_none (h : FirstHalf cwd config runner generated fs mode valid? left calls)
    (hr : runner.Returns) : valid? ≠ none := by
  cases h with
  | skipped | unresolved => simp
  | asked hjar hpath hcommand hanswer hvalid hleft =>
    obtain ⟨outcome, ho⟩ := hr.outcome? _ fs
    rw [hvalid, hanswer, ho]
    simp

namespace Course

variable {ending : Ending Report} {last : FileSystem}

theorem not_torn (hc : Course cwd config runner timing original generated fs mode ending last calls)
    (hr : runner.Returns) : ¬ending.Torn := by
  cases hc with
  | refused h | failed h => exact fun torn => torn.2 _ rfl
  | tornEarly h first torn => exact absurd rfl (first.ne_none hr)
  | tornLate h first hagain hcommand hanswer houtcome torn =>
    obtain ⟨outcome, ho⟩ := hr.outcome? _ _
    rw [hanswer, ho] at houtcome
    cases houtcome
  | finished h => exact fun torn => torn.1 _ rfl

variable (hf : fault? cwd config original generated mode fs = none)
include hf

end Course

end Pipeline

end AlloyGrade
