import AlloyGrade.Grading.Equivalence
import AlloyGrade.Grading.Validity

/-! The bit that a scoring call takes from a tool's answer. The analyzer accepts a model by its exit status
alone, the differ declares two models equivalent by its words alone. A tool that gave no output has neither
accepted nor declared anything. -/

namespace AlloyGrade

theorem occursIn_iff_isInfix {α : Type} [BEq α] [LawfulBEq α] (needle text : List α) :
    occursIn needle text = true ↔ needle <:+: text := by
  induction text with
  | nil => simp [occursIn]
  | cons a rest ih => rw [occursIn, Bool.or_eq_true, List.isPrefixOf_iff_prefix, ih, List.infix_cons_iff]

/-- The analyzer came back with success and exit status zero. -/
def Validity.Accepted : Except RunError ToolOutput → Prop
  | .ok output => output.success = true ∧ output.exitCode = 0
  | .error _ => False

/-- The differ came back, and its sentence stands somewhere in what it wrote. -/
def Equivalence.Declared : Except RunError ToolOutput → Prop
  | .ok output => Verdict.marker.toList <:+: (output.stdout ++ output.stderr).toList
  | .error _ => False

theorem Validity.judge_fst_iff (outcome : Except RunError ToolOutput) :
    (judge outcome).1 = true ↔ Accepted outcome := by
  cases outcome with
  | ok output => simp [judge, Accepted, ToolOutput.passed, Verdict.isValidExit]
  | error e => simp [judge, Accepted]

theorem Equivalence.judge_fst_iff (outcome : Except RunError ToolOutput) :
    (judge outcome).1 = true ↔ Declared outcome := by
  cases outcome with
  | ok output => exact occursIn_iff_isInfix _ _
  | error e => simp [judge, Declared]

/-- A score of one point out of one if something is so, and of no point out of one otherwise. -/
def Score.Marks (s : Score) (p : Prop) : Prop := (p → s = ⟨1, 1⟩) ∧ (¬p → s = ⟨0, 1⟩)

theorem Score.marks_ofPassed {passed : Bool} {p : Prop} (h : passed = true ↔ p) : (ofPassed passed).Marks p := by
  cases passed with
  | false => exact ⟨fun hp => absurd (h.mpr hp) Bool.false_ne_true, fun _ => rfl⟩
  | true => exact ⟨fun _ => rfl, fun hp => absurd (h.mp rfl) hp⟩

end AlloyGrade
