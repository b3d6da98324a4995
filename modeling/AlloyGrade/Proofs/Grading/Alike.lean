import AlloyGrade.Proofs.Grading.Course
import AlloyGrade.Proofs.Verdict

/-! Runs that cannot be told apart. Two runners that change the file system in the same way, and whose
answers agree on the one bit that each score is about, give the same scores: nothing else of an answer
reaches the result, the commands or the file system. Scoring calls are related step by step, and what they
report on the way may differ. -/

namespace AlloyGrade

/-- Two endings of one kind, with related values. -/
inductive Ending.Alike {α : Type} (R : α → α → Prop) : Ending α → Ending α → Prop
  | value {a b : α} (h : R a b) : Alike R (.value a) (.value b)
  | error (e : ScoreError) : Alike R (.error e) (.error e)
  | panic (message : String) : Alike R (.panic message) (.panic message)
  | cancelled : Alike R .cancelled .cancelled

/-- Two answers that agree on a bit, if they are answers at all. -/
inductive RunEnding.Alike (bit : Except RunError ToolOutput → Prop) : RunEnding → RunEnding → Prop
  | done {outcome outcome' : Except RunError ToolOutput} (h : bit outcome ↔ bit outcome') :
      Alike bit (.done outcome) (.done outcome')
  | panic (message : String) : Alike bit (.panic message) (.panic message)
  | pending : Alike bit .pending .pending

/-- Of an answer only the bit reaches the score. -/
theorem RunEnding.Alike.scored {bit : Except RunError ToolOutput → Prop}
    {judge : Except RunError ToolOutput → Bool × Event} (hbit : ∀ outcome, (judge outcome).1 = true ↔ bit outcome)
    {a b : RunEnding} (h : a.Alike bit b) : (a.scored judge).Alike Eq (b.scored judge) := by
  cases h with
  | done h =>
    have hsame : (judge _).1 = (judge _).1 := Bool.eq_iff_iff.mpr ((hbit _).trans (h.trans (hbit _).symm))
    exact .value (congrArg Score.ofPassed hsame)
  | panic message => exact .panic message
  | pending => exact .cancelled

/-- Two traces with the same file system and the same commands. -/
structure Trace.Alike (s t : Trace) : Prop where
  fs : s.fs = t.fs
  commands : s.calls.map Call.command = t.calls.map Call.command

/-- Two runners that do the same to the file system, and of which the analyzer accepts and the differ
declares the same. -/
structure Runner.Alike (r s : Runner) : Prop where
  fs : ∀ command fs, (r.run command fs).fs = (s.run command fs).fs
  analyzer : ∀ command fs, command.name = ToolCommand.analyzerExecName →
    (r.run command fs).ending.Alike Validity.Accepted (s.run command fs).ending
  differ : ∀ command fs, command.name = ToolCommand.moduleDiffName →
    (r.run command fs).ending.Alike Equivalence.Declared (s.run command fs).ending

namespace Trace

theorem Alike.refl (t : Trace) : t.Alike t := ⟨rfl, rfl⟩

theorem Alike.record {s t : Trace} (h : s.Alike t) (events events' : List Event) :
    (s.record events).Alike (t.record events') := ⟨h.fs, h.commands⟩

end Trace

namespace Grading

variable {α β : Type} {R : α → α → Prop} {S : β → β → Prop}

/-- Two scoring calls that, from traces that are alike, end alike with traces that are alike. -/
def Alike (R : α → α → Prop) (m n : Grading α) : Prop :=
  ∀ s t, s.Alike t → (m s).1.Alike R (n t).1 ∧ (m s).2.Alike (n t).2

namespace Alike

theorem pure {a b : α} (h : R a b) : Alike R (Pure.pure a) (Pure.pure b) :=
  fun _ _ hst => ⟨.value h, hst⟩

theorem bind {m n : Grading α} {f g : α → Grading β} (h : Alike R m n)
    (hf : ∀ a b, R a b → Alike S (f a) (g b)) : Alike S (m >>= f) (n >>= g) := by
  intro s t hst
  obtain ⟨hend, htrace⟩ := h s t hst
  rw [bind_run, bind_run]
  rcases hm : m s with ⟨ending, s'⟩
  rcases hn : n t with ⟨ending', t'⟩
  rw [hm, hn] at hend htrace
  cases hend with
  | value hab => exact hf _ _ hab s' t' htrace
  | error e => exact ⟨.error e, htrace⟩
  | panic message => exact ⟨.panic message, htrace⟩
  | cancelled => exact ⟨.cancelled, htrace⟩

theorem emit (e e' : Event) : Alike Eq (emit e) (emit e') :=
  fun _ _ hst => ⟨.value rfl, hst.record _ _⟩

theorem inspect (f : FileSystem → α) : Alike Eq (inspect f) (inspect f) :=
  fun _ _ hst => ⟨.value (congrArg f hst.fs), hst⟩

theorem observe (f : FileSystem → α × List Event) : Alike Eq (observe f) (observe f) :=
  fun _ _ hst => ⟨.value (congrArg (fun fs => (f fs).1) hst.fs), hst.record _ _⟩

theorem ofExcept (x : Except ScoreError α) : Alike Eq (ofExcept x) (ofExcept x) := by
  intro s t hst
  cases x with
  | ok a => exact ⟨.value rfl, hst⟩
  | error e => exact ⟨.error e, hst⟩

theorem guarded {m n : Grading α} (cleanup : FileSystem → FileSystem × List Event) (h : Alike R m n) :
    Alike R (guarded cleanup m) (guarded cleanup n) := by
  intro s t hst
  obtain ⟨hend, htrace⟩ := h s t hst
  exact ⟨hend, congrArg (fun fs => (cleanup fs).1) htrace.fs, htrace.commands⟩

theorem ask {r s : Runner} {judge : Except RunError ToolOutput → Bool × Event} {known : Bool → Event}
    {bit : Except RunError ToolOutput → Prop} {command : ToolCommand}
    (hbit : ∀ outcome, (judge outcome).1 = true ↔ bit outcome)
    (hfs : ∀ fs, (r.run command fs).fs = (s.run command fs).fs)
    (hend : ∀ fs, (r.run command fs).ending.Alike bit (s.run command fs).ending) :
    Alike Eq (ask r judge known command) (ask s judge known command) := by
  intro t u htu
  rw [ask_apply, ask_apply, htu.fs]
  exact ⟨(hend u.fs).scored hbit, hfs u.fs, by simp [htu.commands]⟩

end Alike

end Grading

/-! ### Scoring calls with runners that are alike -/

section Runners

variable {r s : Runner} (h : r.Alike s) (cwd : Location) (config : Config)
include h

theorem Validity.check_alike (model : Path) :
    Grading.Alike Eq (check cwd config r model) (check cwd config s model) := by
  refine .bind (.inspect _) ?_
  rintro jar? _ rfl
  refine .bind (.ofExcept jar?) ?_
  rintro jar _ rfl
  refine .bind (.inspect _) ?_
  rintro model? _ rfl
  cases model? with
  | error e => exact .bind (.emit _ _) fun _ _ _ => .pure rfl
  | ok model =>
    refine .bind (.inspect _) ?_
    rintro jar? _ rfl
    cases jar? with
    | error e => exact .ofExcept _
    | ok jar =>
      refine .bind (.emit _ _) fun _ _ _ => .guarded _ ?_
      exact .ask judge_fst_iff (h.fs _) fun fs => h.analyzer _ fs rfl

theorem Equivalence.score_alike (original generated : Path) :
    Grading.Alike Eq (score cwd config r original generated) (score cwd config s original generated) := by
  refine .bind (.inspect _) ?_
  rintro jar? _ rfl
  refine .bind (.ofExcept jar?) ?_
  rintro jar _ rfl
  refine .bind (.emit _ _) fun _ _ _ => ?_
  exact .ask judge_fst_iff (h.fs _) fun fs => h.differ _ fs rfl

theorem Pipeline.validity_alike (generated : Path) (mode : Mode) :
    Grading.Alike Eq (validity cwd config r generated mode) (validity cwd config s generated mode) := by
  cases mode with
  | combined =>
    refine .bind (Validity.check_alike h cwd config generated) fun _ _ heq => ?_
    exact .pure (congrArg some heq)
  | equivalenceOnly => exact .pure rfl

/-- Two reports that differ at most in when the run began and how long it took. -/
def Report.SameButTime (a b : Report) : Prop :=
  { a with startedAt := b.startedAt, durationMs := b.durationMs } = b

theorem Pipeline.run_alike (timing timing' : Timing) (original generated : Path) (mode : Mode) :
    Grading.Alike Report.SameButTime (run cwd config r timing original generated mode)
      (run cwd config s timing' original generated mode) := by
  refine .bind (.emit _ _) fun _ _ _ => .bind (.inspect _) ?_
  rintro jar? _ rfl
  refine .bind (.ofExcept jar?) fun _ _ _ => .bind (validity_alike h cwd config generated mode) ?_
  rintro valid _ rfl
  refine .bind (Equivalence.score_alike h cwd config original generated) ?_
  rintro equivalent _ rfl
  refine .bind (.observe _) ?_
  rintro originalDigest _ rfl
  refine .bind (.observe _) ?_
  rintro generatedDigest _ rfl
  exact .bind (.emit _ _) fun _ _ _ => .pure rfl

end Runners

/-! ### The scores of one run -/

/-- A call of the tool with a given name, and the answer it got. -/
def Runner.Answered (runner : Runner) (name : String) (call : Call) (outcome : Except RunError ToolOutput) : Prop :=
  call.command.name = name ∧ (runner.run call.command call.before).ending = .done outcome

theorem RunEnding.eq_done_of_outcome? {ending : RunEnding} {outcome : Except RunError ToolOutput}
    (h : ending.outcome? = some outcome) : ending = .done outcome := by
  cases ending with
  | done _ => exact congrArg _ (Option.some.inj h)
  | panic message => cases h
  | pending => cases h

namespace Pipeline

/-- The first score is absent if the mode does not ask for it. Else it tells whether the analyzer accepted, which it
cannot if the model has no canonical path to be handed over by. -/
def FirstScored (runner : Runner) (path? : Except IoError Path) (valid : Option Score) (calls : List Call) : Mode → Prop
  | .equivalenceOnly => calls = [] ∧ valid = none
  | .combined => ∃ score, valid = some score ∧ match path? with
    | .error _ => calls = [] ∧ score.Marks False
    | .ok _ => ∃ call outcome, calls = [call] ∧ runner.Answered ToolCommand.analyzerExecName call outcome ∧
        score.Marks (Validity.Accepted outcome)

variable {cwd : Location} {config : Config} {runner : Runner} {timing : Timing} {original generated : Path}
  {mode : Mode} {fs left last : FileSystem} {calls : List Call}

theorem FirstHalf.scored {valid : Option Score}
    (first : FirstHalf cwd config runner generated fs mode (some valid) left calls) :
    FirstScored runner (fs.canonicalize cwd generated) valid calls mode := by
  generalize hv : some valid = valid? at first
  cases first with
  | skipped => exact ⟨rfl, Option.some.inj hv⟩
  | unresolved hpath =>
    refine ⟨_, Option.some.inj hv, ?_⟩
    rw [hpath]
    exact ⟨rfl, Score.marks_ofPassed (by simp)⟩
  | asked hjar hpath hcommand hanswer hvalid hleft =>
    rw [← hv] at hvalid
    obtain ⟨outcome, ho, rfl⟩ := Option.map_eq_some_iff.mp hvalid.symm
    refine ⟨_, rfl, ?_⟩
    rw [hpath]
    refine ⟨_, outcome, rfl, ⟨?_, ?_⟩, Score.marks_ofPassed (Validity.judge_fst_iff outcome)⟩
    · rw [hcommand]
      rfl
    · rw [hanswer] at ho
      exact RunEnding.eq_done_of_outcome? ho

/-- The scores of a report tell whether the analyzer accepted and whether the differ declared. -/
theorem Course.scored {report : Report}
    (hc : Course cwd config runner timing original generated fs mode (.value report) last calls) :
    ∃ before call outcome, calls = before ++ [call] ∧
      FirstScored runner (fs.canonicalize cwd generated) report.validity before mode ∧
      runner.Answered ToolCommand.moduleDiffName call outcome ∧
      report.equivalence.Marks (Equivalence.Declared outcome) := by
  generalize hend : Ending.value report = ending at hc
  cases hc with
  | refused h | failed h => cases hend
  | tornEarly h first torn => exact absurd hend.symm (torn.1 report)
  | tornLate h first hagain hcommand hanswer houtcome torn => exact absurd hend.symm (torn.1 report)
  | finished h first hagain hcommand hanswer houtcome =>
    cases hend
    refine ⟨_, _, _, rfl, first.scored, ⟨?_, ?_⟩, Score.marks_ofPassed (Equivalence.judge_fst_iff _)⟩
    · rw [hcommand]
      rfl
    · rw [hanswer] at houtcome
      exact RunEnding.eq_done_of_outcome? houtcome

/-- A run depends on its tools through what they do to the file system, whether the analyzer accepts and
whether the differ declares; its scores say just that. -/
theorem run_depends_on_two_bits (cwd : Location) (config : Config) {r s : Runner} (h : r.Alike s)
    (timing timing' : Timing) (original generated : Path) (mode : Mode) (fs : FileSystem) :
    let result := run cwd config r timing original generated mode (.start fs)
    let result' := run cwd config s timing' original generated mode (.start fs)
    result.1.Alike Report.SameButTime result'.1 ∧
    result.2.calls.map Call.command = result'.2.calls.map Call.command ∧ result.2.fs = result'.2.fs ∧
    ∀ report, result.1 = .value report →
      ∃ before call outcome, result.2.calls = before ++ [call] ∧
        FirstScored r (fs.canonicalize cwd generated) report.validity before mode ∧
        r.Answered ToolCommand.moduleDiffName call outcome ∧
        report.equivalence.Marks (Equivalence.Declared outcome) := by
  intro result result'
  obtain ⟨hend, hfs, hcommands⟩ := run_alike h cwd config timing timing' original generated mode _ _
    (Trace.Alike.refl (.start fs))
  refine ⟨hend, hcommands, hfs, fun report hvalue => ?_⟩
  have hc : Course cwd config r timing original generated fs mode result.1 result.2.fs result.2.calls :=
    course_run cwd config r timing original generated mode fs
  rw [hvalue] at hc
  exact hc.scored

theorem scripted_alike {a a' d d' : Except RunError ToolOutput} (ha : Validity.Accepted a ↔ Validity.Accepted a')
    (hd : Equivalence.Declared d ↔ Equivalence.Declared d') : (scripted a d).Alike (scripted a' d') where
  fs _ _ := rfl
  analyzer command fs hname := by
    simp only [scripted, if_pos hname]
    exact .done ha
  differ command fs hname := by
    have hne : ToolCommand.moduleDiffName ≠ ToolCommand.analyzerExecName := by decide
    simp only [scripted, hname, if_neg hne]
    exact .done hd

/-- An analyzer that runs out of time is as good as one that reports an error, and the differ's sentence may be
spread over both streams of a process that failed. -/
theorem run_depends_on_two_bits_scripted :
    let brief := scripted (.error (.timeout ToolCommand.analyzerExecName 300))
      (.ok ⟨ToolCommand.moduleDiffName, 0, Verdict.marker, "", true⟩)
    let odd := scripted (.ok ⟨ToolCommand.analyzerExecName, 1, "", "Syntax error", true⟩)
      (.ok ⟨ToolCommand.moduleDiffName, -1, "The two modules ", "are equivalent.", false⟩)
    let fs := site [] [["o"], ["g"]]
    let result := run [] .default brief (noon 1) (.ofString "o") (.ofString "g") .combined (.start fs)
    let result' := run [] .default odd (noon 2) (.ofString "o") (.ofString "g") .combined (.start fs)
    brief.Alike odd ∧ result.1.Alike Report.SameButTime result'.1 ∧
      result.2.calls.map Call.command = result'.2.calls.map Call.command ∧
      ∃ report, result.1 = .value report ∧ report.validity = some ⟨0, 1⟩ ∧
        report.equivalence = ⟨1, 1⟩ := by
  intro brief odd fs result result'
  have halike : brief.Alike odd := by
    refine scripted_alike (iff_of_false id ?_) (iff_of_true ⟨[], [], by decide⟩ ⟨[], [], by decide⟩)
    simp [Validity.Accepted]
  obtain ⟨hend, hcommands, -⟩ := run_depends_on_two_bits [] .default halike (noon 1) (noon 2) (.ofString "o")
    (.ofString "g") .combined fs
  exact ⟨halike, hend, hcommands, _, rfl, rfl, rfl⟩

end Pipeline

end AlloyGrade
