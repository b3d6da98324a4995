import AlloyGrade.Proofs.Grading.Execution
import Mathlib.Tactic.SplitIfs

/-! The courses a scoring run can take. A run is refused by its first checks; or the analyzer or the differ
does not come back; or something the differ needs has gone missing by the time it is to be called; or the
run finishes with a report. Every run takes one of these courses, and properties of runs are proved by
going through them. -/

namespace AlloyGrade.Pipeline

/-- The first thing that stops a run in the given mode before any tool is called. -/
def fault? (cwd : Location) (config : Config) (original generated : Path) (mode : Mode) (fs : FileSystem) :
    Option ScoreError :=
  (Equivalence.fault? cwd config original generated fs).or
    (if mode = .combined then Validity.fault? cwd config generated fs else none)

section Relations

variable (cwd : Location) (config : Config) (runner : Runner) (timing : Timing) (original generated : Path)
  (fs : FileSystem)

/-- What the first half of a run comes to, once the run is not refused: a score if the mode asks for one and the
analyzer, where it was asked, came back; the file system left behind; and the tools called. -/
inductive FirstHalf : Mode → Option (Option Score) → FileSystem → List Call → Prop
  | skipped : FirstHalf .equivalenceOnly (some none) fs []
  | unresolved {e : IoError} (hpath : fs.canonicalize cwd generated = .error e) :
      FirstHalf .combined (some (some (.ofPassed false))) fs []
  | asked {jar path : Path} {command : ToolCommand} {answer : RunResult} {valid? : Option (Option Score)}
      {left : FileSystem}
      (hjar : fs.canonicalize cwd config.artifacts.analyzerJar = .ok jar)
      (hpath : fs.canonicalize cwd generated = .ok path)
      (hcommand : command = .analyzerExec config jar path config.workdir)
      (hanswer : answer = runner.run command fs)
      (hvalid : valid? = answer.ending.outcome?.map fun outcome => some (.ofPassed (Validity.judge outcome).1))
      (hleft : left = ((⟨config.workdir⟩ : Workdir).cleanScratch cwd answer.fs).1) :
      FirstHalf .combined valid? left [⟨command, fs, answer.ending.outcome?⟩]

/-- How a run can end, what it can leave, and which tools it can have called. -/
inductive Course (mode : Mode) : Ending Report → FileSystem → List Call → Prop
  | refused {e : ScoreError} (h : fault? cwd config original generated mode fs = some e) :
      Course mode (.error e) fs []
  | tornEarly {ending : Ending Report} {left : FileSystem} {calls : List Call}
      (h : fault? cwd config original generated mode fs = none)
      (first : FirstHalf cwd config runner generated fs mode none left calls) (torn : ending.Torn) :
      Course mode ending left calls
  | failed {valid : Option Score} {left : FileSystem} {calls : List Call} {e : ScoreError}
      (h : fault? cwd config original generated mode fs = none)
      (first : FirstHalf cwd config runner generated fs mode (some valid) left calls)
      (hagain : Equivalence.fault? cwd config original generated left = some e) :
      Course mode (.error e) left calls
  | tornLate {ending : Ending Report} {valid : Option Score} {left : FileSystem} {calls : List Call}
      {command : ToolCommand} {answer : RunResult}
      (h : fault? cwd config original generated mode fs = none)
      (first : FirstHalf cwd config runner generated fs mode (some valid) left calls)
      (hagain : Equivalence.fault? cwd config original generated left = none)
      (hcommand : command = .moduleDiff config config.artifacts.diffJar original generated)
      (hanswer : answer = runner.run command left) (houtcome : answer.ending.outcome? = none)
      (torn : ending.Torn) :
      Course mode ending answer.fs (calls ++ [⟨command, left, none⟩])
  | finished {valid : Option Score} {left : FileSystem} {calls : List Call} {command : ToolCommand}
      {answer : RunResult} {outcome : Except RunError ToolOutput}
      (h : fault? cwd config original generated mode fs = none)
      (first : FirstHalf cwd config runner generated fs mode (some valid) left calls)
      (hagain : Equivalence.fault? cwd config original generated left = none)
      (hcommand : command = .moduleDiff config config.artifacts.diffJar original generated)
      (hanswer : answer = runner.run command left) (houtcome : answer.ending.outcome? = some outcome) :
      Course mode
        (.value (reportOn cwd timing original generated answer.fs valid (.ofPassed (Equivalence.judge outcome).1)))
        answer.fs (calls ++ [⟨command, left, some outcome⟩])

end Relations

variable {cwd : Location} {config : Config} {runner : Runner} {timing : Timing} {original generated : Path}
  {mode : Mode} {fs : FileSystem}

theorem fault?_eq_none_iff : fault? cwd config original generated mode fs = none ↔
    Equivalence.fault? cwd config original generated fs = none ∧
      (mode = .combined → Validity.fault? cwd config generated fs = none) := by
  rw [fault?, Option.or_eq_none_iff]
  split_ifs <;> simp_all

theorem equivalence_fault?_eq_none_iff : Equivalence.fault? cwd config original generated fs = none ↔
    fs.isFile cwd config.artifacts.diffJar ∧ fs.pathExists cwd original ∧ fs.pathExists cwd generated := by
  rw [Equivalence.fault?]
  split_ifs <;> simp_all

/-- The first half of a run that is not refused. -/
theorem firstHalf_validity (runner : Runner) {t : Trace}
    (h : fault? cwd config original generated mode t.fs = none) :
    let half := validity cwd config runner generated mode t
    ∃ valid? calls, FirstHalf cwd config runner generated t.fs mode valid? half.2.fs calls ∧
      half.2.calls = t.calls ++ calls ∧
      (valid? = none ∧ half.1.Torn ∨ ∃ valid, valid? = some valid ∧ half.1 = .value valid) := by
  intro half
  cases mode with
  | equivalenceOnly => exact ⟨some none, [], .skipped, (List.append_nil _).symm, .inr ⟨none, rfl, rfl⟩⟩
  | combined =>
    rcases validity_combined_cases cwd config runner generated t with
      ⟨e, he, -⟩ | ⟨-, e, he, hhalf⟩ | ⟨-, jar, path, hjar, hpath, hfs, hcalls, hending⟩
    · exact absurd (he.symm.trans ((fault?_eq_none_iff.mp h).2 rfl)) nofun
    · have hhalf : half = _ := hhalf
      rw [hhalf]
      exact ⟨_, [], .unresolved he, (List.append_nil _).symm, .inr ⟨_, rfl, rfl⟩⟩
    · refine ⟨(runner.run (.analyzerExec config jar path config.workdir) t.fs).ending.outcome?.map
        fun outcome => some (.ofPassed (Validity.judge outcome).1), _, ?_, hcalls, ?_⟩
      · exact .asked hjar hpath rfl rfl rfl hfs
      · rcases hending with ⟨ho, ht⟩ | ⟨outcome, ho, hv⟩
        · exact .inl ⟨by rw [ho]; rfl, ht⟩
        · exact .inr ⟨_, by rw [ho]; rfl, hv⟩

/-- Every run takes one of the courses. -/
theorem course_run (cwd : Location) (config : Config) (runner : Runner) (timing : Timing)
    (original generated : Path) (mode : Mode) (fs : FileSystem) :
    let result := run cwd config runner timing original generated mode (.start fs)
    Course cwd config runner timing original generated fs mode result.1 result.2.fs result.2.calls := by
  intro result
  have happly : result = _ := run_apply (.start fs)
  have hstart : (Trace.start fs).fs = fs := rfl
  rw [hstart] at happly
  cases hf : Equivalence.fault? cwd config original generated fs with
  | some e =>
    rw [hf] at happly
    rw [happly]
    exact .refused (by simp [fault?, hf])
  | none =>
    simp only [hf] at happly
    cases hp : fault? cwd config original generated mode fs with
    | some e =>
      -- Only the check of the generated model can have failed here.
      obtain ⟨rfl, he⟩ : mode = .combined ∧ Validity.fault? cwd config generated fs = some e := by
        cases mode <;> simp_all [fault?]
      rcases validity_combined_cases cwd config runner generated ((Trace.start fs).record [.runStarted .combined]) with
        ⟨e', he', hv⟩ | ⟨hnone, -⟩ | ⟨hnone, -⟩
      · obtain rfl : e = e' := Option.some.inj (he.symm.trans he')
        rw [happly, Grading.bind_of_error (congrArg Prod.fst hv), hv]
        exact .refused hp
      · exact absurd (he.symm.trans hnone) nofun
      · exact absurd (he.symm.trans hnone) nofun
    | none =>
      have hp' : fault? cwd config original generated mode ((Trace.start fs).record [.runStarted mode]).fs = none := hp
      obtain ⟨valid?, calls, first, hcalls, hending⟩ := firstHalf_validity runner hp'
      rcases hending with ⟨rfl, ht⟩ | ⟨valid, rfl, hv⟩
      · obtain ⟨htorn, hs⟩ := Grading.bind_of_torn (f := fun valid =>
          Equivalence.score cwd config runner original generated >>= conclude cwd timing original generated valid) ht
        rw [← happly] at htorn hs
        rw [hs, hcalls]
        exact .tornEarly hp first htorn
      · rw [Grading.bind_of_value hv] at happly
        rw [happly]
        rcases compare_cases cwd config runner timing original generated valid
          (validity cwd config runner generated mode ((Trace.start fs).record [.runStarted mode])).2 with
          ⟨e, he, hc⟩ | ⟨hagain, hfs, hc, ⟨ho, ht⟩ | ⟨outcome, ho, hvalue⟩⟩
        · rw [hc, hcalls]
          exact .failed hp first he
        · rw [hfs, hc, hcalls, ho]
          exact .tornLate hp first hagain rfl rfl ho ht
        · rw [hfs, hc, hcalls, ho, hvalue]
          exact .finished hp first hagain rfl rfl ho

/-! ### A small site -/

/-- The jars of the default configuration, and the given directories and models, all of them empty. -/
def site (dirs models : List (List String)) : FileSystem :=
  let jars := [[Artifacts.diffJarName], [Artifacts.analyzerJarName]]
  ⟨dirs.map (fun names => (names.map Bytes.ofString, .dir)) ++
    (jars ++ models).map fun names => (names.map Bytes.ofString, .file (.plain []))⟩

/-- Tools that always give the same answers and change nothing. -/
def scripted (analyzer differ : Except RunError ToolOutput) : Runner where
  run command fs := ⟨.done (if command.name = ToolCommand.analyzerExecName then analyzer else differ), fs, []⟩

/-- Midday on the first day of 2026, for a given time. -/
def noon (durationMs : UInt64) : Timing := ⟨⟨2026, 1, 1, 12, 0, 0, 0⟩, durationMs⟩

end AlloyGrade.Pipeline
