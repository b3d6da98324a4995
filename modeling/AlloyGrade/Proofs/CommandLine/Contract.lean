import AlloyGrade.Proofs.CommandLine.Settings
import AlloyGrade.Proofs.Document.RoundTrip
import AlloyGrade.Proofs.Grading.Alike
import AlloyGrade.Proofs.Grading.Decisions

/-! The contract of the command line. It ends with 0 or 1. With 0 it has answered an inquiry or printed a report,
with 1 it has printed nothing on its output and said why elsewhere. How much is logged, and how, changes nothing of
that. -/

namespace AlloyGrade

theorem System.runner_returns (system : System) : system.runner.Returns := by
  intro command fs
  rw [runner]
  dsimp only
  split_ifs
  · exact ⟨_, rfl⟩
  · rw [launch]
    split <;> exact ⟨_, rfl⟩

theorem Runner.Alike.refl (runner : Runner) : runner.Alike runner := by
  have hself (bit : Except RunError ToolOutput → Prop) (ending : RunEnding) : ending.Alike bit ending := by
    cases ending with
    | done outcome => exact .done Iff.rfl
    | panic message => exact .panic message
    | pending => exact .pending
  exact ⟨fun _ _ => rfl, fun _ _ _ => hself _ _, fun _ _ _ => hself _ _⟩

namespace CommandLine

/-! ### Help -/

theorem Help.sources_sameButFilter {env env' : Environment} (h : env.SameButFilter env') {long : Bool} {e : HelpEntry}
    (he : e ∈ Help.entries long) : e.sources env = e.sources env' := by
  have hall : (Help.entries long).all (fun e => e.envVariable != some filterVariable) := by cases long <;> decide
  have hne := List.all_eq_true.mp hall e he
  rw [HelpEntry.sources, HelpEntry.sources]
  cases hv : e.envVariable with
  | none => rfl
  | some name =>
    have hname : name ≠ filterVariable := by
      rintro rfl
      simp [hv] at hne
    simp [h name hname]

theorem Help.answer_sameButFilter {env env' : Environment} (h : env.SameButFilter env') (i : Inquiry) :
    Help.answer env i = Help.answer env' i := by
  have hshort (width : Nat) :
      (Help.entries false).map (Help.shortLine env width) = (Help.entries false).map (Help.shortLine env' width) := by
    refine List.map_congr_left fun e he => ?_
    rw [Help.shortLine, Help.shortLine, Help.sources_sameButFilter h he]
  have hlong : (Help.entries true).map (Help.paragraph env) = (Help.entries true).map (Help.paragraph env') := by
    refine List.map_congr_left fun e he => ?_
    rw [Help.paragraph, Help.paragraph, Help.sources_sameButFilter h he]
  cases i with
  | help long =>
    cases long with
    | false =>
      rw [Help.answer, Help.answer, Help.shortText, Help.shortText]
      dsimp only
      rw [hshort]
    | true =>
      rw [Help.answer, Help.answer, Help.longText, Help.longText, hlong]
  | version => rfl

/-! ### Failures -/

variable (system : System) (timing : Timing) (around : Surroundings) (s : Settings) (fs : FileSystem)

/-- The scoring run behind an accepted command line. -/
def scoring (config : Config) (made : FileSystem) : Ending Report × Trace :=
  Pipeline.run around.cwd config system.runner timing s.original s.generated s.mode (.start made)

/-- How an accepted command line can fail: in finding the tools, in preparing the workdir, in the scoring run or in
writing its report. -/
inductive Breakdown : Failure → Prop
  | executable {e : IoError} (hdir : s.given.toolsDir = none) (hexe : around.exeDir = .error e) :
      Breakdown (.executable e)
  | workdir {path : Path} {e : IoError} (hdir : s.given.workdir = some path)
      (hmake : (fs.makeDirs around.cwd path).1 = .error e) : Breakdown (.workdir path e)
  | currentDir (hdir : s.given.workdir = none) (hgone : fs.lookup around.cwd ≠ some .dir) :
      Breakdown (.currentDir .noEntry)
  | scoring {config : Config} {made : FileSystem} {e : ScoreError}
      (hconfig : configure around s.given fs = (.ok config, made))
      (hrun : (scoring system timing around s config made).1 = .error e) : Breakdown (.scoring e)
  | writing {config : Config} {made : FileSystem} {r : Report} {e : WriteError}
      (hconfig : configure around s.given fs = (.ok config, made))
      (hrun : (scoring system timing around s config made).1 = .value r) (hformat : s.format = .json)
      (hjson : r.toJson = .error e) : Breakdown (.writing e)

/-- A report as it is printed: its lines, or its document. -/
structure Printed (format : OutputFormat) (r : Report) (stdout : String) : Prop where
  text : format = .text → stdout = String.join (r.lines.map (· ++ "\n"))
  json : format = .json → ∃ document, r.toJson = .ok document ∧ stdout = document.pretty ++ "\n"

variable {system timing around s fs}

theorem breakdown_of_findTools {e : Failure} (h : findTools around s.given = .error e) :
    Breakdown system timing around s fs e := by
  rw [findTools] at h
  split at h <;> cases h
  rename_i hdir hexe
  exact .executable hdir hexe

theorem breakdown_of_prepareWorkdir {e : Failure} {left : FileSystem}
    (h : prepareWorkdir around.cwd s.given fs = (.error e, left)) : Breakdown system timing around s fs e := by
  rw [prepareWorkdir] at h
  split at h
  · rename_i path hdir
    split at h
    · cases h
    · rename_i hmake
      cases h
      exact .workdir hdir (congrArg Prod.fst hmake)
  · rename_i hdir
    split at h
    · cases h
    · rename_i hgone
      cases h
      exact .currentDir hdir hgone

theorem breakdown_of_configure {e : Failure} {left : FileSystem} (h : configure around s.given fs = (.error e, left)) :
    Breakdown system timing around s fs e := by
  rw [configure] at h
  split at h
  · rename_i htools
    cases h
    exact breakdown_of_findTools htools
  · split at h
    · rename_i hprepare
      cases h
      exact breakdown_of_prepareWorkdir hprepare
    · cases h

theorem printed_cases (format : OutputFormat) (r : Report) :
    (∃ text, printed format r = .ok text ∧ Printed format r text) ∨
      ∃ e, printed format r = .error (.writing e) ∧ format = .json ∧ r.toJson = .error e := by
  cases format with
  | text => exact .inl ⟨_, rfl, fun _ => rfl, fun h => absurd h (by decide)⟩
  | json =>
    rw [printed]
    cases hjson : r.toJson with
    | ok document => exact .inl ⟨_, rfl, fun h => absurd h (by decide), fun _ => ⟨document, hjson, rfl⟩⟩
    | error e => exact .inr ⟨e, rfl, rfl, rfl⟩

/-- An accepted command line breaks down, or it prints the report of its scoring run. -/
theorem grade_cases (system : System) (timing : Timing) (around : Surroundings) (s : Settings) (fs : FileSystem) :
    (∃ failure trace, grade system timing around s fs = (.error failure, trace) ∧
      Breakdown system timing around s fs failure) ∨
    ∃ config made r trace text events, configure around s.given fs = (.ok config, made) ∧
      scoring system timing around s config made = (.value r, trace) ∧ Printed s.format r text ∧
      grade system timing around s fs = (.ok text, { trace with events }) := by
  rw [grade]
  rcases hconfig : configure around s.given fs with ⟨config | config, made⟩
  · exact .inl ⟨_, _, rfl, breakdown_of_configure hconfig⟩
  · rcases hrun : scoring system timing around s config made with ⟨ending, trace⟩
    have hc := Pipeline.course_run around.cwd config system.runner timing s.original s.generated s.mode made
    have hpipeline := hrun
    rw [scoring] at hpipeline
    rw [hpipeline] at hc
    dsimp only
    rw [hpipeline]
    rcases Ending.value_or_error (hc.not_torn system.runner_returns) with ⟨r, rfl⟩ | ⟨e, rfl⟩
    · rcases printed_cases s.format r with ⟨text, htext, hprinted⟩ | ⟨e, htext, hformat, hjson⟩
      · exact .inr ⟨config, made, r, trace, text, _, rfl, hrun, hprinted, by rw [report, htext]⟩
      · exact .inl ⟨_, _, by rw [report, htext], .writing hconfig (congrArg Prod.fst hrun) hformat hjson⟩
    · exact .inl ⟨_, _, rfl, .scoring hconfig (congrArg Prod.fst hrun)⟩

/-! ### Runs -/

variable {env env' : Environment} {args args' : List Bytes}

theorem run_of_text {text : String} {trace : Trace} (hread : read env args = .ok s)
    (hgrade : grade system timing around s fs = (.ok text, trace)) :
    run system timing around env args fs = ⟨0, text, logText env s.given trace.events, trace.calls, trace.fs⟩ := by
  rw [run, hread]
  dsimp only
  rw [hgrade]

theorem run_of_failure {e : Failure} {trace : Trace} (hread : read env args = .ok s)
    (hgrade : grade system timing around s fs = (.error e, trace)) :
    run system timing around env args fs =
      ⟨1, "", logText env s.given trace.events ++ "Error: " ++ e.message ++ "\n", trace.calls, trace.fs⟩ := by
  rw [run, hread]
  dsimp only
  rw [hgrade]

/-- What a run of the command line comes to. -/
theorem run_cases (system : System) (timing : Timing) (around : Surroundings) (env : Environment) (args : List Bytes)
    (fs : FileSystem) :
    (∃ i, read env args = .error (.inquiry i) ∧
      run system timing around env args fs = ⟨0, Help.answer env i, "", [], fs⟩) ∨
    (∃ e, read env args = .error (.usage e) ∧ run system timing around env args fs = ⟨1, "", usageText e, [], fs⟩) ∨
    (∃ s failure logs calls left, read env args = .ok s ∧ Breakdown system timing around s fs failure ∧
      run system timing around env args fs = ⟨1, "", logs ++ "Error: " ++ failure.message ++ "\n", calls, left⟩) ∨
    ∃ s config made r trace text logs, read env args = .ok s ∧ configure around s.given fs = (.ok config, made) ∧
      scoring system timing around s config made = (.value r, trace) ∧ Printed s.format r text ∧
      run system timing around env args fs = ⟨0, text, logs, trace.calls, trace.fs⟩ := by
  rcases hread : read env args with (i | e) | s
  · exact .inl ⟨i, rfl, by rw [run, hread]⟩
  · exact .inr (.inl ⟨e, rfl, by rw [run, hread]⟩)
  · rcases grade_cases system timing around s fs with ⟨failure, trace, hgrade, hbreak⟩ |
      ⟨config, made, r, trace, text, events, hconfig, hrun, hprinted, hgrade⟩
    · exact .inr (.inr (.inl ⟨s, failure, _, _, _, rfl, hbreak, run_of_failure hread hgrade⟩))
    · have hrun' := run_of_text hread hgrade
      exact .inr (.inr (.inr ⟨s, config, made, r, trace, text, _, rfl, hconfig, hrun, hprinted, hrun'⟩))

/-- With exit code 1 the output is empty, and it is told what went wrong. -/
theorem run_of_exit_one (h : (run system timing around env args fs).exit = 1) :
    let outcome := run system timing around env args fs
    outcome.stdout = "" ∧
      ((∃ e, read env args = .error (.usage e)) ∧ outcome.calls = [] ∧ outcome.fs = fs ∨
        ∃ s failure logs, read env args = .ok s ∧ Breakdown system timing around s fs failure ∧
          outcome.stderr = logs ++ "Error: " ++ failure.message ++ "\n") := by
  rcases run_cases system timing around env args fs with ⟨i, hread, hrun⟩ | ⟨e, hread, hrun⟩ |
    ⟨s, failure, logs, calls, left, hread, hbreak, hrun⟩ |
    ⟨s, config, made, r, trace, text, logs, hread, hconfig, hscoring, hprinted, hrun⟩
  · rw [hrun] at h
    cases h
  · rw [hrun]
    exact ⟨rfl, .inl ⟨⟨e, hread⟩, rfl, rfl⟩⟩
  · rw [hrun]
    exact ⟨rfl, .inr ⟨s, failure, logs, hread, hbreak, rfl⟩⟩
  · rw [hrun] at h
    cases h

/-- With exit code 0 an inquiry is answered, or the report of the scoring run is printed. -/
theorem run_of_exit_zero (h : (run system timing around env args fs).exit = 0) :
    let outcome := run system timing around env args fs
    (∃ i, read env args = .error (.inquiry i) ∧ asks args ∧ outcome.stdout = Help.answer env i) ∧
      outcome.calls = [] ∧ outcome.fs = fs ∨
    ∃ s config made r trace, read env args = .ok s ∧ positionals args = [s.original.bytes, s.generated.bytes] ∧
      configure around s.given fs = (.ok config, made) ∧
      scoring system timing around s config made = (.value r, trace) ∧
      Printed s.format r outcome.stdout ∧ outcome.calls = trace.calls ∧ outcome.fs = trace.fs := by
  rcases run_cases system timing around env args fs with ⟨i, hread, hrun⟩ | ⟨e, hread, hrun⟩ |
    ⟨s, failure, logs, calls, left, hread, hbreak, hrun⟩ |
    ⟨s, config, made, r, trace, text, logs, hread, hconfig, hscoring, hprinted, hrun⟩
  · rw [hrun]
    exact .inl ⟨⟨i, hread, asks_of_read hread, rfl⟩, rfl, rfl⟩
  · rw [hrun] at h
    cases h
  · rw [hrun] at h
    cases h
  · rw [hrun]
    exact .inr ⟨s, config, made, r, trace, hread, positionals_of_read hread, hconfig, hscoring, hprinted, rfl, rfl⟩

/-- Without two files and without an inquiry, the arguments are rejected. -/
theorem run_of_positionals (hfiles : (positionals args).length ≠ 2) (hasks : asks args = false) :
    let outcome := run system timing around env args fs
    outcome.exit = 1 ∧ outcome.stdout = "" ∧ outcome.calls = [] ∧ outcome.fs = fs := by
  rcases hread : read env args with (i | e) | s
  · rw [asks_of_read hread] at hasks
    cases hasks
  · rw [run, hread]
    exact ⟨rfl, rfl, rfl, rfl⟩
  · rw [positionals_of_read hread] at hfiles
    exact absurd rfl hfiles

/-! ### Time and logging -/

/-- Two runs with the same exit code, the same commands and the same file system in the end. -/
structure Outcome.Alike (a b : Outcome) : Prop where
  exit : a.exit = b.exit
  commands : a.calls.map Call.command = b.calls.map Call.command
  fs : a.fs = b.fs

theorem isOk_printed {r r' : Report} (h : r.SameButTime r') (format : OutputFormat) :
    (printed format r).isOk = (printed format r').isOk := by
  cases format with
  | text => rfl
  | json =>
    have hwritten : (∃ document, r.toJson = .ok document) ↔ ∃ document, r'.toJson = .ok document := by
      rw [Report.exists_toJson_iff, Report.exists_toJson_iff, ← h]
    rw [printed, printed]
    cases hr : r.toJson with
    | ok document =>
      obtain ⟨document', hr'⟩ := hwritten.mp ⟨document, hr⟩
      rw [hr']
      rfl
    | error e =>
      cases hr' : r'.toJson with
      | ok document' =>
        obtain ⟨document, hr''⟩ := hwritten.mpr ⟨document', hr'⟩
        rw [hr] at hr''
        cases hr''
      | error e' => rfl

/-- When a run begins and how long it takes matters to nothing but what is printed. -/
theorem grade_alike (system : System) (timing timing' : Timing) (around : Surroundings) (s : Settings)
    (fs : FileSystem) :
    (grade system timing around s fs).1.isOk = (grade system timing' around s fs).1.isOk ∧
      (grade system timing around s fs).2.Alike (grade system timing' around s fs).2 := by
  rw [grade, grade]
  rcases configure around s.given fs with ⟨e | config, made⟩
  · exact ⟨rfl, .refl _⟩
  · obtain ⟨hend, hfs, hcommands⟩ := Pipeline.run_alike (.refl system.runner) around.cwd config timing timing'
      s.original s.generated s.mode (.start made) (.start made) (.refl _)
    refine ⟨?_, hfs, hcommands⟩
    dsimp only
    generalize (Pipeline.run around.cwd config system.runner timing s.original s.generated s.mode (.start made)).1 =
      ending at hend
    generalize (Pipeline.run around.cwd config system.runner timing' s.original s.generated s.mode (.start made)).1 =
      ending' at hend
    cases hend with
    | value h => exact isOk_printed h s.format
    | error | panic | cancelled => rfl

theorem alike_of_grade {timing' : Timing} {s' : Settings} (hread : read env args = .ok s)
    (hread' : read env' args' = .ok s')
    (hok : (grade system timing around s fs).1.isOk = (grade system timing' around s' fs).1.isOk)
    (htrace : (grade system timing around s fs).2.Alike (grade system timing' around s' fs).2) :
    (run system timing around env args fs).Alike (run system timing' around env' args' fs) := by
  rcases hgrade : grade system timing around s fs with ⟨e | text, trace⟩
  all_goals
    rcases hgrade' : grade system timing' around s' fs with ⟨e' | text', trace'⟩
    all_goals rw [hgrade, hgrade'] at hok htrace
  · rw [run_of_failure hread hgrade, run_of_failure hread' hgrade']
    exact ⟨rfl, htrace.commands, htrace.fs⟩
  · cases hok
  · cases hok
  · rw [run_of_text hread hgrade, run_of_text hread' hgrade']
    exact ⟨rfl, htrace.commands, htrace.fs⟩

theorem run_alike (system : System) (timing timing' : Timing) (around : Surroundings) (env : Environment)
    (args : List Bytes) (fs : FileSystem) :
    (run system timing around env args fs).Alike (run system timing' around env args fs) := by
  cases hread : read env args with
  | error r =>
    rw [run, run, hread]
    cases r <;> exact ⟨rfl, rfl, rfl⟩
  | ok s =>
    obtain ⟨hok, htrace⟩ := grade_alike system timing timing' around s fs
    exact alike_of_grade hread hread hok htrace

/-- An accepted command line is graded without regard to its log flags. -/
theorem grade_sameButLogging {s' : Settings} (h : s.SameButLogging s') :
    grade system timing around s fs = grade system timing around s' fs := by
  rcases s' with ⟨original, generated, given⟩
  obtain ⟨rfl, rfl, verbose, jsonLogs, rfl⟩ := h
  rfl

/-- Log flags and log filter matter to nothing but what is logged. -/
theorem run_sameButLogging (henv : env.SameButFilter env') (hargs : withoutLogging args = withoutLogging args')
    (h : ∀ r, read env args = .error r → r.repeatsLogFlag = false)
    (h' : ∀ r, read env' args' = .error r → r.repeatsLogFlag = false) :
    (run system timing around env args fs).stdout = (run system timing around env' args' fs).stdout ∧
      (run system timing around env args fs).Alike (run system timing around env' args' fs) := by
  have hagree := agree_read henv hargs h h'
  generalize hread : read env args = answer at hagree
  generalize hread' : read env' args' = answer' at hagree
  cases hagree with
  | ok hs =>
    rename_i s s'
    have hgrade : grade system timing around s fs = grade system timing around s' fs := grade_sameButLogging hs
    refine ⟨?_, alike_of_grade hread hread' (by rw [hgrade]) (by rw [hgrade]; exact .refl _)⟩
    rcases hresult : grade system timing around s' fs with ⟨e | text, trace⟩
    · rw [run_of_failure hread (hgrade.trans hresult), run_of_failure hread' hresult]
    · rw [run_of_text hread (hgrade.trans hresult), run_of_text hread' hresult]
  | inquiry i =>
    rw [run, run, hread, hread']
    exact ⟨Help.answer_sameButFilter henv i, rfl, rfl, rfl⟩
  | usage e e' =>
    rw [run, run, hread, hread']
    exact ⟨rfl, rfl, rfl, rfl⟩

/-- The contract of the command line. The exit code is 0 or 1. With 1 the output is empty, and either the arguments were
rejected, so that nothing was launched or changed, or the error is told behind `Error: `. With 0 an inquiry was
answered, or the scoring run gave the report that is printed. Without two positional arguments and without an
inquiry it ends with 1 and launches nothing. With the same tools, changing the log flags or the log filter changes
neither the exit code nor the output, but for the time of the run, nor the commands, nor the file system in the end,
unless a log flag is given twice. -/
theorem run_meets_contract (system : System) (timing : Timing) (around : Surroundings) (env : Environment)
    (args : List Bytes) (fs : FileSystem) :
    let outcome := run system timing around env args fs
    (outcome.exit = 0 ∨ outcome.exit = 1) ∧
    (outcome.exit = 1 → outcome.stdout = "" ∧
      ((∃ e, read env args = .error (.usage e)) ∧ outcome.calls = [] ∧ outcome.fs = fs ∨
        ∃ s failure logs, read env args = .ok s ∧ Breakdown system timing around s fs failure ∧
          outcome.stderr = logs ++ "Error: " ++ failure.message ++ "\n")) ∧
    (outcome.exit = 0 →
      (∃ i, read env args = .error (.inquiry i) ∧ asks args ∧ outcome.stdout = Help.answer env i) ∧
        outcome.calls = [] ∧ outcome.fs = fs ∨
      ∃ s config made r trace, read env args = .ok s ∧ positionals args = [s.original.bytes, s.generated.bytes] ∧
        configure around s.given fs = (.ok config, made) ∧
        Pipeline.run around.cwd config system.runner timing s.original s.generated s.mode (.start made) =
          (.value r, trace) ∧
        Printed s.format r outcome.stdout ∧ outcome.calls = trace.calls ∧ outcome.fs = trace.fs) ∧
    ((positionals args).length ≠ 2 → asks args = false →
      outcome.exit = 1 ∧ outcome.stdout = "" ∧ outcome.calls = [] ∧ outcome.fs = fs) ∧
    ∀ env' args' timing', env.SameButFilter env' → withoutLogging args = withoutLogging args' →
      (∀ r, read env args = .error r → r.repeatsLogFlag = false) →
      (∀ r, read env' args' = .error r → r.repeatsLogFlag = false) →
        let other := run system timing' around env' args' fs
        outcome.exit = other.exit ∧ (run system timing' around env args fs).stdout = other.stdout ∧
          outcome.calls.map Call.command = other.calls.map Call.command ∧ outcome.fs = other.fs := by
  intro outcome
  refine ⟨?_, run_of_exit_one, run_of_exit_zero, run_of_positionals, ?_⟩
  · rcases run_cases system timing around env args fs with ⟨_, -, h⟩ | ⟨_, -, h⟩ | ⟨_, _, _, _, _, -, -, h⟩ |
      ⟨_, _, _, _, _, _, _, -, -, -, -, h⟩
    · exact .inl (congrArg Outcome.exit h)
    · exact .inr (congrArg Outcome.exit h)
    · exact .inr (congrArg Outcome.exit h)
    · exact .inl (congrArg Outcome.exit h)
  · intro env' args' timing' henv hargs h h'
    have htime := run_alike system timing timing' around env args fs
    obtain ⟨hstdout, hlogging⟩ := run_sameButLogging henv hargs h h'
    exact ⟨htime.exit.trans hlogging.exit, hstdout, htime.commands.trans hlogging.commands,
      htime.fs.trans hlogging.fs⟩

/-- Tools that cannot be started. -/
def absent : System := ⟨fun _ fs => (.refused .noEntry, fs)⟩

/-- A program in the root directory. -/
def atRoot : Surroundings := ⟨[], .ok (.ofString "/")⟩

/-- The same scores with and without logging, and none for a single file. -/
theorem run_meets_contract_chatty :
    let fs := Pipeline.site [] [["o"], ["g"]]
    let chatter := [(Bytes.ofString "RUST_LOG", Bytes.ofString "trace")]
    let plain := run absent (Pipeline.noon 1) atRoot [] (["o", "g"].map Bytes.ofString) fs
    let chatty := run absent (Pipeline.noon 1) atRoot chatter (["-v", "o", "--json-logs", "g"].map Bytes.ofString) fs
    let single := run absent (Pipeline.noon 1) atRoot [] (["o", "--java", "g"].map Bytes.ofString) fs
    plain.exit = 0 ∧ plain.stdout = "Syntax Valid: 0/1\nEquivalence Score: 0/1\n" ∧ plain.calls.length = 2 ∧
      plain.exit = chatty.exit ∧ plain.stdout = chatty.stdout ∧
      plain.calls.map Call.command = chatty.calls.map Call.command ∧ plain.fs = chatty.fs ∧
      single.exit = 1 ∧ single.stdout = "" ∧ single.calls = [] ∧ single.fs = fs := by
  intro fs chatter plain chatty single
  obtain ⟨-, -, -, -, hlogging⟩ :=
    run_meets_contract absent (Pipeline.noon 1) atRoot [] (["o", "g"].map Bytes.ofString) fs
  obtain ⟨-, -, -, hfiles, -⟩ :=
    run_meets_contract absent (Pipeline.noon 1) atRoot [] (["o", "--java", "g"].map Bytes.ofString) fs
  have henv : Environment.SameButFilter [] chatter := by
    intro name hname
    have hne : Bytes.ofString name ≠ Bytes.ofString filterVariable := by
      intro heq
      have hsame := Utf8.decode?_eq_some_iff.mpr heq
      rw [Utf8.decode?_eq_some_iff.mpr rfl] at hsame
      exact hname (Option.some.inj hsame)
    have hmiss : (Bytes.ofString name == Bytes.ofString "RUST_LOG") = false := beq_false_of_ne hne
    rw [Environment.get?, Environment.get?, List.lookup_cons, hmiss]
  have haccepted (env : Environment) (args : List Bytes) (h : (read env args).isOk) :
      ∀ r, read env args = .error r → r.repeatsLogFlag = false := by
    intro r hr
    rw [hr] at h
    cases h
  obtain ⟨hexit, hstdout, hcommands, hfs⟩ := hlogging chatter (["-v", "o", "--json-logs", "g"].map Bytes.ofString)
    (Pipeline.noon 1) henv (by decide) (haccepted _ _ (by decide)) (haccepted _ _ (by decide))
  exact ⟨by decide, by decide, by decide, hexit, hstdout, hcommands, hfs, hfiles (by decide) (by decide)⟩

/-- A log flag that is written a second time is refused, and nothing is scored any more. -/
theorem run_refuses_second_flag :
    let fs := Pipeline.site [] [["o"], ["g"]]
    let once := ["-v", "o", "g"].map Bytes.ofString
    let twice := ["-v", "-v", "o", "g"].map Bytes.ofString
    let outcome (args : List Bytes) := run absent (Pipeline.noon 1) atRoot [] args fs
    withoutLogging once = withoutLogging twice ∧
      (outcome once).exit = 0 ∧ (outcome once).stdout = "Syntax Valid: 0/1\nEquivalence Score: 0/1\n" ∧
      (outcome once).calls.length = 2 ∧
      (outcome twice).exit = 1 ∧ (outcome twice).stdout = "" ∧ (outcome twice).calls = [] := by
  intro fs once twice outcome
  have hscored : (outcome once).exit = 0 ∧ (outcome once).stdout = "Syntax Valid: 0/1\nEquivalence Score: 0/1\n" ∧
      (outcome once).calls.length = 2 := by decide
  have hrefused : (outcome twice).exit = 1 ∧ (outcome twice).stdout = "" ∧ (outcome twice).calls = [] := by decide
  exact ⟨by decide, hscored.1, hscored.2.1, hscored.2.2, hrefused⟩

end CommandLine

end AlloyGrade
