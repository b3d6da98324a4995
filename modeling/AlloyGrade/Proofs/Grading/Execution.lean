import AlloyGrade.Grading.Pipeline
import AlloyGrade.Proofs.Files.Unlinked

/-! Execution laws of scoring calls: what each of them does to the file system, which tools it calls and
how it ends. Both tools are asked in the same way, so the laws of asking are stated once. -/

namespace AlloyGrade

/-- A call that was torn down gives neither a value nor an error. -/
def Ending.Torn {α : Type} (ending : Ending α) : Prop := (∀ a, ending ≠ .value a) ∧ ∀ e, ending ≠ .error e

theorem Ending.value_or_error {α : Type} {ending : Ending α} (h : ¬ending.Torn) :
    (∃ a, ending = .value a) ∨ ∃ e, ending = .error e := by
  cases ending with
  | value a => exact .inl ⟨a, rfl⟩
  | error e => exact .inr ⟨e, rfl⟩
  | panic message => simp [Torn] at h
  | cancelled => simp [Torn] at h

namespace RunEnding

def outcome? : RunEnding → Option (Except RunError ToolOutput)
  | .done outcome => some outcome
  | .panic _ | .pending => none

/-- How a scoring call ends that asks for a score. -/
def scored (judge : Except RunError ToolOutput → Bool × Event) : RunEnding → Ending Score
  | .done outcome => .value (.ofPassed (judge outcome).1)
  | .panic message => .panic message
  | .pending => .cancelled

/-- What a scoring call reports of the answer. -/
def reported (judge : Except RunError ToolOutput → Bool × Event) (known : Bool → Event) : RunEnding → List Event
  | .done outcome => [(judge outcome).2, known (judge outcome).1]
  | .panic _ | .pending => []

variable {judge : Except RunError ToolOutput → Bool × Event} {ending : RunEnding}

theorem scored_of_outcome? {outcome : Except RunError ToolOutput} (h : ending.outcome? = some outcome) :
    ending.scored judge = .value (.ofPassed (judge outcome).1) := by
  cases ending <;> simp_all [outcome?, scored]

theorem torn_scored (h : ending.outcome? = none) : (ending.scored judge).Torn := by
  cases ending with
  | done outcome => cases h
  | panic message => exact ⟨nofun, nofun⟩
  | pending => exact ⟨nofun, nofun⟩

end RunEnding

namespace Grading

variable {α β : Type}

attribute [simp] pure_run

@[simp] theorem inspect_bind (f : FileSystem → α) (g : α → Grading β) (t : Trace) :
    (inspect f >>= g) t = g (f t.fs) t := rfl

@[simp] theorem emit_bind (e : Event) (g : Unit → Grading β) (t : Trace) :
    (emit e >>= g) t = g () (t.record [e]) := rfl

@[simp] theorem observe_bind (f : FileSystem → α × List Event) (g : α → Grading β) (t : Trace) :
    (observe f >>= g) t = g (f t.fs).1 (t.record (f t.fs).2) := rfl

@[simp] theorem ofExcept_ok_bind (a : α) (g : α → Grading β) (t : Trace) :
    (ofExcept (.ok a) >>= g) t = g a t := rfl

@[simp] theorem ofExcept_error_bind (e : ScoreError) (g : α → Grading β) (t : Trace) :
    ((ofExcept (.error e) : Grading α) >>= g) t = (.error e, t) := rfl

variable {m : Grading α} {f : α → Grading β} {t : Trace}

theorem bind_of_value {a : α} (h : (m t).1 = .value a) : (m >>= f) t = f a (m t).2 := by
  rw [bind_run]
  cases hm : m t with
  | mk ending s => rw [hm] at h; cases h; rfl

theorem bind_of_error {e : ScoreError} (h : (m t).1 = .error e) : (m >>= f) t = (.error e, (m t).2) := by
  rw [bind_run]
  cases hm : m t with
  | mk ending s => rw [hm] at h; cases h; rfl

theorem bind_of_torn (h : (m t).1.Torn) : ((m >>= f) t).1.Torn ∧ ((m >>= f) t).2 = (m t).2 := by
  rw [bind_run]
  cases hm : m t with
  | mk ending s =>
    rw [hm] at h
    cases ending with
    | value a => exact absurd rfl (h.1 a)
    | error e => exact absurd rfl (h.2 e)
    | panic message => exact ⟨⟨nofun, nofun⟩, rfl⟩
    | cancelled => exact ⟨⟨nofun, nofun⟩, rfl⟩

/-- What follows a scoring call happens if the tool has come back, and is given the score. -/
theorem bind_of_scored {m : Grading Score} {f : Score → Grading β} {ending : RunEnding}
    {judge : Except RunError ToolOutput → Bool × Event} (h : (m t).1 = ending.scored judge) :
    (ending.outcome? = none ∧ ((m >>= f) t).1.Torn ∧ ((m >>= f) t).2 = (m t).2) ∨
      ∃ outcome, ending.outcome? = some outcome ∧ (m >>= f) t = f (.ofPassed (judge outcome).1) (m t).2 := by
  cases ho : ending.outcome? with
  | none =>
    have htorn : (m t).1.Torn := by
      rw [h]
      exact RunEnding.torn_scored ho
    exact .inl ⟨rfl, bind_of_torn htorn⟩
  | some outcome =>
    rw [RunEnding.scored_of_outcome? ho] at h
    exact .inr ⟨outcome, rfl, bind_of_value h⟩

theorem guarded_apply (cleanup : FileSystem → FileSystem × List Event) (m : Grading α) (t : Trace) :
    guarded cleanup m t =
      ((m t).1, ⟨(cleanup (m t).2.fs).1, (m t).2.events ++ (cleanup (m t).2.fs).2, (m t).2.calls⟩) := rfl

/-- Calls a tool and scores what it answers. -/
def ask (runner : Runner) (judge : Except RunError ToolOutput → Bool × Event) (known : Bool → Event)
    (command : ToolCommand) : Grading Score := do
  let outcome ← runner.invoke command
  let (passed, event) := judge outcome
  emit event
  emit (known passed)
  return .ofPassed passed

theorem ask_apply (runner : Runner) (judge : Except RunError ToolOutput → Bool × Event) (known : Bool → Event)
    (command : ToolCommand) (t : Trace) :
    ask runner judge known command t =
      ((runner.run command t.fs).ending.scored judge,
        ⟨(runner.run command t.fs).fs,
          t.events ++ (runner.run command t.fs).events ++ (runner.run command t.fs).ending.reported judge known,
          t.calls ++ [⟨command, t.fs, (runner.run command t.fs).ending.outcome?⟩]⟩) := by
  rw [ask, bind_run, Runner.invoke]
  cases h : (runner.run command t.fs).ending with
  | done outcome => simp [RunEnding.scored, RunEnding.reported, RunEnding.outcome?, Trace.record]
  | panic message => simp [RunEnding.scored, RunEnding.reported, RunEnding.outcome?]
  | pending => simp [RunEnding.scored, RunEnding.reported, RunEnding.outcome?]

end Grading

namespace FileSystem

variable {fs : FileSystem} {cwd : Location} {p : Path}

theorem stat_of_pathExists (h : fs.pathExists cwd p) : ∃ object, fs.stat cwd p = .ok object := by
  rw [pathExists] at h
  cases hs : fs.stat cwd p with
  | error e => simp [hs, Except.isOk, Except.toBool] at h
  | ok object => exact ⟨object, rfl⟩

theorem pathExists_of_isFile (h : fs.isFile cwd p) : fs.pathExists cwd p := by
  rw [isFile] at h
  rw [pathExists]
  cases hs : fs.stat cwd p with
  | error e => simp [hs] at h
  | ok object => rfl

end FileSystem

namespace Equivalence

/-- The first of the things the differ needs that is not there. -/
def fault? (cwd : Location) (config : Config) (original generated : Path) (fs : FileSystem) : Option ScoreError :=
  if !fs.isFile cwd config.artifacts.diffJar then
    some (.missingArtifact "Alloy Diff JAR" config.artifacts.diffJar)
  else if !fs.pathExists cwd original then some (.missingInput "Original" original)
  else if !fs.pathExists cwd generated then some (.missingInput "Generated" generated)
  else none

variable {cwd : Location} {config : Config} {original generated : Path}

theorem preflight_eq (fs : FileSystem) : preflight cwd config original generated fs =
    match fault? cwd config original generated fs with
    | some e => .error e
    | none => .ok config.artifacts.diffJar := by
  rw [preflight, fault?, Artifacts.requireDiffJar, requireArtifact]
  cases fs.isFile cwd config.artifacts.diffJar with
  | false => rfl
  | true =>
    cases ho : fs.pathExists cwd original with
    | false => simp [requireInput, ho, bind, Except.bind]
    | true =>
      cases hg : fs.pathExists cwd generated <;>
        simp [requireInput, ho, hg, bind, Except.bind, pure, Except.pure]

theorem score_apply (cwd : Location) (config : Config) (runner : Runner) (original generated : Path) (t : Trace) :
    score cwd config runner original generated t =
    match fault? cwd config original generated t.fs with
    | some e => (.error e, t)
    | none => Grading.ask runner judge .equivalenceKnown
        (.moduleDiff config config.artifacts.diffJar original generated)
        (t.record [.checkingEquivalence original generated config.scope config.solver]) := by
  rw [score, Grading.inspect_bind, preflight_eq]
  cases fault? cwd config original generated t.fs <;> rfl

end Equivalence

namespace Validity

/-- What makes a check fail: the jar is missing, or it has no canonical path to be launched by. -/
def fault? (cwd : Location) (config : Config) (model : Path) (fs : FileSystem) : Option ScoreError :=
  match fs.isFile cwd config.artifacts.analyzerJar, fs.canonicalize cwd model,
    fs.canonicalize cwd config.artifacts.analyzerJar with
  | false, _, _ => some (.missingArtifact "Alloy Analyzer JAR" config.artifacts.analyzerJar)
  | true, .ok _, .error e => some (.io e)
  | true, _, _ => none

/-- A check by its three looks at the file system. -/
theorem check_apply (cwd : Location) (config : Config) (runner : Runner) (model : Path) (t : Trace) :
    check cwd config runner model t =
      match t.fs.isFile cwd config.artifacts.analyzerJar, t.fs.canonicalize cwd model,
        t.fs.canonicalize cwd config.artifacts.analyzerJar with
      | false, _, _ => (.error (.missingArtifact "Alloy Analyzer JAR" config.artifacts.analyzerJar), t)
      | true, .error e, _ => (.value (.ofPassed false), t.record [.modelUnresolved model e])
      | true, .ok _, .error e => (.error (.io e), t)
      | true, .ok path, .ok jar => Grading.guarded ((⟨config.workdir⟩ : Workdir).cleanScratch cwd)
          (Grading.ask runner judge .validityKnown (.analyzerExec config jar path config.workdir))
          (t.record [.checkingValidity path config.workdir]) := by
  rw [check, Grading.inspect_bind, Artifacts.requireAnalyzerJar, requireArtifact]
  cases t.fs.isFile cwd config.artifacts.analyzerJar with
  | false => rfl
  | true =>
    simp only [if_true, Grading.ofExcept_ok_bind, Grading.inspect_bind]
    cases t.fs.canonicalize cwd model with
    | error e => rfl
    | ok path =>
      simp only [Grading.inspect_bind]
      cases t.fs.canonicalize cwd config.artifacts.analyzerJar <;> rfl

/-- The three ways of a check: it fails, or the model has no canonical path, or the analyzer is asked while the
workdir is guarded. -/
theorem check_cases (cwd : Location) (config : Config) (runner : Runner) (model : Path) (t : Trace) :
    (∃ e, fault? cwd config model t.fs = some e ∧ check cwd config runner model t = (.error e, t)) ∨
    (fault? cwd config model t.fs = none ∧ ∃ e, t.fs.canonicalize cwd model = .error e ∧
      check cwd config runner model t = (.value (.ofPassed false), t.record [.modelUnresolved model e])) ∨
    (fault? cwd config model t.fs = none ∧ ∃ jar path,
      t.fs.canonicalize cwd config.artifacts.analyzerJar = .ok jar ∧ t.fs.canonicalize cwd model = .ok path ∧
      check cwd config runner model t = Grading.guarded ((⟨config.workdir⟩ : Workdir).cleanScratch cwd)
        (Grading.ask runner judge .validityKnown (.analyzerExec config jar path config.workdir))
        (t.record [.checkingValidity path config.workdir])) := by
  rw [check_apply, fault?]
  cases t.fs.isFile cwd config.artifacts.analyzerJar with
  | false => exact .inl ⟨_, rfl, rfl⟩
  | true =>
    cases t.fs.canonicalize cwd model with
    | error e => exact .inr (.inl ⟨rfl, e, rfl, rfl⟩)
    | ok path =>
      cases t.fs.canonicalize cwd config.artifacts.analyzerJar with
      | error e => exact .inl ⟨_, rfl, rfl⟩
      | ok jar => exact .inr (.inr ⟨rfl, jar, path, rfl, rfl, rfl⟩)

/-- A check fails for want of the jar, or because the jar has no canonical path where the model has one. -/
theorem fault?_eq_some_cases {cwd : Location} {config : Config} {model : Path} {fs : FileSystem} {e : ScoreError}
    (h : fault? cwd config model fs = some e) :
    fs.isFile cwd config.artifacts.analyzerJar = false ∧
        e = .missingArtifact "Alloy Analyzer JAR" config.artifacts.analyzerJar ∨
      ∃ reason, e = .io reason ∧ fs.isFile cwd config.artifacts.analyzerJar ∧
        fs.canonicalize cwd config.artifacts.analyzerJar = .error reason ∧
        fs.Unspellable cwd config.artifacts.analyzerJar reason := by
  rw [fault?] at h
  split at h
  · rename_i hfile
    cases h
    exact .inl ⟨hfile, rfl⟩
  · rename_i reason hfile _ hjar
    cases h
    obtain ⟨object, hstat⟩ := FileSystem.stat_of_pathExists (FileSystem.pathExists_of_isFile hfile)
    exact .inr ⟨reason, rfl, hfile, hjar, FileSystem.unspellable_of_canonicalize (FileSystem.denoted_of_find hstat) hjar⟩
  · cases h

theorem fault?_eq_none_iff {cwd : Location} {config : Config} {model : Path} {fs : FileSystem} :
    fault? cwd config model fs = none ↔ fs.isFile cwd config.artifacts.analyzerJar ∧
      ((∃ e, fs.canonicalize cwd model = .error e) ∨
        ∃ jar, fs.canonicalize cwd config.artifacts.analyzerJar = .ok jar) := by
  rw [fault?]
  cases fs.isFile cwd config.artifacts.analyzerJar <;> cases fs.canonicalize cwd model <;>
    cases fs.canonicalize cwd config.artifacts.analyzerJar <;> simp

end Validity

namespace Pipeline

/-- The last part of a run, in which the models are digested and the report is made. -/
def conclude (cwd : Location) (timing : Timing) (original generated : Path) (validity : Option Score)
    (equivalence : Score) : Grading Report := do
  let originalDigest ← Grading.observe (ModelDigest.ofFile cwd · original)
  let generatedDigest ← Grading.observe (ModelDigest.ofFile cwd · generated)
  Grading.emit (.runComplete (validity.map Score.passed) equivalence.passed timing.durationMs.toNat)
  return ⟨originalDigest, generatedDigest, validity, equivalence, timing.startedAt, timing.durationMs⟩

/-- The report on two models as they are in a file system. -/
def reportOn (cwd : Location) (timing : Timing) (original generated : Path) (fs : FileSystem)
    (validity : Option Score) (equivalence : Score) : Report :=
  ⟨(ModelDigest.ofFile cwd fs original).1, (ModelDigest.ofFile cwd fs generated).1, validity, equivalence,
    timing.startedAt, timing.durationMs⟩

variable {cwd : Location} {config : Config} {runner : Runner} {timing : Timing} {original generated : Path}
  {mode : Mode}

theorem conclude_apply (cwd : Location) (timing : Timing) (original generated : Path) (validity : Option Score)
    (equivalence : Score) (t : Trace) :
    ∃ events, conclude cwd timing original generated validity equivalence t =
      (.value (reportOn cwd timing original generated t.fs validity equivalence), t.record events) := by
  refine ⟨(ModelDigest.ofFile cwd t.fs original).2 ++ (ModelDigest.ofFile cwd t.fs generated).2 ++
    [.runComplete (validity.map Score.passed) equivalence.passed timing.durationMs.toNat], ?_⟩
  simp [conclude, Trace.record, reportOn]

/-- A run checks what the differ needs, then scores validity, then compares the models and reports. -/
theorem run_apply (t : Trace) : run cwd config runner timing original generated mode t =
    match Equivalence.fault? cwd config original generated t.fs with
    | some e => (.error e, t.record [.runStarted mode])
    | none => (validity cwd config runner generated mode >>= fun valid =>
        Equivalence.score cwd config runner original generated >>= conclude cwd timing original generated valid)
          (t.record [.runStarted mode]) := by
  rw [run, Grading.emit_bind, Grading.inspect_bind, Equivalence.preflight_eq]
  cases h : Equivalence.fault? cwd config original generated t.fs <;>
    simp only [Trace.record, h] <;> rfl

/-- The first half of a run that checks the generated model: the check fails, or the model has no canonical path and
scores nothing, or the analyzer is asked. It may not come back, or it gives the score, and either way the scratch
directories are gone afterwards. -/
theorem validity_combined_cases (cwd : Location) (config : Config) (runner : Runner) (generated : Path) (t : Trace) :
    let half := validity cwd config runner generated .combined t
    (∃ e, Validity.fault? cwd config generated t.fs = some e ∧ half = (.error e, t)) ∨
    (Validity.fault? cwd config generated t.fs = none ∧ ∃ e, t.fs.canonicalize cwd generated = .error e ∧
      half = (.value (some (.ofPassed false)), t.record [.modelUnresolved generated e])) ∨
    (Validity.fault? cwd config generated t.fs = none ∧ ∃ jar path,
      t.fs.canonicalize cwd config.artifacts.analyzerJar = .ok jar ∧ t.fs.canonicalize cwd generated = .ok path ∧
      let command := ToolCommand.analyzerExec config jar path config.workdir
      let answer := runner.run command t.fs
      half.2.fs = ((⟨config.workdir⟩ : Workdir).cleanScratch cwd answer.fs).1 ∧
      half.2.calls = t.calls ++ [⟨command, t.fs, answer.ending.outcome?⟩] ∧
      (answer.ending.outcome? = none ∧ half.1.Torn ∨
        ∃ outcome, answer.ending.outcome? = some outcome ∧
          half.1 = .value (some (.ofPassed (Validity.judge outcome).1)))) := by
  intro half
  rcases Validity.check_cases cwd config runner generated t with
    ⟨e, he, hc⟩ | ⟨hf, e, he, hc⟩ | ⟨hf, jar, path, hjar, hpath, hc⟩
  · refine .inl ⟨e, he, ?_⟩
    have hb : half = _ := Grading.bind_of_error (congrArg Prod.fst hc)
    rw [hb, hc]
  · refine .inr (.inl ⟨hf, e, he, ?_⟩)
    have hb : half = _ := Grading.bind_of_value (congrArg Prod.fst hc)
    rw [hb, hc]
    rfl
  · refine .inr (.inr ⟨hf, jar, path, hjar, hpath, ?_⟩)
    intro command answer
    rw [Grading.guarded_apply, Grading.ask_apply] at hc
    have hending : (Validity.check cwd config runner generated t).1 = answer.ending.scored Validity.judge := by
      rw [hc]
      rfl
    rcases Grading.bind_of_scored (f := fun score => pure (some score)) hending with
      ⟨ho, ht, hs⟩ | ⟨outcome, ho, hb⟩
    · have hs : half.2 = _ := hs
      rw [hs, hc]
      exact ⟨rfl, rfl, .inl ⟨ho, ht⟩⟩
    · have hb : half = _ := hb
      rw [hb, hc]
      exact ⟨rfl, rfl, .inr ⟨outcome, ho, rfl⟩⟩

/-- The second half of a run: the differ is not asked, does not come back, or gives the score. -/
theorem compare_cases (cwd : Location) (config : Config) (runner : Runner) (timing : Timing)
    (original generated : Path) (valid : Option Score) (t : Trace) :
    let command := ToolCommand.moduleDiff config config.artifacts.diffJar original generated
    let answer := runner.run command t.fs
    let half := (Equivalence.score cwd config runner original generated >>=
      conclude cwd timing original generated valid) t
    (∃ e, Equivalence.fault? cwd config original generated t.fs = some e ∧ half = (.error e, t)) ∨
    (Equivalence.fault? cwd config original generated t.fs = none ∧ half.2.fs = answer.fs ∧
      half.2.calls = t.calls ++ [⟨command, t.fs, answer.ending.outcome?⟩] ∧
      (answer.ending.outcome? = none ∧ half.1.Torn ∨
        ∃ outcome, answer.ending.outcome? = some outcome ∧ half.1 = .value
          (reportOn cwd timing original generated answer.fs valid (.ofPassed (Equivalence.judge outcome).1)))) := by
  intro command answer half
  have hscore := Equivalence.score_apply cwd config runner original generated t
  cases hf : Equivalence.fault? cwd config original generated t.fs with
  | some e =>
    refine .inl ⟨e, rfl, ?_⟩
    simp only [hf] at hscore
    have hb : half = _ := Grading.bind_of_error (congrArg Prod.fst hscore)
    rw [hb, hscore]
  | none =>
    refine .inr ⟨rfl, ?_⟩
    simp only [hf, Grading.ask_apply] at hscore
    have hending : (Equivalence.score cwd config runner original generated t).1 =
        answer.ending.scored Equivalence.judge := by
      rw [hscore]
      rfl
    rcases Grading.bind_of_scored (f := conclude cwd timing original generated valid) hending with
      ⟨ho, ht, hs⟩ | ⟨outcome, ho, hb⟩
    · have hs : half.2 = _ := hs
      rw [hs, hscore]
      exact ⟨rfl, rfl, .inl ⟨ho, ht⟩⟩
    · have hb : half = _ := hb
      obtain ⟨events, hconclude⟩ := conclude_apply cwd timing original generated valid
        (.ofPassed (Equivalence.judge outcome).1) (Equivalence.score cwd config runner original generated t).2
      rw [hb, hconclude, hscore]
      exact ⟨rfl, rfl, .inr ⟨outcome, ho, rfl⟩⟩

end Pipeline

end AlloyGrade
