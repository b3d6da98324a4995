import AlloyGrade.Proofs.Grading.Decisions
import AlloyGrade.Proofs.Scratch
import AlloyGrade.Proofs.Verdict
import Mathlib.Data.List.Forall2

/-! The log of a scoring run. It tells of the tools in the order in which they were called: each call is announced,
then its answer and its score are reported, and after the analyzer what became of the scratch directories. A model
that cannot be handed to the analyzer has one line instead. A run that ends with a report closes its log with the
models that could not be digested and the scores. The log holds nothing else. -/

namespace AlloyGrade

open Event (Shown)

/-! ### What the log says -/

/-- The words in which the log tells of a tool. -/
structure Wording where
  tool : String
  checking : String
  finished : String
  incomplete : String
  complete : String
  /-- The field that holds whether the check has passed. -/
  passed : String
  details : ToolOutput → List (String × FieldValue)
  /-- What an answer says, if the check is to pass. -/
  Passes : Except RunError ToolOutput → Prop

namespace Wording

def analyzer : Wording where
  tool := "analyzer_exec"
  checking := "Checking syntax"
  finished := "Analyzer finished"
  incomplete := "Analyzer did not complete, scoring as invalid"
  complete := "Syntax check complete"
  passed := "valid"
  details output :=
    [("exit_code", .int output.exitCode), ("stdout", .text output.stdout), ("stderr", .text output.stderr)]
  Passes := Validity.Accepted

def differ : Wording where
  tool := "module_diff"
  checking := "Checking equivalence"
  finished := "Module differ finished"
  incomplete := "Module differ did not complete, scoring as not equivalent"
  complete := "Equivalence check complete"
  passed := "equivalent"
  details output := [("exit_code", .int output.exitCode), ("output", .text output.combined)]
  Passes := Equivalence.Declared

def answer (w : Wording) : Except RunError ToolOutput → Shown
  | .ok output => (.debug, w.finished, w.details output)
  | .error e => (.warn, w.incomplete, [("error", .text e.message)])

/-- The lines on one call: it is announced, the runner has its say, and the answer and the score are reported. -/
structure Tells (w : Wording) (runner : Runner) (call : Call) (score : Score) (lines : List Shown) : Prop where
  name : call.command.name = w.tool
  lines_eq : ∃ subject outcome, call.outcome = some outcome ∧ score.Marks (w.Passes outcome) ∧
    lines = (.info, w.checking, subject) :: (runner.run call.command call.before).events.map Event.shown ++
      [w.answer outcome, (.info, w.complete, [(w.passed, .flag score.passed)])]

end Wording

/-- The lines on the removal of a scratch directory: one if there was one to remove, or if this failed, and none if the
path leads nowhere. -/
inductive Workdir.Tells (cwd : Location) (fs : FileSystem) (p : Path) : List Shown → Prop
  | removed {loc : Location} (h : scratchAt cwd fs p = some loc) :
      Tells cwd fs p [(.debug, "Removed scratch directory", [("path", .text p.display)])]
  | absent (h : fs.find cwd false p = .error .noEntry) : Tells cwd fs p []
  | kept (e : IoError) (h : scratchAt cwd fs p = none) : Tells cwd fs p
      [(.warn, "Failed to remove scratch directory", [("path", .text p.display), ("error", .text e.message)])]

/-- The lines on a call of either tool, and the score they report. The scratch directories come after the analyzer,
`tmp` first. -/
inductive Call.Tells (cwd : Location) (config : Config) (runner : Runner) (call : Call) : Score × List Shown → Prop
  | analyzer {score : Score} {lines tmp output : List Shown} (h : Wording.analyzer.Tells runner call score lines)
      (htmp : Workdir.Tells cwd (runner.run call.command call.before).fs (config.workdir.join (.ofString "tmp")) tmp)
      (houtput : Workdir.Tells cwd
        (Workdir.removeScratch cwd (runner.run call.command call.before).fs (config.workdir.join (.ofString "tmp"))).1
        (config.workdir.join (.ofString "output")) output) :
      Tells cwd config runner call (score, lines ++ tmp ++ output)
  | differ {score : Score} {lines : List Shown} (h : Wording.differ.Tells runner call score lines) :
      Tells cwd config runner call (score, lines)

/-- The lines on the digest of a model: one if it has none. -/
inductive ModelDigest.Tells (d : ModelDigest) : List Shown → Prop
  | digested {digest : String} (h : d.sha256 = some digest) : Tells d []
  | missing (e : IoError) (h : d.sha256 = none) :
      Tells d [(.warn, "Model not digested", [("path", .text d.path.display), ("error", .text e.message)])]

/-- The last line of a run with a report. -/
def Report.lastLine (r : Report) : Shown :=
  (.info, "Scoring run complete", [("syntax_valid", .text (Event.optionalFlag (r.validity.map Score.passed))),
    ("equivalent", .flag r.equivalence.passed), ("duration_ms", .int r.durationMs.toNat)])

/-- The line on a model that cannot be handed to the analyzer. -/
def unresolvedLine (model : Path) (e : IoError) : Shown :=
  (.warn, "Model not resolvable, scoring as invalid", [("model", .text model.display), ("error", .text e.message)])

/-- Why the generated model of a run that is not refused cannot be handed to the analyzer, if so. -/
def Pipeline.unresolved? (cwd : Location) (config : Config) (original generated : Path) (mode : Mode)
    (fs : FileSystem) : Option IoError :=
  if mode = .combined ∧ fault? cwd config original generated mode fs = none then
    match fs.canonicalize cwd generated with
    | .error e => some e
    | .ok _ => none
  else none

/-! ### From one trace to the next -/

/-- What was added to a trace are the lines on the calls that were made in the meantime; their scores are given. -/
def Trace.Tells (cwd : Location) (config : Config) (runner : Runner) (t u : Trace) (scores : List Score) : Prop :=
  ∃ calls parts, u.calls = t.calls ++ calls ∧
    u.events.map Event.shown = t.events.map Event.shown ++ (parts.map Prod.snd).flatten ∧
    List.Forall₂ (Call.Tells cwd config runner) calls parts ∧ parts.map Prod.fst = scores

variable {cwd : Location} {config : Config} {runner : Runner} {timing : Timing} {original generated : Path}

namespace Trace.Tells

theorem refl (t : Trace) : Tells cwd config runner t t [] := ⟨[], [], by simp, by simp, .nil, rfl⟩

theorem record_nil (t : Trace) : Tells cwd config runner (t.record []) t [] :=
  ⟨[], [], by simp [record], by simp [record], .nil, rfl⟩

theorem trans {t u v : Trace} {scores scores' : List Score} (h : Tells cwd config runner t u scores)
    (h' : Tells cwd config runner u v scores') : Tells cwd config runner t v (scores ++ scores') := by
  obtain ⟨calls, parts, hcalls, hevents, hparts, hscores⟩ := h
  obtain ⟨calls', parts', hcalls', hevents', hparts', hscores'⟩ := h'
  refine ⟨calls ++ calls', parts ++ parts', ?_, ?_, List.rel_append hparts hparts', ?_⟩
  · rw [hcalls', hcalls, List.append_assoc]
  · rw [hevents', hevents, List.map_append, List.flatten_append, List.append_assoc]
  · rw [List.map_append, hscores, hscores']

end Trace.Tells

/-! ### No other lines -/

theorem Wording.Tells.message_mem {w : Wording} {call : Call} {score : Score} {lines : List Shown}
    (h : w.Tells runner call score lines) (hsilent : (runner.run call.command call.before).events = []) :
    ∀ line ∈ lines, line.2.1 ∈ [w.checking, w.finished, w.incomplete, w.complete] := by
  obtain ⟨subject, outcome, -, -, rfl⟩ := h.lines_eq
  cases outcome <;> simp [hsilent, answer]

theorem Workdir.Tells.message_mem {fs : FileSystem} {p : Path} {lines : List Shown} (h : Tells cwd fs p lines) :
    ∀ line ∈ lines, line.2.1 ∈ ["Removed scratch directory", "Failed to remove scratch directory"] := by
  cases h <;> simp

theorem Call.Tells.message_ne {call : Call} {part : Score × List Shown} (h : call.Tells cwd config runner part)
    (hsilent : (runner.run call.command call.before).events = []) :
    ∀ line ∈ part.2, line.2.1 ≠ "Scoring run complete" := by
  intro line hline hmessage
  cases h with
  | analyzer h htmp houtput =>
    rcases List.mem_append.mp hline with hline | hline
    · rcases List.mem_append.mp hline with hline | hline
      · have := h.message_mem hsilent line hline
        simp [hmessage, Wording.analyzer] at this
      · have := htmp.message_mem line hline
        simp [hmessage] at this
    · have := houtput.message_mem line hline
      simp [hmessage] at this
  | differ h =>
    have := h.message_mem hsilent line hline
    simp [hmessage, Wording.differ] at this

/-- While a silent runner is at work, the log does not say that the run is complete. -/
theorem Call.message_ne_of_tells (hsilent : ∀ command fs, (runner.run command fs).events = []) {calls : List Call}
    {parts : List (Score × List Shown)} (h : List.Forall₂ (Call.Tells cwd config runner) calls parts) :
    ∀ line ∈ (parts.map Prod.snd).flatten, line.2.1 ≠ "Scoring run complete" := by
  induction h with
  | nil => simp
  | cons hpart _ ih =>
    intro line hline
    rw [List.map_cons, List.flatten_cons, List.mem_append] at hline
    exact hline.elim (hpart.message_ne (hsilent _ _) line) (ih line)

/-! ### Scoring calls -/

theorem Workdir.tells_removeScratch (fs : FileSystem) {root p : Path} (hp : root.IsChild p) :
    Tells cwd fs p ((removeScratch cwd fs p).2.map Event.shown) := by
  rw [removeScratch_eq hp]
  cases hfind : fs.find cwd false p with
  | error e =>
    have hnone : scratchAt cwd fs p = none := by rw [scratchAt, hfind]
    by_cases he : e = .noEntry
    · simp only [he, if_true, List.map_nil]
      exact .absent (he ▸ hfind)
    · simp only [he, if_false]
      exact .kept e hnone
  | ok found =>
    obtain ⟨loc, entry⟩ := found
    by_cases hkind : entry.isDirOrLink
    · have hsome : scratchAt cwd fs p = some loc := scratchAt_eq_some_iff.mpr ⟨entry, hfind, hkind⟩
      cases entry with
      | dir | link target => exact .removed hsome
      | _ => cases hkind
    · have hnone := (scratchAt_eq_none_of_find hfind).mpr (by simpa using hkind)
      cases entry with
      | dir | link target => simp [Entry.isDirOrLink] at hkind
      | _ => exact .kept .notDirectory hnone

theorem ModelDigest.tells_ofFile (fs : FileSystem) (p : Path) :
    (ofFile cwd fs p).1.Tells ((ofFile cwd fs p).2.map Event.shown) := by
  rw [ofFile]
  cases (hashFile cwd p fs).1 with
  | ok digest => exact .digested rfl
  | error e => exact .missing e rfl

/-- A tool that comes back gives a score, and the log grows by what the runner and the tool have said. -/
theorem Grading.ask_of_done {judge : Except RunError ToolOutput → Bool × Event} {known : Bool → Event}
    {command : ToolCommand} {t : Trace} {outcome : Except RunError ToolOutput}
    (h : (runner.run command t.fs).ending = .done outcome) :
    ask runner judge known command t = (.value (.ofPassed (judge outcome).1), ⟨(runner.run command t.fs).fs,
      t.events ++ (runner.run command t.fs).events ++ [(judge outcome).2, known (judge outcome).1],
      t.calls ++ [⟨command, t.fs, some outcome⟩]⟩) := by
  rw [ask_apply, h]
  rfl

/-- The events by which a tool's answers are reported are shown in these words. -/
structure Wording.Voices (w : Wording) (judge : Except RunError ToolOutput → Bool × Event) (known : Bool → Event) :
    Prop where
  answer_eq (outcome : Except RunError ToolOutput) : (judge outcome).2.shown = w.answer outcome
  known_eq (passed : Bool) : (known passed).shown = (.info, w.complete, [(w.passed, .flag passed)])
  passes_iff (outcome : Except RunError ToolOutput) : (judge outcome).1 = true ↔ w.Passes outcome

theorem Validity.voices : Wording.analyzer.Voices judge .validityKnown where
  answer_eq outcome := by cases outcome <;> rfl
  known_eq _ := rfl
  passes_iff := judge_fst_iff

theorem Equivalence.voices : Wording.differ.Voices judge .equivalenceKnown where
  answer_eq outcome := by cases outcome <;> rfl
  known_eq _ := rfl
  passes_iff := judge_fst_iff

theorem Score.passed_ofPassed (passed : Bool) : (ofPassed passed).passed = passed := by cases passed <;> rfl

/-- A tool that is announced and asked is told of. -/
theorem Wording.tells_ask {w : Wording} {judge : Except RunError ToolOutput → Bool × Event} {known : Bool → Event}
    (hw : w.Voices judge known) (hr : runner.Returns) (command : ToolCommand) (hname : command.name = w.tool)
    (announced : Event) {subject : List (String × FieldValue)}
    (hannounced : announced.shown = (.info, w.checking, subject)) (t : Trace) :
    let asked := Grading.ask runner judge known command (t.record [announced])
    ∃ call score lines, call.command = command ∧ call.before = t.fs ∧ w.Tells runner call score lines ∧
      asked.1 = .value score ∧ asked.2.fs = (runner.run command t.fs).fs ∧ asked.2.calls = t.calls ++ [call] ∧
      asked.2.events.map Event.shown = t.events.map Event.shown ++ lines := by
  intro asked
  obtain ⟨outcome, hdone⟩ := hr command t.fs
  have hasked : asked = _ := Grading.ask_of_done hdone
  refine ⟨⟨command, t.fs, some outcome⟩, .ofPassed (judge outcome).1, _, rfl, rfl,
    ⟨hname, subject, outcome, rfl, Score.marks_ofPassed (hw.passes_iff outcome), rfl⟩, ?_⟩
  rw [hasked]
  refine ⟨rfl, rfl, rfl, ?_⟩
  simp [Trace.record, hannounced, hw.answer_eq, hw.known_eq, Score.passed_ofPassed]

theorem Workdir.cleanScratch_snd (w : Workdir) (fs : FileSystem) :
    (w.cleanScratch cwd fs).2 = (removeScratch cwd fs (w.root.join (.ofString "tmp"))).2 ++
      (removeScratch cwd (removeScratch cwd fs (w.root.join (.ofString "tmp"))).1
        (w.root.join (.ofString "output"))).2 := by
  rw [cleanScratch_eq_sweep, scratchPaths]
  simp [scratchNames]

/-- A check fails before it has done anything, or tells that the model cannot be handed over, or tells of one call. -/
theorem Validity.tells_check (cwd : Location) (config : Config) (hr : runner.Returns) (model : Path) (t : Trace) :
    let checked := check cwd config runner model t
    (∃ e, fault? cwd config model t.fs = some e ∧ checked = (.error e, t)) ∨
      (fault? cwd config model t.fs = none ∧ ∃ e, t.fs.canonicalize cwd model = .error e ∧
        checked = (.value ⟨0, 1⟩, t.record [.modelUnresolved model e])) ∨
      ∃ path score, t.fs.canonicalize cwd model = .ok path ∧ checked.1 = .value score ∧
        t.Tells cwd config runner checked.2 [score] := by
  intro checked
  rcases check_cases cwd config runner model t with
    ⟨e, he, hcheck⟩ | ⟨hf, e, he, hcheck⟩ | ⟨-, jar, path, -, hpath, hcheck⟩
  · exact .inl ⟨e, he, hcheck⟩
  · exact .inr (.inl ⟨hf, e, he, hcheck⟩)
  · obtain ⟨call, score, lines, hcommand, hbefore, htells, hvalue, hfs, hcalls, hevents⟩ :=
      Wording.tells_ask voices hr (.analyzerExec config jar path config.workdir) rfl
        (.checkingValidity path config.workdir) rfl t
    have hscratch := (⟨config.workdir⟩ : Workdir).scratchPaths_isChild
    have hchecked : checked = _ := hcheck
    rw [Grading.guarded_apply] at hchecked
    rw [hchecked]
    refine .inr (.inr ⟨path, score, hpath, hvalue, [call], [(score, lines ++ _ ++ _)], hcalls, ?_,
      .cons (.analyzer htells (Workdir.tells_removeScratch _ (hscratch _ (.head _)))
        (Workdir.tells_removeScratch _ (hscratch _ (.tail _ (.head _))))) .nil, rfl⟩)
    rw [List.map_append, hevents, hfs, Workdir.cleanScratch_snd, hcommand, hbefore]
    simp

/-- A comparison fails before it has done anything, or tells of one call. -/
theorem Equivalence.tells_score (config : Config) (hr : runner.Returns) (original generated : Path) (t : Trace) :
    let scored := score cwd config runner original generated t
    (∃ e, scored = (.error e, t)) ∨
      ∃ score, scored.1 = .value score ∧ t.Tells cwd config runner scored.2 [score] := by
  intro scored
  have hscored : scored = _ := score_apply cwd config runner original generated t
  cases hfault : fault? cwd config original generated t.fs with
  | some e =>
    simp only [hfault] at hscored
    exact .inl ⟨e, hscored⟩
  | none =>
    simp only [hfault] at hscored
    obtain ⟨call, score, lines, -, -, htells, hvalue, -, hcalls, hevents⟩ :=
      Wording.tells_ask voices hr (.moduleDiff config config.artifacts.diffJar original generated) rfl
        (.checkingEquivalence original generated config.scope config.solver) rfl t
    rw [hscored]
    exact .inr ⟨score, hvalue, [call], [(score, lines)], hcalls, by simpa using hevents,
      .cons (.differ htells) .nil, rfl⟩

namespace Pipeline

/-- The first half of a run fails before it has done anything, or tells of its calls, once it has told that the model
cannot be handed over. -/
theorem tells_validity (config : Config) (hr : runner.Returns) {t : Trace}
    (hf : Equivalence.fault? cwd config original generated t.fs = none) (mode : Mode) :
    let half := validity cwd config runner generated mode t
    let unresolved := unresolved? cwd config original generated mode t.fs
    (∃ e, half = (.error e, t) ∧ unresolved = none) ∨
      ∃ valid scores, half.1 = .value valid ∧ valid.toList = unresolved.toList.map (fun _ => ⟨0, 1⟩) ++ scores ∧
        (t.record (unresolved.toList.map (.modelUnresolved generated))).Tells cwd config runner half.2 scores := by
  intro half unresolved
  cases mode with
  | equivalenceOnly =>
    rw [show unresolved = none from if_neg nofun]
    exact .inr ⟨none, [], rfl, rfl, .record_nil t⟩
  | combined =>
    have hunresolved : unresolved = if Validity.fault? cwd config generated t.fs = none then
        match t.fs.canonicalize cwd generated with
        | .error e => some e
        | .ok _ => none
      else none := by
      simp only [unresolved, unresolved?, fault?, hf, Option.none_or, if_true, true_and]
    rcases Validity.tells_check cwd config hr generated t with
      ⟨e, he, hcheck⟩ | ⟨hnone, e, he, hcheck⟩ | ⟨path, score, hpath, hvalue, htells⟩
    · have hhalf : half = _ := Grading.bind_of_error (congrArg Prod.fst hcheck)
      rw [hhalf, hcheck, hunresolved, he]
      exact .inl ⟨e, rfl, if_neg (Option.some_ne_none e)⟩
    · have hhalf : half = _ := Grading.bind_of_value (congrArg Prod.fst hcheck)
      rw [hnone, if_pos rfl, he] at hunresolved
      rw [hhalf, hcheck, hunresolved]
      exact .inr ⟨_, [], rfl, rfl, .refl _⟩
    · have hhalf : half = _ := Grading.bind_of_value hvalue
      rw [hpath] at hunresolved
      rw [hhalf, show unresolved = none from hunresolved.trans (ite_self none)]
      exact .inr ⟨some score, [score], rfl, rfl, (Trace.Tells.record_nil t).trans htells⟩

/-- The last lines of a run. -/
theorem tells_conclude (t : Trace) (validity : Option Score) (equivalence : Score) :
    let concluded := conclude cwd timing original generated validity equivalence t
    ∃ report before after, concluded.1 = .value report ∧ report.validity = validity ∧ report.equivalence = equivalence ∧
      report.original.Tells before ∧ report.generated.Tells after ∧ concluded.2.calls = t.calls ∧
      concluded.2.events.map Event.shown = t.events.map Event.shown ++ (before ++ after ++ [report.lastLine]) := by
  refine ⟨_, _, _, rfl, rfl, rfl, ModelDigest.tells_ofFile t.fs original, ModelDigest.tells_ofFile t.fs generated,
    rfl, ?_⟩
  have hevents : (conclude cwd timing original generated validity equivalence t).2.events =
      t.events ++ (ModelDigest.ofFile cwd t.fs original).2 ++ (ModelDigest.ofFile cwd t.fs generated).2 ++
        [.runComplete (validity.map Score.passed) equivalence.passed timing.durationMs.toNat] := rfl
  rw [hevents]
  simp only [List.map_append, List.append_assoc]
  rfl

/-- Where the log stands when the first tool is called. -/
def firstLines (cwd : Location) (config : Config) (original generated : Path) (mode : Mode) (fs : FileSystem) : Trace :=
  ((Trace.start fs).record [.runStarted mode]).record
    ((unresolved? cwd config original generated mode fs).toList.map (.modelUnresolved generated))

section FirstLines

variable (cwd : Location) (config : Config) (original generated : Path) (mode : Mode) (fs : FileSystem)

theorem shown_firstLines : (firstLines cwd config original generated mode fs).events.map Event.shown =
    (.info, "Starting scoring run", [("mode", .text mode.label)]) ::
      (unresolved? cwd config original generated mode fs).toList.map (unresolvedLine generated) := by
  simp only [firstLines, Trace.record, Trace.start, List.nil_append, List.map_append, List.map_map]
  rfl

theorem message_ne_firstLines : ∀ line ∈ (firstLines cwd config original generated mode fs).events.map Event.shown,
    line.2.1 ≠ "Scoring run complete" := by
  intro line hline hmessage
  rw [shown_firstLines] at hline
  rcases List.mem_cons.mp hline with rfl | hline
  · simp at hmessage
  · obtain ⟨e, -, rfl⟩ := List.mem_map.mp hline
    simp [unresolvedLine] at hmessage

end FirstLines

theorem unresolved?_of_fault? {mode : Mode} {fs : FileSystem} {e : ScoreError}
    (h : fault? cwd config original generated mode fs = some e) :
    unresolved? cwd config original generated mode fs = none := by
  rw [unresolved?, h]
  exact if_neg nofun

/-- What a run adds to its first lines. -/
theorem tells_run (cwd : Location) (config : Config) (hr : runner.Returns) (timing : Timing)
    (original generated : Path) (mode : Mode) (fs : FileSystem) :
    let unresolved := unresolved? cwd config original generated mode fs
    let first := firstLines cwd config original generated mode fs
    let result := run cwd config runner timing original generated mode (.start fs)
    (∃ e scores, result.1 = .error e ∧ first.Tells cwd config runner result.2 scores) ∨
      ∃ report scores last before after, result.1 = .value report ∧
        report.validity.toList ++ [report.equivalence] = unresolved.toList.map (fun _ => ⟨0, 1⟩) ++ scores ∧
        first.Tells cwd config runner last scores ∧
        report.original.Tells before ∧ report.generated.Tells after ∧ result.2.calls = last.calls ∧
        result.2.events.map Event.shown = last.events.map Event.shown ++ (before ++ after ++ [report.lastLine]) := by
  intro unresolved first result
  have hresult : result = _ := run_apply (.start fs)
  have hfirst : first = ((Trace.start fs).record [.runStarted mode]).record
      (unresolved.toList.map (.modelUnresolved generated)) := rfl
  cases hfault : Equivalence.fault? cwd config original generated (Trace.start fs).fs with
  | some e =>
    have hnone : unresolved = none := by
      refine unresolved?_of_fault? (e := e) ?_
      rw [fault?, show Equivalence.fault? cwd config original generated fs = some e from hfault]
      rfl
    simp only [hfault] at hresult
    rw [hresult, hfirst, hnone]
    exact .inl ⟨e, [], rfl, .record_nil _⟩
  | none =>
    simp only [hfault] at hresult
    let started := (Trace.start fs).record [.runStarted mode]
    rcases tells_validity config (t := started) hr hfault mode with
      ⟨e, he, hnone⟩ | ⟨valid, scores, hvalid, hscores, hhalf⟩
    · have hnone : unresolved = none := hnone
      rw [Grading.bind_of_error (congrArg Prod.fst he), he] at hresult
      rw [hresult, hfirst, hnone]
      exact .inl ⟨e, [], rfl, .record_nil _⟩
    rw [Grading.bind_of_value hvalid] at hresult
    rcases Equivalence.tells_score config hr original generated
      (validity cwd config runner generated mode started).2 with ⟨e, he⟩ | ⟨score, hscore, hsecond⟩
    · rw [Grading.bind_of_error (congrArg Prod.fst he), he] at hresult
      rw [hresult]
      exact .inl ⟨e, scores, rfl, hhalf⟩
    rw [Grading.bind_of_value hscore] at hresult
    obtain ⟨report, before, after, hreport, rfl, rfl, hbefore, hafter, hcalls, hevents⟩ :=
      tells_conclude (Equivalence.score cwd config runner original generated
        (validity cwd config runner generated mode started).2).2 valid score
    rw [hresult]
    refine .inr ⟨report, scores ++ [report.equivalence], _, before, after, hreport, ?_, hhalf.trans hsecond, hbefore,
      hafter, hcalls, hevents⟩
    rw [hscores, List.append_assoc]
    rfl

theorem unresolved?_eq_some_iff {mode : Mode} {fs : FileSystem} {e : IoError} :
    unresolved? cwd config original generated mode fs = some e ↔
      mode = .combined ∧ fault? cwd config original generated mode fs = none ∧
        fs.canonicalize cwd generated = .error e := by
  rw [unresolved?, ← and_assoc]
  cases fs.canonicalize cwd generated <;> simp

/-- A generated model that cannot be handed over is there, but has no canonical path. -/
theorem unspellable_of_unresolved? {mode : Mode} {fs : FileSystem} {e : IoError}
    (h : unresolved? cwd config original generated mode fs = some e) :
    fs.pathExists cwd generated ∧ fs.Unspellable cwd generated e := by
  obtain ⟨-, hfault, hcanon⟩ := unresolved?_eq_some_iff.mp h
  have hexists := (equivalence_fault?_eq_none_iff.mp (fault?_eq_none_iff.mp hfault).1).2.2
  obtain ⟨object, hstat⟩ := FileSystem.stat_of_pathExists hexists
  exact ⟨hexists, FileSystem.unspellable_of_canonicalize (FileSystem.denoted_of_find hstat) hcanon⟩

section Unresolved

variable {mode : Mode} {fs left : FileSystem} {calls : List Call} {e : IoError}
  (he : fs.canonicalize cwd generated = .error e)
include he

theorem FirstHalf.calls_eq_nil {valid? : Option (Option Score)}
    (h : FirstHalf cwd config runner generated fs mode valid? left calls) : calls = [] := by
  cases h with
  | skipped | unresolved => rfl
  | asked _ hpath => exact absurd (he.symm.trans hpath) nofun

/-- The differ alone is called if the generated model cannot be handed to the analyzer. -/
theorem Course.differ_alone {ending : Ending Report}
    (hc : Course cwd config runner timing original generated fs mode ending left calls) :
    ∀ call ∈ calls, call.command.name = Wording.differ.tool := by
  cases hc with
  | refused => simp
  | tornEarly _ first | failed _ first => simp [first.calls_eq_nil he]
  | tornLate _ first _ hcommand | finished _ first _ hcommand =>
    simp only [first.calls_eq_nil he, hcommand, List.nil_append, List.forall_mem_singleton]
    rfl

end Unresolved

/-- The log of a run whose tools come back: the first line, a line on the generated model if it has no canonical path to
be handed to the analyzer by, the lines on each call, and the closing lines of a run with a report. A model that is not
handed over scores no point, and the differ alone is called; the other scores are those that the log tells of. If the
runner itself is silent, the log says that the run is complete just if there is a report. -/
theorem run_log (cwd : Location) (config : Config) {runner : Runner} (hr : runner.Returns) (timing : Timing)
    (original generated : Path) (mode : Mode) (fs : FileSystem) :
    let result := run cwd config runner timing original generated mode (.start fs)
    let log := result.2.events.map Event.shown
    let unresolved := unresolved? cwd config original generated mode fs
    (∀ e, unresolved = some e → mode = .combined ∧ fs.pathExists cwd generated ∧ fs.Unspellable cwd generated e ∧
      ∀ call ∈ result.2.calls, call.command.name = Wording.differ.tool) ∧
    ∃ parts closing, log = (.info, "Starting scoring run", [("mode", .text mode.label)]) ::
        unresolved.toList.map (unresolvedLine generated) ++ (parts.map Prod.snd).flatten ++ closing ∧
      List.Forall₂ (Call.Tells cwd config runner) result.2.calls parts ∧
      ((∃ e, result.1 = .error e) ∧ closing = [] ∨
        ∃ report before after, result.1 = .value report ∧
          report.validity.toList ++ [report.equivalence] =
            unresolved.toList.map (fun _ => ⟨0, 1⟩) ++ parts.map Prod.fst ∧
          report.original.Tells before ∧ report.generated.Tells after ∧
          closing = before ++ after ++ [report.lastLine]) ∧
      ((∀ command fs, (runner.run command fs).events = []) →
        ((∃ line ∈ log, line.2.1 = "Scoring run complete") ↔ ∃ report, result.1 = .value report)) := by
  intro result log unresolved
  refine ⟨fun e he => ?_, ?_⟩
  · obtain ⟨hmode, -, hcanon⟩ := unresolved?_eq_some_iff.mp he
    obtain ⟨hexists, hunspellable⟩ := unspellable_of_unresolved? he
    exact ⟨hmode, hexists, hunspellable,
      (course_run cwd config runner timing original generated mode fs).differ_alone hcanon⟩
  rw [← shown_firstLines cwd config original generated mode fs]
  rcases tells_run cwd config hr timing original generated mode fs with
    ⟨e, scores, he, calls, parts, hcalls, hevents, hparts, -⟩ |
    ⟨report, scores, last, before, after, hvalue, hreported, ⟨calls, parts, hcalls, hevents, hparts, rfl⟩, hbefore,
      hafter, hsame, hclosing⟩
  · have hlog : log = _ := hevents
    have hcalls : result.2.calls = calls := hcalls
    refine ⟨parts, [], hlog.trans (List.append_nil _).symm, hcalls ▸ hparts, .inl ⟨⟨e, he⟩, rfl⟩, fun hsilent => ?_⟩
    constructor
    · rintro ⟨line, hline, hmessage⟩
      rw [hlog] at hline
      rcases List.mem_append.mp hline with hline | hline
      · exact absurd hmessage (message_ne_firstLines cwd config original generated mode fs line hline)
      · exact absurd hmessage (Call.message_ne_of_tells hsilent hparts line hline)
    · rintro ⟨report, hreport⟩
      cases he.symm.trans hreport
  · rw [hevents] at hclosing
    have hlog : log = _ := hclosing
    have hcalls : result.2.calls = calls := hsame.trans hcalls
    refine ⟨parts, _, hlog, hcalls ▸ hparts, .inr ⟨report, before, after, hvalue, hreported, hbefore, hafter, rfl⟩,
      fun _ => ⟨fun _ => ⟨report, hvalue⟩, fun _ => ⟨report.lastLine, ?_, rfl⟩⟩⟩
    simp [hlog]

/-- An analyzer that times out, and two models that are directories. -/
theorem run_log_directories :
    let runner := scripted (.error (.timeout "analyzer_exec" 1)) (.ok ⟨"module_diff", 0, "", "", true⟩)
    let result := run [] .default runner (noon 0) (.ofString "d") (.ofString "e") .combined
      (.start (site [["tmp"], ["d"], ["e"]] []))
    (∃ line ∈ result.2.events.map Event.shown, line.2.1 = "Scoring run complete") ∧
    result.2.events.map Event.message = ["Starting scoring run", "Checking syntax",
      "Analyzer did not complete, scoring as invalid", "Syntax check complete", "Removed scratch directory",
      "Checking equivalence", "Module differ finished", "Equivalence check complete", "Model not digested",
      "Model not digested", "Scoring run complete"] := by
  intro runner result
  have hreturns : runner.Returns := fun _ _ => ⟨_, rfl⟩
  obtain ⟨-, -, -, -, -, -, hcomplete⟩ := run_log [] .default hreturns (noon 0) (.ofString "d") (.ofString "e") .combined
    (site [["tmp"], ["d"], ["e"]] [])
  exact ⟨(hcomplete fun _ _ => rfl).2 ⟨_, rfl⟩, by decide⟩

/-- The differ and the analyzer in the root, and a generated model below too many long names. -/
def deepModel : FileSystem := ⟨FileSystem.nestedRows ++ (site [] [["o"]]).entries⟩

theorem unresolved?_deepModel :
    unresolved? [] .default (.ofString "o") FileSystem.nestedPath .combined deepModel = some .nameTooLong := by
  have hexists : deepModel.pathExists [] FileSystem.nestedPath := by
    rw [FileSystem.pathExists, show deepModel.stat [] FileSystem.nestedPath = _ from FileSystem.stat_nestedPath _]
    rfl
  have hcanon : deepModel.canonicalize [] FileSystem.nestedPath = .error .nameTooLong :=
    FileSystem.canonicalize_nestedPath _
  have hfault : fault? [] .default (.ofString "o") FileSystem.nestedPath .combined deepModel = none :=
    fault?_eq_none_iff.mpr ⟨equivalence_fault?_eq_none_iff.mpr ⟨by decide, by decide, hexists⟩,
      fun _ => Validity.fault?_eq_none_iff.mpr ⟨by decide, .inl ⟨_, hcanon⟩⟩⟩
  exact unresolved?_eq_some_iff.mpr ⟨rfl, hfault, hcanon⟩

/-- So there is a line in the log that tells neither of the run nor of a tool, a scratch directory or a digest. -/
theorem run_log_deepModel :
    let runner := scripted (.error (.timeout "analyzer_exec" 1)) (.ok ⟨"module_diff", 0, "", "", true⟩)
    let result := run [] .default runner (noon 0) (.ofString "o") FileSystem.nestedPath .combined (.start deepModel)
    ∃ line ∈ result.2.events.map Event.shown,
      line.1 = .warn ∧ line.2.1 = "Model not resolvable, scoring as invalid" := by
  intro runner result
  have hreturns : runner.Returns := fun _ _ => ⟨_, rfl⟩
  have hmem : unresolvedLine FileSystem.nestedPath .nameTooLong ∈
      (firstLines [] .default (.ofString "o") FileSystem.nestedPath .combined deepModel).events.map Event.shown := by
    rw [shown_firstLines, unresolved?_deepModel]
    exact .tail _ (.head _)
  refine ⟨unresolvedLine FileSystem.nestedPath .nameTooLong, ?_, rfl, rfl⟩
  rcases tells_run [] .default hreturns (noon 0) (.ofString "o") FileSystem.nestedPath .combined deepModel with
    ⟨e, scores, -, calls, parts, -, hevents, -⟩ |
    ⟨report, scores, last, before, after, -, -, ⟨calls, parts, -, hevents, -⟩, -, -, -, hclosing⟩
  · rw [hevents]
    exact List.mem_append_left _ hmem
  · rw [hclosing, hevents]
    exact List.mem_append_left _ (List.mem_append_left _ hmem)

end Pipeline

end AlloyGrade
