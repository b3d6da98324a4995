import AlloyGrade.Proofs.Grading.Decisions
import AlloyGrade.Proofs.Scratch

/-! What a run does to the models it is given, when the tools change nothing. The cleanup of the workdir is
then the only thing that can change the file system. It spares a path exactly if the way to its object leads
through nothing that is taken away and neither the object nor anything below it is taken away; and it makes a run
fail exactly if the way to the differ's jar or to one of the models leads through something that is taken away. -/

namespace AlloyGrade

/-- A runner whose tools change nothing. -/
def Runner.Quiet (runner : Runner) : Prop := ∀ command fs, (runner.run command fs).fs = fs

/-- A path denotes the same object in both file systems, with the same things below it if it is a directory. -/
def FileSystem.SameObject (before after : FileSystem) (cwd : Location) (p : Path) : Prop :=
  after.stat cwd p = before.stat cwd p ∧ ∀ loc entry, before.stat cwd p = .ok (loc, entry) →
    ∀ below, after.lookup (loc ++ below) = before.lookup (loc ++ below)

namespace Workdir

variable (w : Workdir) {cwd : Location} {fs : FileSystem} {p : Path}

/-- Whether the cleanup takes away what is at a location. -/
def removes (cwd : Location) (fs : FileSystem) (loc : Location) : Bool := taken cwd w.scratchPaths fs loc

/-- The way to the object of a path leads through something that the cleanup takes away. -/
def Crosses (cwd : Location) (fs : FileSystem) (p : Path) : Prop := ∃ loc ∈ fs.visits cwd true p, w.removes cwd fs loc

instance (cwd : Location) (fs : FileSystem) (p : Path) : Decidable (w.Crosses cwd fs p) :=
  inferInstanceAs (Decidable (∃ loc ∈ fs.visits cwd true p, w.removes cwd fs loc))

theorem lookup_cleanScratch (loc : Location) : (w.cleanScratch cwd fs).1.lookup loc =
    if w.removes cwd fs loc then none else fs.lookup loc := by
  rw [cleanScratch_eq_sweep]
  exact lookup_sweep w.scratchPaths_isChild loc

/-- The cleanup leaves a path its object unless the way there is cut. -/
theorem stat_cleanScratch_iff {x : Location × Entry} (hx : fs.stat cwd p = .ok x) :
    (w.cleanScratch cwd fs).1.stat cwd p = .ok x ↔ ¬w.Crosses cwd fs p := by
  rw [cleanScratch_eq_sweep, stat_sweep_iff w.scratchPaths_isChild hx]
  simp only [Crosses, removes, not_exists, not_and, Bool.not_eq_true]

theorem pathExists_cleanScratch_iff {x : Location × Entry} (hx : fs.stat cwd p = .ok x) :
    (w.cleanScratch cwd fs).1.pathExists cwd p ↔ ¬w.Crosses cwd fs p :=
  ((w.cleanScratch_within cwd fs).find_isOk_iff hx).trans (w.stat_cleanScratch_iff hx)

theorem isFile_cleanScratch_iff (h : fs.isFile cwd p) :
    (w.cleanScratch cwd fs).1.isFile cwd p ↔ ¬w.Crosses cwd fs p := by
  rw [FileSystem.isFile] at h
  cases hx : fs.stat cwd p with
  | error e => simp [hx] at h
  | ok found =>
    refine ⟨fun hfile => ?_, fun hcross => ?_⟩
    · exact (w.pathExists_cleanScratch_iff hx).mp (FileSystem.pathExists_of_isFile hfile)
    · rw [FileSystem.isFile, (w.stat_cleanScratch_iff hx).mpr hcross, ← hx]
      exact h

/-- The cleanup leaves a path its object with all that is below it, unless the way there is cut or the object or
something below it is taken away. -/
theorem sameObject_cleanScratch_iff {loc : Location} {entry : Entry} (hx : fs.stat cwd p = .ok (loc, entry)) :
    fs.SameObject (w.cleanScratch cwd fs).1 cwd p ↔
      ¬w.Crosses cwd fs p ∧ ∀ below, w.removes cwd fs (loc ++ below) = false := by
  rw [FileSystem.SameObject, hx, w.stat_cleanScratch_iff hx]
  refine and_congr_right fun hcross => ⟨fun h below => ?_, fun h l e hle below => ?_⟩
  · have hsame := h loc entry rfl below
    rw [lookup_cleanScratch] at hsame
    split_ifs at hsame with hgone
    · have hsome := isSome_of_taken w.scratchPaths_isChild hgone
      simp [← hsame] at hsome
    · simpa using hgone
  · cases hle
    rw [lookup_cleanScratch, h below]
    rfl

end Workdir

namespace Pipeline

/-- The first of the things the differ needs that the cleanup cuts off. -/
def cut? (cwd : Location) (config : Config) (original generated : Path) (fs : FileSystem) : Option ScoreError :=
  let workdir : Workdir := ⟨config.workdir⟩
  if workdir.Crosses cwd fs config.artifacts.diffJar then
    some (.missingArtifact "Alloy Diff JAR" config.artifacts.diffJar)
  else if workdir.Crosses cwd fs original then some (.missingInput "Original" original)
  else if workdir.Crosses cwd fs generated then some (.missingInput "Generated" generated)
  else none

variable {cwd : Location} {config : Config} {runner : Runner} {timing : Timing} {original generated : Path}
  {mode : Mode} {fs left : FileSystem} {valid? : Option (Option Score)} {calls : List Call}

theorem fault?_cleanScratch (h : Equivalence.fault? cwd config original generated fs = none) :
    Equivalence.fault? cwd config original generated ((⟨config.workdir⟩ : Workdir).cleanScratch cwd fs).1 =
      cut? cwd config original generated fs := by
  obtain ⟨hjar, ho, hg⟩ := equivalence_fault?_eq_none_iff.mp h
  obtain ⟨_, ho⟩ := FileSystem.stat_of_pathExists ho
  obtain ⟨_, hg⟩ := FileSystem.stat_of_pathExists hg
  have hjar := Workdir.isFile_cleanScratch_iff ⟨config.workdir⟩ hjar
  have ho := Workdir.pathExists_cleanScratch_iff ⟨config.workdir⟩ ho
  have hg := Workdir.pathExists_cleanScratch_iff ⟨config.workdir⟩ hg
  simp only [Equivalence.fault?, cut?, Bool.not_eq_eq_eq_not, Bool.not_true, ← Bool.not_eq_true, hjar, ho, hg,
    Classical.not_not]

/-- Whether the analyzer is among the tools called. -/
def Analyzed (calls : List Call) : Prop := ∃ call ∈ calls, call.command.name = ToolCommand.analyzerExecName

theorem not_analyzed_differ (left : FileSystem) (outcome : Option (Except RunError ToolOutput)) :
    ¬Analyzed ([] ++ [⟨.moduleDiff config config.artifacts.diffJar original generated, left, outcome⟩]) := by
  rintro ⟨call, hcall, hname⟩
  obtain rfl := List.mem_singleton.mp hcall
  exact absurd hname (by decide : ToolCommand.moduleDiffName ≠ ToolCommand.analyzerExecName)

/-- With quiet tools the first half of a run changes nothing but for the cleanup. -/
theorem FirstHalf.left_of_quiet (first : FirstHalf cwd config runner generated fs mode valid? left calls)
    (quiet : runner.Quiet) :
    calls = [] ∧ left = fs ∨
      mode = .combined ∧ Analyzed calls ∧ left = ((⟨config.workdir⟩ : Workdir).cleanScratch cwd fs).1 := by
  cases first with
  | skipped | unresolved => exact .inl ⟨rfl, rfl⟩
  | asked hjar hpath hcommand hanswer hvalid hleft =>
    refine .inr ⟨rfl, ⟨_, .head _, by rw [hcommand]; rfl⟩, ?_⟩
    rw [hleft, hanswer, quiet]

theorem Analyzed.append {more : List Call} (h : Analyzed calls) : Analyzed (calls ++ more) := by
  obtain ⟨call, hcall, hname⟩ := h
  exact ⟨call, List.mem_append_left _ hcall, hname⟩

/-- A run with quiet tools changes nothing before it calls the analyzer, and nothing but for the cleanup
afterwards. It fails after a call only if the cleanup has cut something off. -/
theorem Course.of_quiet {ending : Ending Report} {last : FileSystem}
    (hc : Course cwd config runner timing original generated fs mode ending last calls) (quiet : runner.Quiet) :
    ¬Analyzed calls ∧ last = fs ∧ (calls ≠ [] → ∀ e, ending ≠ .error e) ∨
    mode = .combined ∧ Analyzed calls ∧ last = ((⟨config.workdir⟩ : Workdir).cleanScratch cwd fs).1 ∧
      (∀ e, ending = .error e → cut? cwd config original generated fs = some e) ∧
      ∀ report, ending = .value report → cut? cwd config original generated fs = none := by
  have hnone : ¬Analyzed [] := fun ⟨_, hcall, _⟩ => absurd hcall nofun
  cases hc with
  | refused h => exact .inl ⟨hnone, rfl, fun hne => absurd rfl hne⟩
  | tornEarly h first torn =>
    rcases first.left_of_quiet quiet with ⟨rfl, hl⟩ | ⟨hm, ha, hl⟩
    · exact .inl ⟨hnone, hl, fun _ => torn.2⟩
    · exact .inr ⟨hm, ha, hl, fun e he => absurd he (torn.2 e), fun r hr => absurd hr (torn.1 r)⟩
  | failed h first hagain =>
    have hstart := (fault?_eq_none_iff.mp h).1
    rcases first.left_of_quiet quiet with ⟨rfl, hl⟩ | ⟨hm, ha, hl⟩
    · rw [hl, hstart] at hagain
      cases hagain
    · rw [hl, fault?_cleanScratch hstart] at hagain
      exact .inr ⟨hm, ha, hl, fun e he => by cases he; exact hagain, nofun⟩
  | tornLate h first hagain hcommand hanswer houtcome torn =>
    rw [hanswer, quiet, hcommand]
    rcases first.left_of_quiet quiet with ⟨rfl, hl⟩ | ⟨hm, ha, hl⟩
    · exact .inl ⟨not_analyzed_differ _ _, hl, fun _ => torn.2⟩
    · exact .inr ⟨hm, ha.append, hl, fun e he => absurd he (torn.2 e), fun r hr => absurd hr (torn.1 r)⟩
  | finished h first hagain hcommand hanswer houtcome =>
    rw [hanswer, quiet, hcommand]
    rcases first.left_of_quiet quiet with ⟨rfl, hl⟩ | ⟨hm, ha, hl⟩
    · exact .inl ⟨not_analyzed_differ _ _, hl, nofun⟩
    · rw [hl, fault?_cleanScratch (fault?_eq_none_iff.mp h).1] at hagain
      exact .inr ⟨hm, ha.append, hl, nofun, fun _ _ => hagain⟩

/-- When a run with quiet tools keeps its inputs. A run that does not call the analyzer changes nothing, and having
called the differ it does not fail. A run that has called the analyzer keeps the object of a path exactly if the cleanup
takes away nothing on the way to it, nor the object, nor anything below it; and it fails exactly if the differ's jar or a
model is cut off, naming the first of them. -/
theorem run_keeps_inputs_iff (cwd : Location) (config : Config) {runner : Runner} (quiet : runner.Quiet)
    (timing : Timing) (original generated : Path) (mode : Mode) (fs : FileSystem) :
    let workdir : Workdir := ⟨config.workdir⟩
    let result := run cwd config runner timing original generated mode (.start fs)
    (¬Analyzed result.2.calls → result.2.fs = fs ∧ (result.2.calls ≠ [] → ∀ e, result.1 ≠ .error e)) ∧
    (Analyzed result.2.calls → mode = .combined ∧
      (∀ p loc entry, fs.stat cwd p = .ok (loc, entry) →
        (fs.SameObject result.2.fs cwd p ↔
          ¬workdir.Crosses cwd fs p ∧ ∀ below, workdir.removes cwd fs (loc ++ below) = false)) ∧
      (∀ e, result.1 = .error e → cut? cwd config original generated fs = some e) ∧
      (runner.Returns → ∀ e, cut? cwd config original generated fs = some e → result.1 = .error e)) := by
  intro workdir result
  have hc : Course cwd config runner timing original generated fs mode result.1 result.2.fs result.2.calls :=
    course_run cwd config runner timing original generated mode fs
  rcases hc.of_quiet quiet with ⟨hnot, hfs, herror⟩ | ⟨hmode, hanalyzed, hfs, herror, hvalue⟩
  · exact ⟨fun _ => ⟨hfs, herror⟩, fun h => absurd h hnot⟩
  · refine ⟨fun h => absurd hanalyzed h, fun _ => ⟨hmode, fun p loc entry hx => ?_, herror, fun hr e he => ?_⟩⟩
    · rw [hfs]
      exact workdir.sameObject_cleanScratch_iff hx
    · cases hend : result.1 with
      | value report => rw [hvalue report hend] at he; cases he
      | error e' => rw [herror e' hend] at he; cases he; rfl
      | panic message => exact absurd (hend ▸ ⟨nofun, nofun⟩) (hc.not_torn hr)
      | cancelled => exact absurd (hend ▸ ⟨nofun, nofun⟩) (hc.not_torn hr)

/-! ### A model in a scratch directory -/

theorem scripted_quiet (analyzer differ : Except RunError ToolOutput) : (scripted analyzer differ).Quiet :=
  fun _ _ => rfl

/-- Tools that cannot be found. -/
def absent : Runner := scripted (.error (.spawn ToolCommand.analyzerExecName .noEntry))
  (.error (.spawn ToolCommand.moduleDiffName .noEntry))

/-- The generated model is in the directory that the analyzer would use as scratch space. -/
def scratchSite : FileSystem := site [["tmp"]] [["o"], ["tmp", "g"]]

/-- The original model is kept, the generated one is not. -/
theorem run_keeps_inputs_scratchSite :
    let result := run [] .default absent (noon 0) (.ofString "o") (.ofString "tmp/g") .combined (.start scratchSite)
    scratchSite.SameObject result.2.fs [] (.ofString "o") ∧
    ¬scratchSite.SameObject result.2.fs [] (.ofString "tmp/g") := by
  intro result
  have hanalyzed : Analyzed result.2.calls := by
    unfold Analyzed
    decide
  obtain ⟨-, hkept, -⟩ := (run_keeps_inputs_iff [] .default (scripted_quiet _ _) (noon 0) (.ofString "o")
    (.ofString "tmp/g") .combined scratchSite).2 hanalyzed
  refine ⟨(hkept _ [Bytes.ofString "o"] (.file (.plain [])) (by decide)).mpr ⟨by decide, fun below => ?_⟩,
    fun hsame => ?_⟩
  · -- Only what is below the scratch directory is taken away.
    rw [Bool.eq_false_iff]
    intro hgone
    obtain ⟨p, hp, place, hat, hpre⟩ := Workdir.scratchAt_of_taken (Workdir.scratchPaths_isChild _) hgone
    have hplaces : ∀ p ∈ (⟨Config.default.workdir⟩ : Workdir).scratchPaths,
        Workdir.scratchAt [] scratchSite p = none ∨
          Workdir.scratchAt [] scratchSite p = some [Bytes.ofString "tmp"] := by
      decide
    rcases hplaces p hp with hnone | htmp
    · exact absurd (hat.symm.trans hnone) nofun
    · obtain rfl := Option.some.inj (hat.symm.trans htmp)
      exact absurd (List.cons_prefix_cons.mp hpre).1 (by decide)
  · have hcut : (⟨Config.default.workdir⟩ : Workdir).Crosses [] scratchSite (.ofString "tmp/g") := by decide
    exact ((hkept _ [Bytes.ofString "tmp", Bytes.ofString "g"] (.file (.plain [])) (by decide)).mp hsame).1 hcut

/-- Quiet tools are not enough for the models to be kept, nor for a run that has called a tool to succeed. -/
theorem run_loses_model_in_scratch :
    ¬∀ (cwd : Location) (config : Config) (runner : Runner) (timing : Timing) (original generated : Path)
      (mode : Mode) (fs : FileSystem), runner.Quiet →
      let result := run cwd config runner timing original generated mode (.start fs)
      fs.SameObject result.2.fs cwd original ∧ fs.SameObject result.2.fs cwd generated ∧
        (result.2.calls ≠ [] → ∀ e, result.1 ≠ .error e) := by
  intro h
  obtain ⟨-, -, hsucceeds⟩ := h [] .default absent (noon 0) (.ofString "o") (.ofString "tmp/g") .combined scratchSite
    (scripted_quiet _ _)
  exact hsucceeds (by decide) (.missingInput "Generated" (.ofString "tmp/g")) (by decide)

end Pipeline

end AlloyGrade
