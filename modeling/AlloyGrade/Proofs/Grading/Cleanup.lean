import AlloyGrade.Proofs.Grading.Course
import AlloyGrade.Proofs.Scratch

/-! The scratch directories after a check. However the analyzer ends, and whatever it does to the file
system, neither a scratch directory nor a link in its place is there when the check is over; in a run this
is so already when the differ is called. -/

namespace AlloyGrade

namespace Workdir

variable {cwd : Location} {fs : FileSystem} (w : Workdir)

theorem lookup_cleanScratch_of_find {p : Path} (hp : p ∈ w.scratchPaths) {loc : Location} {entry : Entry}
    (hf : fs.find cwd false p = .ok (loc, entry)) (hk : entry.isDirOrLink = false) :
    (w.cleanScratch cwd fs).1.lookup loc = some entry := by
  rw [cleanScratch_eq_sweep]
  exact lookup_sweep_of_find w.scratchPaths_isChild hp hf hk

theorem countP_keeps_cleanScratch {p : Path} (hp : p ∈ w.scratchPaths) {x : Location × Entry}
    (hf : (w.cleanScratch cwd fs).1.find cwd false p = .ok x) :
    (w.cleanScratch cwd fs).2.countP (keeps p) = 1 := by
  rw [cleanScratch_eq_sweep] at hf ⊢
  exact countP_keeps_sweep_of_find w.scratchPaths_isChild w.scratchPaths_nodup hp hf

end Workdir

theorem Validity.countP_keeps_reported (p : Path) (ending : RunEnding) :
    (ending.reported Validity.judge .validityKnown).countP (Workdir.keeps p) = 0 := by
  cases ending with
  | done outcome => cases outcome <;> rfl
  | panic message => rfl
  | pending => rfl

/-- In a run that has the generated model checked, the differ is called only when the workdir is swept. -/
theorem Pipeline.Course.swept_of_moduleDiff {cwd : Location} {config : Config} {runner : Runner} {timing : Timing}
    {original generated path : Path} {fs last : FileSystem} {ending : Ending Report} {calls : List Call}
    (hpath : fs.canonicalize cwd generated = .ok path)
    (hc : Course cwd config runner timing original generated fs .combined ending last calls) :
    ∀ call ∈ calls, call.command.name = ToolCommand.moduleDiffName →
      (⟨config.workdir⟩ : Workdir).Swept cwd call.before := by
  have hname : ToolCommand.analyzerExecName ≠ ToolCommand.moduleDiffName := by decide
  have hanalyzer {valid? : Option (Option Score)} {left : FileSystem} {calls : List Call}
      (first : FirstHalf cwd config runner generated fs .combined valid? left calls) :
      (⟨config.workdir⟩ : Workdir).Swept cwd left ∧
        ∀ call ∈ calls, call.command.name ≠ ToolCommand.moduleDiffName := by
    cases first with
    | unresolved hnone => exact absurd (hpath.symm.trans hnone) nofun
    | asked hjar hpath hcommand hanswer hvalid hleft =>
      rw [hleft, hcommand]
      refine ⟨Workdir.swept_cleanScratch _ cwd _, fun call hcall => ?_⟩
      rw [List.mem_singleton.mp hcall]
      exact hname
  intro call hcall hdiff
  cases hc with
  | refused h => cases hcall
  | tornEarly h first torn => exact absurd hdiff ((hanalyzer first).2 call hcall)
  | failed h first hagain => exact absurd hdiff ((hanalyzer first).2 call hcall)
  | tornLate h first | finished h first =>
    rcases List.mem_append.mp hcall with hcall | hcall
    · exact absurd hdiff ((hanalyzer first).2 call hcall)
    · obtain rfl := List.mem_singleton.mp hcall
      exact (hanalyzer first).1

/-- A check that calls the analyzer leaves neither a directory nor a link at the scratch paths. What the
analyzer left there of another kind stays, and is reported once if its path still leads to it. A check that
calls nothing changes nothing. In a run whose check calls the analyzer, the workdir is swept when the differ is
called. -/
theorem Validity.check_sweeps (cwd : Location) (config : Config) (runner : Runner) (model : Path)
    (fs : FileSystem) :
    let workdir : Workdir := ⟨config.workdir⟩
    let result := check cwd config runner model (.start fs)
    (result.2.calls = [] → result.2.fs = fs) ∧
    (∀ call ∈ result.2.calls, workdir.Swept cwd result.2.fs ∧
      let answer := runner.run call.command call.before
      ∀ p ∈ workdir.scratchPaths, ∀ loc entry,
        (answer.fs.find cwd false p = .ok (loc, entry) → entry.isDirOrLink = false →
          result.2.fs.lookup loc = some entry) ∧
        (result.2.fs.find cwd false p = .ok (loc, entry) →
          answer.fs.find cwd false p = .ok (loc, entry) ∧
            result.2.events.countP (Workdir.keeps p) = answer.events.countP (Workdir.keeps p) + 1)) ∧
    (result.2.calls ≠ [] → ∀ timing original,
      ∀ call ∈ (Pipeline.run cwd config runner timing original model .combined (.start fs)).2.calls,
        call.command.name = ToolCommand.moduleDiffName → workdir.Swept cwd call.before) := by
  intro workdir result
  rcases check_cases cwd config runner model (.start fs) with
    ⟨e, -, hc⟩ | ⟨-, e, -, hc⟩ | ⟨-, jar, path, -, hpath, hc⟩
  · have hresult : result = _ := hc
    rw [hresult]
    exact ⟨fun _ => rfl, nofun, fun hne => absurd rfl hne⟩
  · have hresult : result = _ := hc
    rw [hresult]
    exact ⟨fun _ => rfl, nofun, fun hne => absurd rfl hne⟩
  · rw [Grading.guarded_apply, Grading.ask_apply] at hc
    have hresult : result = _ := hc
    rw [hresult]
    refine ⟨nofun, fun call hcall => ?_, fun _ timing original => Pipeline.Course.swept_of_moduleDiff hpath
      (Pipeline.course_run cwd config runner timing original model .combined fs)⟩
    obtain rfl := List.mem_singleton.mp hcall
    refine ⟨workdir.swept_cleanScratch cwd _, fun p hp loc entry => ⟨?_, fun hf => ?_⟩⟩
    · exact fun hf hk => workdir.lookup_cleanScratch_of_find hp hf hk
    · refine ⟨(workdir.cleanScratch_within cwd _).find hf, ?_⟩
      rw [List.countP_append, List.countP_append, List.countP_append, countP_keeps_reported,
        workdir.countP_keeps_cleanScratch hp hf]
      simp [Trace.record, Trace.start, Workdir.keeps]

/-- An analyzer that fills one scratch directory, puts a pipe in the place of the other, and blows up. -/
def messy : Runner where
  run _ fs := ⟨.panic "lost", ⟨fs.entries ++ [([Bytes.ofString "tmp"], .dir),
    ([Bytes.ofString "tmp", Bytes.ofString "a"], .file (.plain [])), ([Bytes.ofString "output"], .fifo)]⟩, []⟩

/-- The directory is gone, the pipe stays. -/
theorem Validity.check_sweeps_messy :
    let result := check [] .default messy (.ofString "g") (.start (Pipeline.site [] [["g"]]))
    (⟨Config.default.workdir⟩ : Workdir).Swept [] result.2.fs ∧
      result.2.fs.lookup [Bytes.ofString "output"] = some .fifo := by
  intro result
  obtain ⟨hswept, hpaths⟩ := (check_sweeps [] .default messy (.ofString "g") (Pipeline.site [] [["g"]])).2.1
    (result.2.calls.head (by decide)) (List.head_mem _)
  have hscratch : Path.ofString "./output" ∈ (⟨Config.default.workdir⟩ : Workdir).scratchPaths :=
    List.mem_map.mpr ⟨"output", by decide, by decide⟩
  exact ⟨hswept, (hpaths _ hscratch [Bytes.ofString "output"] .fifo).1 (by decide) rfl⟩

end AlloyGrade
