import AlloyGrade.Process.Host
import AlloyGrade.Proofs.Files.Canonical
import AlloyGrade.Proofs.Grading.Modes

/-! The paths among the arguments of the tools. The analyzer runs in the workdir and is given canonical paths,
which denote the same objects from every directory; the differ runs where the caller is and is given the paths
as they are written. Either way an argument denotes what the caller's path denotes. -/

namespace AlloyGrade

/-- An argument, seen from one directory, denotes an object that exists and that a given path denotes, seen from
another one. If the argument is not too long for the system, the system finds the object under it. -/
def FileSystem.MeansSame (fs : FileSystem) (dir : Location) (argument : Path) (cwd : Location) (given : Path) : Prop :=
  ∃ object, fs.stat cwd given = .ok object ∧ fs.denoted dir true argument = .ok object ∧
    (argument.bytes.length < maxPathLength → fs.stat dir argument = .ok object)

namespace FileSystem

variable {fs : FileSystem} {cwd : Location} {given : Path}

theorem meansSame_of_denoted {dir : Location} {argument : Path} {object : Location × Entry}
    (hgiven : fs.stat cwd given = .ok object) (h : fs.denoted dir true argument = .ok object) :
    fs.MeansSame dir argument cwd given :=
  ⟨object, hgiven, h, fun hshort => (find_eq_denoted hshort).trans h⟩

theorem meansSame_canonicalize {canonical : Path} (hexists : fs.pathExists cwd given)
    (h : fs.canonicalize cwd given = .ok canonical) :
    canonical.isAbsolute ∧ ∀ dir, fs.MeansSame dir canonical cwd given := by
  obtain ⟨found, hs⟩ := stat_of_pathExists hexists
  obtain ⟨object, hdenoted, habs, hd⟩ := denoted_of_canonicalize h
  obtain rfl : found = object := Except.ok.inj ((denoted_of_find hs).symm.trans hdenoted)
  exact ⟨habs, fun dir => meansSame_of_denoted hs (hd dir)⟩

end FileSystem

theorem ToolCommand.moduleDiffName_ne : moduleDiffName ≠ analyzerExecName := by decide

namespace Pipeline

/-- What a call of a run can be: the analyzer with canonical paths of what is in place, or the differ with everything it
needs in place. -/
inductive CallKind (cwd : Location) (config : Config) (original generated : Path) (call : Call) : Prop
  | analyzer {jar model : Path} (hcommand : call.command = .analyzerExec config jar model config.workdir)
      (hjar : call.before.canonicalize cwd config.artifacts.analyzerJar = .ok jar)
      (hmodel : call.before.canonicalize cwd generated = .ok model)
      (hready : call.before.isFile cwd config.artifacts.analyzerJar ∧ call.before.pathExists cwd generated)
  | differ (hcommand : call.command = .moduleDiff config config.artifacts.diffJar original generated)
      (hready : Equivalence.fault? cwd config original generated call.before = none)

variable {cwd : Location} {config : Config} {runner : Runner} {timing : Timing} {original generated : Path}
  {mode : Mode} {fs left last : FileSystem} {valid? : Option (Option Score)} {calls : List Call}

theorem FirstHalf.callKind (first : FirstHalf cwd config runner generated fs mode valid? left calls)
    (h : fault? cwd config original generated mode fs = none) :
    ∀ call ∈ calls, CallKind cwd config original generated call := by
  obtain ⟨hdiffer, hcheck⟩ := fault?_eq_none_iff.mp h
  cases first with
  | skipped | unresolved => exact nofun
  | asked hjar hpath hcommand hanswer hvalid hleft =>
    intro call hcall
    obtain rfl := List.mem_singleton.mp hcall
    exact .analyzer hcommand hjar hpath
      ⟨(Validity.fault?_eq_none_iff.mp (hcheck rfl)).1, (equivalence_fault?_eq_none_iff.mp hdiffer).2.2⟩

theorem Course.callKind {ending : Ending Report}
    (hc : Course cwd config runner timing original generated fs mode ending last calls) :
    ∀ call ∈ calls, CallKind cwd config original generated call := by
  cases hc with
  | refused h => exact nofun
  | tornEarly h first | failed h first => exact first.callKind h
  | tornLate h first hagain hcommand | finished h first hagain hcommand =>
    intro call hcall
    rcases List.mem_append.mp hcall with hcall | hcall
    · exact first.callKind h call hcall
    · obtain rfl := List.mem_singleton.mp hcall
      exact .differ hcommand hagain

theorem callKind_run (cwd : Location) (config : Config) (runner : Runner) (timing : Timing)
    (original generated : Path) (mode : Mode) (fs : FileSystem) :
    ∀ call ∈ (run cwd config runner timing original generated mode (.start fs)).2.calls,
      CallKind cwd config original generated call :=
  (course_run cwd config runner timing original generated mode fs).callKind

/-- A site with a workdir `w`, and a link `l` to the directory `d` that holds the generated model. -/
def linkedSite : FileSystem :=
  let sound := site [["w"], ["d"]] [["o"], ["d", "g"]]
  ⟨([Bytes.ofString "l"], .link (.ofString "w/../d")) :: sound.entries⟩

end Pipeline

end AlloyGrade
