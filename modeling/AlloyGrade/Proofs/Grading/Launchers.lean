import AlloyGrade.Proofs.Grading.Arguments

/-! The launcher of the two tools. Both commands name the same program, but the analyzer's is looked up from the
workdir and the differ's from where the caller is. The two look-ups agree for a bare name and for an absolute
path; a relative path with a slash in it can lead to two files, or to one and to nothing. -/

namespace AlloyGrade

namespace FileSystem

variable {fs : FileSystem} {dir dir' cwd : Location} {p : Path}

/-- The executable file under a path. -/
def executableAt (fs : FileSystem) (dir : Location) (p : Path) : Option Location :=
  match fs.stat dir p with
  | .ok (loc, .file f) => if f.isExecutable then some loc else none
  | _ => none

/-- Where a program is tried for a directory of the search path. -/
def candidate (program : Bytes) (d : Path) : Path :=
  if d.bytes.isEmpty then ⟨program⟩ else ⟨d.bytes ++ Bytes.slash :: program⟩

/-- The executable file that a program denotes: a name with a slash is a path, any other is searched for. -/
def executable? (fs : FileSystem) (dir : Location) (searchPath : List Path) (program : Bytes) : Option Location :=
  if program.contains Bytes.slash then fs.executableAt dir ⟨program⟩
  else searchPath.findSome? fun d => fs.executableAt dir (candidate program d)

/-! ### What is started is an executable file -/

theorem executableAt_of_image {found : Image} (h : fs.image dir p = .ok found) : (fs.executableAt dir p).isSome := by
  rw [image] at h
  rw [executableAt]
  split at h
  · cases h
  · rename_i f hs
    simp only [hs]
    cases hexec : f.isExecutable with
    | false => simp [hexec] at h
    | true => rfl
  · cases h

theorem executableAt_of_start {argv environment : List Bytes} {found : Bytes × List Bytes}
    (h : fs.start dir p argv environment = .ok found) : (fs.executableAt dir p).isSome := by
  rw [start] at h
  cases hs : fs.stat dir p with
  | error e => simp [hs] at h
  | ok object =>
    simp only [hs] at h
    split_ifs at h
    rw [load] at h
    cases himage : fs.image dir p with
    | error e => simp [himage] at h
    | ok => exact executableAt_of_image himage

theorem executable?_of_search {program : Bytes} (hbare : program.contains Bytes.slash = false)
    {argv environment : List Bytes} {found : Bytes × List Bytes} {searchPath : List Path} {denied : Bool}
    {last : IoError} (h : fs.search dir program argv environment searchPath denied last = .ok found) :
    (fs.executable? dir searchPath program).isSome := by
  rw [executable?, hbare, if_neg Bool.false_ne_true]
  induction searchPath generalizing denied last with
  | nil => simp [search] at h
  | cons d rest ih =>
    rw [List.findSome?_cons]
    split
    · rfl
    · rename_i hnone
      rw [search] at h
      split at h
      · rename_i hstart
        have hsome : (fs.executableAt dir (candidate program d)).isSome := executableAt_of_start hstart
        rw [hnone] at hsome
        cases hsome
      · split_ifs at h
        exact ih h

theorem executable?_of_locate {searchPath : List Path} {program : Bytes} {args environment : List Bytes}
    {found : Bytes × List Bytes} (h : fs.locate dir searchPath (program :: args) environment = .ok found) :
    (fs.executable? dir searchPath program).isSome := by
  rw [locate, List.headD_cons] at h
  cases hslash : program.contains Bytes.slash with
  | true =>
    rw [if_pos hslash] at h
    rw [executable?, if_pos hslash]
    exact executableAt_of_start h
  | false =>
    simp only [hslash, Bool.false_eq_true, if_false] at h
    split_ifs at h
    exact executable?_of_search hslash h

/-! ### Where it does not matter -/

theorem executableAt_of_isAbsolute (h : p.isAbsolute) (dir dir' : Location) :
    fs.executableAt dir p = fs.executableAt dir' p := by
  simp only [executableAt, stat, find, resolve, lead, origin, h, if_true]

theorem isAbsolute_candidate {d : Path} (h : d.isAbsolute) (program : Bytes) : (candidate program d).isAbsolute := by
  rw [Path.isAbsolute] at h
  rw [candidate, Path.isAbsolute]
  cases hb : d.bytes with
  | nil => simp [hb] at h
  | cons b rest => simpa [hb] using h

/-- A search path of absolute directories finds a bare name from everywhere. -/
theorem executable?_of_bare {searchPath : List Path} {program : Bytes} (hbare : program.contains Bytes.slash = false)
    (habs : ∀ d ∈ searchPath, d.isAbsolute) (dir dir' : Location) :
    fs.executable? dir searchPath program = fs.executable? dir' searchPath program := by
  rw [executable?, executable?, hbare, if_neg Bool.false_ne_true, if_neg Bool.false_ne_true]
  induction searchPath with
  | nil => rfl
  | cons d rest ih =>
    have hd : (candidate program d).isAbsolute := isAbsolute_candidate (habs d (.head _)) program
    rw [List.findSome?_cons, List.findSome?_cons, executableAt_of_isAbsolute hd dir dir',
      ih fun x hx => habs x (.tail _ hx)]

/-- The look-ups of one program from two directories agree, unless it is a relative path with a slash that leads to
different files. -/
theorem executable?_eq_iff {searchPath : List Path} (habs : ∀ d ∈ searchPath, d.isAbsolute) (p : Path)
    (dir dir' : Location) :
    fs.executable? dir searchPath p.bytes = fs.executable? dir' searchPath p.bytes ↔
      (p.bytes.contains Bytes.slash → p.isAbsolute = false → fs.executableAt dir p = fs.executableAt dir' p) := by
  cases hslash : p.bytes.contains Bytes.slash with
  | false => simp [executable?_of_bare hslash habs dir dir']
  | true =>
    rw [executable?, executable?, if_pos hslash, if_pos hslash]
    cases hp : p.isAbsolute with
    | true => simp [executableAt_of_isAbsolute hp dir dir']
    | false => simp

end FileSystem

/-! ### On a host -/

namespace Host

/-- The executable file that the program of a command denotes. -/
def launcher? (host : Host) (command : ToolCommand) (fs : FileSystem) : Option Location :=
  match host.directory command fs with
  | .error _ => none
  | .ok dir => fs.executable? dir host.searchPath command.program

theorem launcher?_of_directory {host : Host} {command : ToolCommand} {fs : FileSystem} {dir : Location}
    (h : host.directory command fs = .ok dir) :
    host.launcher? command fs = fs.executable? dir host.searchPath command.program := by
  rw [launcher?, h]

/-- Only a command whose program denotes an executable file is started. -/
theorem launcher?_of_start {host : Host} {command : ToolCommand} {fs : FileSystem} {world : Process.World}
    (h : host.start command fs = .ok world) : (host.launcher? command fs).isSome := by
  rw [start] at h
  simp only [bind, Except.bind] at h
  split_ifs at h
  cases hdir : host.directory command fs with
  | error e => simp [hdir] at h
  | ok dir =>
    rw [launcher?_of_directory hdir]
    cases hfound : fs.locate dir host.searchPath (command.program :: command.args) host.environmentTexts with
    | error e => simp [hdir, hfound] at h
    | ok => exact FileSystem.executable?_of_locate hfound

end Host

namespace Pipeline

/-- The launchers of the two tools. Both commands name the configured program, and with a search path of absolute
directories they denote the same executable file from an existing workdir, unless the program is a relative path
with a slash that leads elsewhere from there. A command whose program denotes no executable file is not started. -/
theorem run_launchers_agree_iff (cwd : Location) (config : Config) (runner : Runner) (timing : Timing)
    (original generated : Path) (fs : FileSystem) :
    let calls := (run cwd config runner timing original generated .combined (.start fs)).2.calls
    ∀ first ∈ calls, first.command.name = ToolCommand.analyzerExecName →
      ∀ second ∈ calls, second.command.name = ToolCommand.moduleDiffName →
        ∀ (environment : List (Bytes × Bytes)) (seen : FileSystem) (dir : Location),
          let host : Host := ⟨cwd, environment⟩
          (∀ d ∈ host.searchPath, d.isAbsolute) → host.directory first.command seen = .ok dir →
            (host.launcher? first.command seen = host.launcher? second.command seen ↔
              (config.java.bytes.contains Bytes.slash → config.java.isAbsolute = false →
                seen.executableAt dir config.java = seen.executableAt cwd config.java)) ∧
            ∀ command ∈ [first.command, second.command], ∀ world, host.start command seen = .ok world →
              (host.launcher? command seen).isSome := by
  intro calls first hfirst hanalyzer second hsecond hdiffer environment seen dir host habs hdir
  have hjava : first.command.program = config.java.bytes := by
    cases callKind_run _ _ _ _ _ _ _ _ first hfirst with
    | analyzer hcommand => rw [hcommand]; rfl
    | differ hcommand => rw [hcommand]; rfl
  obtain ⟨hjava', hhere⟩ : second.command.program = config.java.bytes ∧
      host.directory second.command seen = .ok cwd := by
    cases callKind_run _ _ _ _ _ _ _ _ second hsecond with
    | analyzer hcommand =>
      rw [hcommand] at hdiffer
      exact absurd hdiffer.symm ToolCommand.moduleDiffName_ne
    | differ hcommand =>
      rw [hcommand]
      exact ⟨rfl, rfl⟩
  rw [Host.launcher?_of_directory hdir, Host.launcher?_of_directory hhere, hjava, hjava']
  exact ⟨FileSystem.executable?_eq_iff habs config.java dir cwd, fun command _ world => Host.launcher?_of_start⟩

/-- A site with a launcher on the search path, and another one beside it. -/
def launchingSite : FileSystem :=
  let sound := site [["w"], ["bin"], ["tools"]] [["o"], ["g"]]
  ⟨sound.entries ++ [["bin", "java"], ["tools", "java"]].map fun names =>
    (names.map Bytes.ofString, .file (.program []))⟩

/-- The configuration of a run there, with workdir `w` and the given launcher. -/
def launching (java : String) : Config := { Config.default with java := .ofString java, workdir := .ofString "w" }

def launchingHost : Host := ⟨[], [(Bytes.ofString "PATH", Bytes.ofString "/tools")]⟩

/-- A bare name is the launcher on the search path for both tools. -/
theorem run_launchers_agree_bare :
    let calls := (run [] (launching "java") content (noon 0) (.ofString "o") (.ofString "g") .combined
      (.start launchingSite)).2.calls
    ∃ first ∈ calls, first.command.name = ToolCommand.analyzerExecName ∧
      ∃ second ∈ calls, second.command.name = ToolCommand.moduleDiffName ∧
        launchingHost.directory first.command launchingSite = .ok [Bytes.ofString "w"] ∧
        launchingHost.launcher? first.command launchingSite = launchingHost.launcher? second.command launchingSite ∧
        launchingHost.launcher? first.command launchingSite = some [Bytes.ofString "tools", Bytes.ofString "java"] := by
  intro calls
  obtain ⟨first, hfirst, hanalyzer, second, hsecond, hdiffer, hdir, hfound⟩ :
      ∃ first ∈ calls, first.command.name = ToolCommand.analyzerExecName ∧
        ∃ second ∈ calls, second.command.name = ToolCommand.moduleDiffName ∧
          launchingHost.directory first.command launchingSite = .ok [Bytes.ofString "w"] ∧
          launchingHost.launcher? first.command launchingSite =
            some [Bytes.ofString "tools", Bytes.ofString "java"] := by decide
  obtain ⟨hagree, -⟩ := run_launchers_agree_iff [] (launching "java") content (noon 0) (.ofString "o") (.ofString "g")
    launchingSite first hfirst hanalyzer second hsecond hdiffer launchingHost.environment launchingSite
    [Bytes.ofString "w"] (by decide) hdir
  have hbare : ¬(launching "java").java.bytes.contains Bytes.slash := by decide
  exact ⟨first, hfirst, hanalyzer, second, hsecond, hdiffer, hdir, hagree.mpr fun h => absurd h hbare, hfound⟩

/-- A relative path with a slash is a launcher for the differ only: the workdir has nothing under it, and the analyzer
is not started. -/
theorem run_launchers_differ_relative :
    let calls := (run [] (launching "bin/java") content (noon 0) (.ofString "o") (.ofString "g") .combined
      (.start launchingSite)).2.calls
    ∃ first ∈ calls, first.command.name = ToolCommand.analyzerExecName ∧
      ∃ second ∈ calls, second.command.name = ToolCommand.moduleDiffName ∧
        launchingHost.directory first.command launchingSite = .ok [Bytes.ofString "w"] ∧
        launchingHost.searchPath.all Path.isAbsolute ∧
        launchingHost.launcher? first.command launchingSite = none ∧
        launchingHost.launcher? second.command launchingSite = some [Bytes.ofString "bin", Bytes.ofString "java"] ∧
        launchingHost.system.respond first.command launchingSite = (.refused .noEntry, launchingSite) := by
  decide

end Pipeline

end AlloyGrade
