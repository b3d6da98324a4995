import AlloyGrade.Proofs.Grading.Arguments

/-! Looking for a path and making it canonical agree. A path that is found has a canonical form, which is absolute, has
neither dots nor links in it and leads to what was found, as long as the locations on the way are not too long to be
spelled. Hence a check whose jar is there does not fail on the way to the analyzer, and a run that checks the generated
model calls the analyzer exactly once. -/

namespace AlloyGrade

/-! ### Canonical paths -/

theorem Location.components_path {loc : Location} (h : loc.Spelled) :
    loc.path.components = .root :: loc.map .name := by
  have hnames : loc.map Component.ofPiece = loc.map .name :=
    List.map_congr_left fun name hname => Component.ofPiece_plain (FileSystem.plain_of_isEntryName (h name hname)).1
  have hall : ∀ c ∈ loc.map Component.name, (c != .here) = true := by
    intro c hc
    obtain ⟨name, -, rfl⟩ := List.mem_map.mp hc
    rfl
  rw [Path.components, pieces_path h, if_pos loc.isAbsolute_path, hnames, List.filter_eq_self.mpr hall]

namespace FileSystem

variable {fs : FileSystem}

/-- Above whatever stands somewhere there are directories only. -/
theorem dir_above {above below : Location} {entry : Entry} (h : fs.lookup (above ++ below) = some entry)
    (hne : below ≠ []) : fs.lookup above = some .dir := by
  induction below using List.reverseRecOn generalizing entry with
  | nil => exact absurd rfl hne
  | append_singleton between name ih =>
    rw [← List.append_assoc] at h
    have hdir := (fs.lookup_parent h).1
    cases between with
    | nil => rwa [List.append_nil] at hdir
    | cons => exact ih hdir (List.cons_ne_nil _ _)

/-- A path that is written from the root on, in names only, and along which no link stands. -/
structure LinkFree (fs : FileSystem) (p : Path) : Prop where
  absolute : p.isAbsolute
  unlinked : ∃ loc : Location, p.components = .root :: loc.map .name ∧ ∀ above, above <+: loc → fs.Direct above

theorem linkFree_path {loc : Location} {entry : Entry} (h : fs.lookup loc = some entry) (hd : fs.Direct loc) :
    fs.LinkFree loc.path := by
  refine ⟨loc.isAbsolute_path, loc, Location.components_path (spelled_of_lookup h), ?_⟩
  rintro above ⟨below, rfl⟩
  by_cases hne : below = []
  · rwa [hne, List.append_nil] at hd
  · exact direct_of_dir (dir_above h hne)

/-- A path that starts from a directory which is there, and on whose way every location can be spelled, with a slash
behind it, in fewer octets than the system takes. -/
structure Spellable (fs : FileSystem) (cwd : Location) (p : Path) : Prop where
  started : fs.lookup (origin cwd p) = some .dir
  short : ∀ loc ∈ fs.visits cwd true p, loc.width + 1 < maxPathLength

theorem Spellable.not_unspellable {cwd : Location} {p : Path} (h : fs.Spellable cwd p) (e : IoError) :
    ¬fs.Unspellable cwd p e := by
  rintro (hstart | ⟨-, loc, hl, hlong⟩)
  · rw [startAt_eq_ok_iff.mpr ⟨rfl, h.started⟩] at hstart
    cases hstart
  · exact absurd (h.short loc hl) (Nat.not_lt.mpr hlong)

/-- What is found has a canonical form, and that leads to it, too. -/
theorem linkFree_of_pathExists {cwd : Location} {p : Path} (hspell : fs.Spellable cwd p) (h : fs.pathExists cwd p) :
    ∃ canonical, fs.canonicalize cwd p = .ok canonical ∧ fs.LinkFree canonical ∧
      ∀ dir, fs.MeansSame dir canonical cwd p := by
  obtain ⟨object, hs⟩ := stat_of_pathExists h
  have hdenoted := denoted_of_find hs
  have hcanonical : fs.canonicalize cwd p = .ok (Location.path object.1) := by
    rw [canonicalize_eq_denoted hspell.started hspell.short, hdenoted]
    rfl
  obtain ⟨hl, hd⟩ := lookup_of_denoted hspell.started hdenoted
  exact ⟨_, hcanonical, linkFree_path hl hd, (meansSame_canonicalize h hcanonical).2⟩

end FileSystem

/-! ### Reports of a model that leads nowhere -/

/-- The event tells of a model that could not be resolved. -/
def Event.isUnresolved : Event → Bool
  | .modelUnresolved .. => true
  | _ => false

/-- Between two traces nothing but the tools themselves has told of a model that could not be resolved. -/
def Trace.Resolves (runner : Runner) (t u : Trace) : Prop :=
  ∃ calls events, u.calls = t.calls ++ calls ∧ u.events = t.events ++ events ∧
    ∀ e ∈ events, e.isUnresolved → ∃ call ∈ calls, e ∈ (runner.run call.command call.before).events

namespace Trace.Resolves

variable {runner : Runner} {t u v : Trace} {α β : Type}

theorem trans (h : t.Resolves runner u) (h' : u.Resolves runner v) : t.Resolves runner v := by
  obtain ⟨calls, events, hcalls, hevents, hquiet⟩ := h
  obtain ⟨calls', events', hcalls', hevents', hquiet'⟩ := h'
  refine ⟨calls ++ calls', events ++ events', by simp [hcalls', hcalls], by simp [hevents', hevents], fun e he hu => ?_⟩
  rcases List.mem_append.mp he with he | he
  · obtain ⟨call, hcall, hsaid⟩ := hquiet e he hu
    exact ⟨call, List.mem_append_left _ hcall, hsaid⟩
  · obtain ⟨call, hcall, hsaid⟩ := hquiet' e he hu
    exact ⟨call, List.mem_append_right _ hcall, hsaid⟩

theorem events {es : List Event} (hcalls : u.calls = t.calls) (hevents : u.events = t.events ++ es)
    (hes : ∀ e ∈ es, e.isUnresolved = false) : t.Resolves runner u :=
  ⟨[], es, by simp [hcalls], hevents, fun e he hu => absurd (hes e he) (by simp [hu])⟩

theorem refl (t : Trace) : t.Resolves runner t := .events rfl (List.append_nil _).symm nofun

theorem record {es : List Event} (hes : ∀ e ∈ es, e.isUnresolved = false) : t.Resolves runner (t.record es) :=
  .events rfl rfl hes

theorem bind {m : Grading α} {f : α → Grading β} (hm : t.Resolves runner (m t).2)
    (hf : ∀ a, (m t).2.Resolves runner (f a (m t).2).2) : t.Resolves runner ((m >>= f) t).2 := by
  rw [Grading.bind_run]
  rcases hmt : m t with ⟨a | e | message | _, s⟩
  · rw [hmt] at hm hf
    exact hm.trans (hf a)
  all_goals
    rw [hmt] at hm
    exact hm

/-- Asking a tool, whatever the tool says. -/
theorem ask {judge : Except RunError ToolOutput → Bool × Event} {known : Bool → Event}
    (hjudge : ∀ outcome, (judge outcome).2.isUnresolved = false) (hknown : ∀ b, (known b).isUnresolved = false)
    (command : ToolCommand) (t : Trace) : t.Resolves runner (Grading.ask runner judge known command t).2 := by
  rw [Grading.ask_apply]
  refine ⟨_, _, rfl, List.append_assoc _ _ _, fun e he hu => ?_⟩
  rcases List.mem_append.mp he with he | he
  · exact ⟨_, List.mem_singleton_self _, he⟩
  · exfalso
    cases hending : (runner.run command t.fs).ending with
    | panic | pending => simp [hending, RunEnding.reported] at he
    | done outcome =>
      simp only [hending, RunEnding.reported, List.mem_cons, List.not_mem_nil, or_false] at he
      rcases he with rfl | rfl
      · simp [hjudge] at hu
      · simp [hknown] at hu

end Trace.Resolves

namespace Workdir

variable {cwd : Location}

theorem isUnresolved_removeScratch (fs : FileSystem) (p : Path) :
    ∀ e ∈ (removeScratch cwd fs p).2, e.isUnresolved = false := by
  intro e he
  unfold removeScratch at he
  split at he
  · rw [List.mem_singleton.mp he]
    rfl
  · split_ifs at he
    · cases he
    · rw [List.mem_singleton.mp he]
      rfl

theorem isUnresolved_sweep (paths : List Path) (fs : FileSystem) :
    ∀ e ∈ (sweep cwd paths fs).2, e.isUnresolved = false := by
  induction paths generalizing fs with
  | nil => exact nofun
  | cons p paths ih =>
    intro e he
    rcases List.mem_append.mp he with he | he
    · exact isUnresolved_removeScratch fs p e he
    · exact ih _ e he

end Workdir

/-! ### Checks and runs -/

/-- Whatever a tool answers, a score comes of it or the call is torn down. -/
theorem RunEnding.scored_ne_error {judge : Except RunError ToolOutput → Bool × Event} {e : ScoreError}
    (ending : RunEnding) : ending.scored judge ≠ .error e := by
  cases ending <;> nofun

variable {cwd : Location} {config : Config} {runner : Runner} {timing : Timing} {original generated : Path}

/-- A check of a model that has a canonical path does not tell that it could not be resolved. -/
theorem Validity.resolves_check {model canonical : Path} {t : Trace}
    (hmodel : t.fs.canonicalize cwd model = .ok canonical) :
    t.Resolves runner (check cwd config runner model t).2 := by
  rcases check_cases cwd config runner model t with ⟨e, -, hcheck⟩ | ⟨-, e, he, -⟩ | ⟨-, jar, path, -, -, hcheck⟩
  · rw [hcheck]
    exact .refl t
  · exact absurd (hmodel.symm.trans he) nofun
  · have hannounced : t.Resolves runner (t.record [.checkingValidity path config.workdir]) :=
      .record (by simp [Event.isUnresolved])
    rw [hcheck, Grading.guarded_apply]
    refine (hannounced.trans (.ask (fun outcome => by cases outcome <;> rfl) (fun _ => rfl) _ _)).trans
      (.events rfl rfl ?_)
    rw [Workdir.cleanScratch_eq_sweep]
    exact Workdir.isUnresolved_sweep _ _

theorem Equivalence.resolves_score (t : Trace) :
    t.Resolves runner (score cwd config runner original generated t).2 := by
  rw [score_apply]
  cases fault? cwd config original generated t.fs with
  | some e => exact .refl t
  | none =>
    have hannounced : t.Resolves runner
        (t.record [.checkingEquivalence original generated config.scope config.solver]) :=
      .record (by simp [Event.isUnresolved])
    exact hannounced.trans (.ask (fun outcome => by cases outcome <;> rfl) (fun _ => rfl) _ _)

namespace Pipeline

theorem resolves_conclude (valid : Option Score) (equivalence : Score) (t : Trace) :
    t.Resolves runner (conclude cwd timing original generated valid equivalence t).2 := by
  have hdigest (p : Path) (fs : FileSystem) : ∀ e ∈ (ModelDigest.ofFile cwd fs p).2, e.isUnresolved = false := by
    intro e he
    unfold ModelDigest.ofFile at he
    split at he
    · cases he
    · rw [List.mem_singleton.mp he]
      rfl
  refine .bind (.record (hdigest _ _)) fun _ => .bind (.record (hdigest _ _)) fun _ => ?_
  exact .bind (.record (by simp [Event.isUnresolved])) fun _ => .refl _

/-- A run tells that a generated model with a canonical path could not be resolved only if a tool says so. -/
theorem resolves_run (cwd : Location) (config : Config) (runner : Runner) (timing : Timing)
    (original generated : Path) (mode : Mode) {t : Trace} {canonical : Path}
    (hgenerated : t.fs.canonicalize cwd generated = .ok canonical) :
    t.Resolves runner (run cwd config runner timing original generated mode t).2 := by
  have hstarted : t.Resolves runner (t.record [.runStarted mode]) := .record (by simp [Event.isUnresolved])
  rw [run_apply]
  cases hfault : Equivalence.fault? cwd config original generated t.fs with
  | some e => exact hstarted
  | none =>
    refine hstarted.trans (.bind ?_ fun valid => .bind (Equivalence.resolves_score _) fun score => ?_)
    · cases mode with
      | combined => exact .bind (Validity.resolves_check hgenerated) fun _ => .refl _
      | equivalenceOnly => exact .refl _
    · exact resolves_conclude valid score _

/-- The calls of the analyzer among some calls. -/
def analyzerCalls (calls : List Call) : List Call := calls.filter (·.command.name = ToolCommand.analyzerExecName)

theorem analyzerCalls_differ (calls : List Call) {call : Call} {jar : Path}
    (hcommand : call.command = .moduleDiff config jar original generated) :
    analyzerCalls (calls ++ [call]) = analyzerCalls calls := by
  have hname : call.command.name ≠ ToolCommand.analyzerExecName := by
    rw [hcommand]
    exact ToolCommand.moduleDiffName_ne
  simp [analyzerCalls, hname]

section Once

variable {fs : FileSystem} {canonical : Path} (hgenerated : fs.canonicalize cwd generated = .ok canonical)
include hgenerated

theorem FirstHalf.length_analyzerCalls {left : FileSystem} {valid? : Option (Option Score)} {calls : List Call}
    (first : FirstHalf cwd config runner generated fs .combined valid? left calls) :
    (analyzerCalls calls).length = 1 := by
  cases first with
  | unresolved hpath => exact absurd (hgenerated.symm.trans hpath) nofun
  | asked hjar hpath hcommand hanswer hvalid hleft =>
    subst hcommand
    rfl

/-- A run that checks such a generated model and is not refused calls the analyzer once. -/
theorem Course.length_analyzerCalls {last : FileSystem} {ending : Ending Report} {calls : List Call}
    (hc : Course cwd config runner timing original generated fs .combined ending last calls)
    (h : fault? cwd config original generated .combined fs = none) : (analyzerCalls calls).length = 1 := by
  cases hc with
  | refused hf => cases h.symm.trans hf
  | tornEarly _ first | failed _ first => exact first.length_analyzerCalls hgenerated
  | tornLate _ first _ hcommand | finished _ first _ hcommand =>
    rw [analyzerCalls_differ _ hcommand]
    exact first.length_analyzerCalls hgenerated

end Once

end Pipeline

/-- Existence checks and canonical paths agree, for paths that are not too long to be spelled. Whatever path is found, as
a file or at all, has a canonical form: an absolute path in names only, along which no link stands, and which denotes
from every directory what the path denotes. So a check never fails for want of a canonical path; and a run that checks
the generated model, once it has passed its first checks and the analyzer's jar is there, calls the analyzer exactly once
and does not itself report that the model could not be resolved. -/
theorem found_paths_resolve :
    (∀ (fs : FileSystem) (cwd : Location) (p : Path), fs.Spellable cwd p → fs.isFile cwd p ∨ fs.pathExists cwd p →
      ∃ canonical, fs.canonicalize cwd p = .ok canonical ∧ fs.LinkFree canonical ∧
        ∀ dir, fs.MeansSame dir canonical cwd p) ∧
    (∀ (cwd : Location) (config : Config) (runner : Runner) (model : Path) (t : Trace) (e : IoError),
      t.fs.Spellable cwd config.artifacts.analyzerJar →
      (Validity.check cwd config runner model t).1 ≠ .error (.io e)) ∧
    ∀ (cwd : Location) (config : Config) (runner : Runner) (timing : Timing) (original generated jar : Path)
      (fs : FileSystem), fs.Spellable cwd config.artifacts.analyzerJar → fs.Spellable cwd generated →
      Equivalence.preflight cwd config original generated fs = .ok jar →
      fs.isFile cwd config.artifacts.analyzerJar →
      let trace := (Pipeline.run cwd config runner timing original generated .combined (.start fs)).2
      (Pipeline.analyzerCalls trace.calls).length = 1 ∧
        ∀ e ∈ trace.events, e.isUnresolved →
          ∃ call ∈ trace.calls, e ∈ (runner.run call.command call.before).events := by
  refine ⟨fun fs cwd p hspell h => ?_, fun cwd config runner model t e hspell => ?_,
    fun cwd config runner timing original generated jar fs hspell hspell' hpreflight hjar => ?_⟩
  · exact FileSystem.linkFree_of_pathExists hspell (h.elim FileSystem.pathExists_of_isFile id)
  · rcases Validity.check_cases cwd config runner model t with
      ⟨e', he, hcheck⟩ | ⟨-, _, -, hcheck⟩ | ⟨-, jar, path, -, -, hcheck⟩
    · rw [hcheck]
      rcases Validity.fault?_eq_some_cases he with ⟨-, rfl⟩ | ⟨reason, -, -, -, hreason⟩
      · nofun
      · exact absurd hreason (hspell.not_unspellable reason)
    · rw [hcheck]
      nofun
    · rw [hcheck, Grading.guarded_apply, Grading.ask_apply]
      exact RunEnding.scored_ne_error _
  · have hfault : Equivalence.fault? cwd config original generated fs = none := by
      rw [Equivalence.preflight_eq] at hpreflight
      cases hf : Equivalence.fault? cwd config original generated fs with
      | none => rfl
      | some e => simp [hf] at hpreflight
    obtain ⟨canonicalJar, hcanonicalJar, -⟩ :=
      FileSystem.linkFree_of_pathExists hspell (FileSystem.pathExists_of_isFile hjar)
    obtain ⟨canonical, hcanonical, -⟩ := FileSystem.linkFree_of_pathExists hspell'
      (Pipeline.equivalence_fault?_eq_none_iff.mp hfault).2.2
    refine ⟨?_, fun e he hu => ?_⟩
    · refine (Pipeline.course_run cwd config runner timing original generated .combined fs).length_analyzerCalls
        hcanonical (Pipeline.fault?_eq_none_iff.mpr ⟨hfault, fun _ => ?_⟩)
      exact Validity.fault?_eq_none_iff.mpr ⟨hjar, .inr ⟨canonicalJar, hcanonicalJar⟩⟩
    · have hstart : (Trace.start fs).fs.canonicalize cwd generated = .ok canonical := hcanonical
      obtain ⟨calls, events, hcalls, hevents, hquiet⟩ := Pipeline.resolves_run cwd config runner timing original
        generated .combined hstart
      rw [hevents] at he
      obtain ⟨call, hcall, hsaid⟩ := hquiet e he hu
      exact ⟨call, by rw [hcalls]; exact hcall, hsaid⟩

/-- A site in which the way to the generated model leads through a link in the middle, back up and through the link
again. -/
theorem found_paths_resolve_linked :
    let winding := Path.ofString "l/../d/.././l//g"
    Pipeline.linkedSite.pathExists [] winding ∧
      (∃ canonical, Pipeline.linkedSite.canonicalize [] winding = .ok canonical ∧
        canonical = .ofString "/d/g" ∧ Pipeline.linkedSite.LinkFree canonical ∧
        ∀ dir, Pipeline.linkedSite.MeansSame dir canonical [] winding) ∧
      let trace := (Pipeline.run [] .default Pipeline.content (Pipeline.noon 0) (.ofString "o") winding .combined
        (.start Pipeline.linkedSite)).2
      (Pipeline.analyzerCalls trace.calls).length = 1 ∧ ∀ e ∈ trace.events, e.isUnresolved = false := by
  intro winding
  obtain ⟨hfound, -, hrun⟩ := found_paths_resolve
  have hexists : Pipeline.linkedSite.pathExists [] winding := by decide
  have hspell : Pipeline.linkedSite.Spellable [] winding := ⟨rfl, by decide +kernel⟩
  have hspellJar : Pipeline.linkedSite.Spellable [] Config.default.artifacts.analyzerJar := ⟨rfl, by decide +kernel⟩
  obtain ⟨canonical, hcanonical, hfree, hmeans⟩ := hfound Pipeline.linkedSite [] winding hspell (.inr hexists)
  have hspelled : Pipeline.linkedSite.canonicalize [] winding = .ok (.ofString "/d/g") := by decide +kernel
  obtain rfl : canonical = .ofString "/d/g" := Except.ok.inj (hcanonical.symm.trans hspelled)
  obtain ⟨honce, hsilent⟩ := hrun [] .default Pipeline.content (Pipeline.noon 0) (.ofString "o") winding
    (.ofString "./alloy-diff.jar") Pipeline.linkedSite hspellJar hspell (by decide) (by decide)
  refine ⟨hexists, ⟨_, hcanonical, rfl, hfree, hmeans⟩, honce, fun e he => ?_⟩
  refine Bool.eq_false_iff.mpr fun hu => ?_
  obtain ⟨call, -, hsaid⟩ := hsilent e he hu
  cases hsaid

end AlloyGrade
