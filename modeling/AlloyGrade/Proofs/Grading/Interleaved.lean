import AlloyGrade.Proofs.Grading.Repeated
import Mathlib.Logic.Function.Iterate

/-! Checks that are under way at the same time. A check is cut into its atomic steps, and several checks share
one file system and take their steps in any order. If each has a workdir of its own, they do not notice each
other: what one of them removes or leaves behind is nothing that another one looks at. -/

namespace AlloyGrade

open FileSystem

theorem Validity.analyze_eq_ask (runner : Runner) (command : ToolCommand) :
    analyze runner command = Grading.ask runner judge .validityKnown command := rfl

/-- A check that is to be made. -/
structure Job where
  cwd : Location
  config : Config
  runner : Runner
  model : Path

namespace Job

def workdir (job : Job) : Workdir := ⟨job.config.workdir⟩

/-- The paths that a job looks up. -/
def paths (job : Job) : List Path := [job.config.workdir, job.config.artifacts.analyzerJar, job.model]

def check (job : Job) (fs : FileSystem) : Ending Score × Trace :=
  Validity.check job.cwd job.config job.runner job.model (.start fs)

/-- What a job does next. -/
inductive Stage where
  | checkJar
  | resolveModel
  | resolveJar (model : Path)
  | launch (command : ToolCommand)
  /-- The analyzer has run, and there are scratch paths left to remove. -/
  | cleanUp (ending : Ending Score) (left : List Path)
  /-- Ended without a launch. -/
  | stopped (ending : Ending Score)

/-- How a job has ended that has nothing left to do. -/
def Stage.ending? : Stage → Option (Ending Score)
  | .cleanUp ending [] | .stopped ending => some ending
  | _ => none

structure Progress where
  stage : Stage
  events : List Event
  calls : List Call

namespace Progress

def start : Progress := ⟨.checkJar, [], []⟩

def enter (p : Progress) (stage : Stage) (events : List Event) : Progress :=
  { p with stage, events := p.events ++ events }

def commands (p : Progress) : List ToolCommand := p.calls.map Call.command

end Progress

/-- One atomic step. A job that has ended stays as it is. -/
def step (job : Job) (fs : FileSystem) (p : Progress) : FileSystem × Progress :=
  match p.stage with
  | .checkJar =>
    match job.config.artifacts.requireAnalyzerJar job.cwd fs with
    | .error e => (fs, p.enter (.stopped (.error e)) [])
    | .ok _ => (fs, p.enter .resolveModel [])
  | .resolveModel =>
    match fs.canonicalize job.cwd job.model with
    | .error e => (fs, p.enter (.stopped (.value (.ofPassed false))) [.modelUnresolved job.model e])
    | .ok model => (fs, p.enter (.resolveJar model) [])
  | .resolveJar model =>
    match fs.canonicalize job.cwd job.config.artifacts.analyzerJar with
    | .error e => (fs, p.enter (.stopped (.error (.io e))) [])
    | .ok jar => (fs, p.enter (.launch (.analyzerExec job.config jar model job.config.workdir))
        [.checkingValidity model job.config.workdir])
  | .launch command =>
    let (ending, t) := Validity.analyze job.runner command ⟨fs, p.events, p.calls⟩
    (t.fs, ⟨.cleanUp ending job.workdir.scratchPaths, t.events, t.calls⟩)
  | .cleanUp ending (path :: left) =>
    let (fs, events) := Workdir.removeScratch job.cwd fs path
    (fs, p.enter (.cleanUp ending left) events)
  | .cleanUp _ [] | .stopped _ => (fs, p)

/-- A number of steps of one job on its own. -/
def steps (job : Job) (n : Nat) (fs : FileSystem) (p : Progress) : FileSystem × Progress :=
  (fun s => job.step s.1 s.2)^[n] (fs, p)

theorem steps_succ (job : Job) (n : Nat) (fs : FileSystem) (p : Progress) :
    job.steps (n + 1) fs p = job.steps n (job.step fs p).1 (job.step fs p).2 := rfl

theorem step_ended (job : Job) (fs : FileSystem) {p : Progress} {ending : Ending Score}
    (h : p.stage.ending? = some ending) : job.step fs p = (fs, p) := by
  obtain ⟨stage, events, calls⟩ := p
  cases stage with
  | checkJar | resolveModel | resolveJar | launch => cases h
  | cleanUp ending left =>
    cases left with
    | nil => rfl
    | cons path left => cases h
  | stopped ending => rfl

/-- The last steps of a job that has launched its analyzer. -/
theorem steps_cleanUp (job : Job) (ending : Ending Score) (left : List Path) (fs : FileSystem) (events : List Event)
    (calls : List Call) :
    job.steps left.length fs ⟨.cleanUp ending left, events, calls⟩ =
      ((Workdir.sweep job.cwd left fs).1, ⟨.cleanUp ending [], events ++ (Workdir.sweep job.cwd left fs).2, calls⟩) := by
  induction left generalizing fs events with
  | nil => simp [steps]
  | cons path left ih =>
    rw [List.length_cons, steps_succ, Workdir.sweep_cons, ← List.append_assoc]
    exact ih _ _

/-- Six steps make a check. -/
theorem steps_six (job : Job) (fs : FileSystem) : ∃ stage, stage.ending? = some (job.check fs).1 ∧
    job.steps 6 fs .start = ((job.check fs).2.fs, ⟨stage, (job.check fs).2.events, (job.check fs).2.calls⟩) := by
  have hcheck := Validity.check_apply job.cwd job.config job.runner job.model (.start fs)
  rw [← check] at hcheck
  rw [steps_succ, step, Progress.start, Artifacts.requireAnalyzerJar, requireArtifact]
  cases hjar : fs.isFile job.cwd job.config.artifacts.analyzerJar with
  | false =>
    simp only [Trace.start, hjar] at hcheck
    rw [hcheck]
    exact ⟨_, rfl, Function.iterate_fixed (job.step_ended fs rfl) 5⟩
  | true =>
    simp only [Trace.start, hjar] at hcheck
    cases hmodel : fs.canonicalize job.cwd job.model with
    | error e =>
      simp only [hmodel] at hcheck
      simp only [if_true, steps_succ, step, Progress.enter, hmodel, hcheck]
      exact ⟨_, rfl, rfl⟩
    | ok model =>
      cases hresolved : fs.canonicalize job.cwd job.config.artifacts.analyzerJar with
      | error e =>
        simp only [hmodel, hresolved] at hcheck
        simp only [if_true, steps_succ, step, Progress.enter, hmodel, hresolved, hcheck]
        exact ⟨_, rfl, rfl⟩
      | ok jar =>
        simp only [hmodel, hresolved] at hcheck
        rw [hcheck, Grading.guarded_apply, Workdir.cleanScratch_eq_sweep]
        simp only [if_true, steps_succ job 4, steps_succ job 3, steps_succ job 2, step, Progress.enter, hmodel,
          hresolved]
        exact ⟨_, rfl, steps_cleanUp job _ job.workdir.scratchPaths _ _ _⟩

/-- Two states of a job that differ at most in what was reported and in what the analyzer found. -/
structure Progress.Alike (p q : Progress) : Prop where
  stage : p.stage = q.stage
  commands : p.commands = q.commands

theorem Progress.Alike.trans {p q r : Progress} (hpq : p.Alike q) (hqr : q.Alike r) : p.Alike r :=
  ⟨hpq.stage.trans hqr.stage, hpq.commands.trans hqr.commands⟩

theorem Progress.Alike.enter {p q : Progress} (h : p.Alike q) (stage : Stage) (events more : List Event) :
    (p.enter stage events).Alike (q.enter stage more) := ⟨rfl, h.commands⟩

theorem step_launch (job : Job) (fs : FileSystem) (command : ToolCommand) (events : List Event) (calls : List Call) :
    job.step fs ⟨.launch command, events, calls⟩ =
      let answer := job.runner.run command fs
      (answer.fs, ⟨.cleanUp (answer.ending.scored Validity.judge) job.workdir.scratchPaths,
        events ++ answer.events ++ answer.ending.reported Validity.judge .validityKnown,
        calls ++ [⟨command, fs, answer.ending.outcome?⟩]⟩) := by
  have hask := Grading.ask_apply job.runner Validity.judge .validityKnown command ⟨fs, events, calls⟩
  rw [← Validity.analyze_eq_ask] at hask
  simp only [step, hask]

/-- What a job does next depends on nothing else. -/
theorem step_alike (job : Job) (fs : FileSystem) {p q : Progress} (h : p.Alike q) :
    (job.step fs p).2.Alike (job.step fs q).2 := by
  obtain ⟨stage, events, calls⟩ := p
  obtain ⟨_, more, calls'⟩ := q
  obtain rfl : stage = _ := h.stage
  cases stage with
  | checkJar | resolveModel | resolveJar =>
    simp only [step]
    split <;> exact h.enter _ _ _
  | launch command =>
    rw [step_launch, step_launch]
    exact ⟨rfl, by simpa [Progress.commands] using h.commands⟩
  | cleanUp ending left =>
    cases left with
    | nil => exact h
    | cons path left => exact h.enter _ _ _
  | stopped ending => exact h

/-- The progress of a job in a file system that never changes. -/
def script (job : Job) (fs : FileSystem) (n : Nat) : Progress := (fun p => (job.step fs p).2)^[n] .start

theorem script_succ (job : Job) (fs : FileSystem) (n : Nat) :
    job.script fs (n + 1) = (job.step fs (job.script fs n)).2 := Function.iterate_succ_apply' ..

end Job

/-! ### Jobs with workdirs of their own -/

section Separation

variable {ι : Type} (jobs : ι → Job)

/-- In the scratch places of the other jobs. -/
def Others (dir : ι → Location) (i : ι) (loc : Location) : Prop := ∃ j, j ≠ i ∧ Under (Workdir.scratchPlaces (dir j)) loc

/-- In the scratch places of any job. -/
def Anyones (dir : ι → Location) (loc : Location) : Prop := ∃ j, Under (Workdir.scratchPlaces (dir j)) loc

/-- Jobs with workdirs of their own. Each workdir is a directory of its own and not in the scratch places of another
job; no path that a job looks up starts from or leads through the scratch places; the analyzers change nothing but their
own scratch places, and answer in the same way whatever stands in those of the others. -/
structure Separate (dir : ι → Location) (fs : FileSystem) : Prop where
  resolved : ∀ i, fs.stat (jobs i).cwd (jobs i).config.workdir = .ok (dir i, .dir)
  distinct : ∀ i j, i ≠ j → dir i ≠ dir j
  outside : ∀ i j, i ≠ j → ¬Under (Workdir.scratchPlaces (dir i)) (dir j)
  clear : ∀ i, ∀ p ∈ (jobs i).paths, ∀ loc ∈ origin (jobs i).cwd p :: fs.visits (jobs i).cwd true p, ¬Anyones dir loc
  confined : ∀ i a, a.SameOff (Others dir i) fs → (jobs i).runner.Confined (Workdir.scratchPlaces (dir i)) a
  answers : ∀ i command a, a.SameOff (Others dir i) fs →
    ((jobs i).runner.run command a).ending = ((jobs i).runner.run command fs).ending

variable {jobs} {dir : ι → Location} {fs b b' : FileSystem} {i j : ι} {p : Job.Progress}

/-- Where a job stands that has taken some steps: before the launch, it has changed nothing; after it, what is left at
its scratch places can be removed, and it is removed where no path is left for it. -/
def Stands (job : Job) (dir : ι → Location) (fs : FileSystem) (i : ι) (now : FileSystem) (p : Job.Progress) : Prop :=
  match p.stage with
  | .cleanUp _ left => p.calls ≠ [] ∧ (∀ path ∈ left, path ∈ job.workdir.scratchPaths) ∧
      Workdir.Removable (Workdir.scratchPlaces (dir i)) now ∧
      ∀ name ∈ Workdir.scratchNames, (job.config.workdir.join (.ofString name)).bytes.length < maxPathLength →
        job.config.workdir.join (.ofString name) ∈ left ∨ now.lookup (Workdir.scratchPlace (dir i) name) = none
  | _ => p.calls = [] ∧ now.SameOff (Others dir i) fs

/-- Where a job stands that has ended. -/
theorem Stands.of_ended {job : Job} (hs : Stands job dir fs i b p) {ending : Ending Score}
    (he : p.stage.ending? = some ending) :
    (p.calls = [] ∧ b.SameOff (Others dir i) fs) ∨
      (p.calls ≠ [] ∧ ∀ name ∈ Workdir.scratchNames,
        (job.config.workdir.join (.ofString name)).bytes.length < maxPathLength →
          b.lookup (Workdir.scratchPlace (dir i) name) = none) := by
  obtain ⟨stage, events, calls⟩ := p
  cases stage with
  | checkJar | resolveModel | resolveJar | launch => cases he
  | cleanUp ending left =>
    obtain ⟨hcalls, -, -, hfree⟩ := hs
    cases left with
    | nil => exact .inr ⟨hcalls, fun name hname hshort => (hfree name hname hshort).resolve_left List.not_mem_nil⟩
    | cons path left => cases he
  | stopped ending => exact .inl hs

namespace Separate

variable (h : Separate jobs dir fs)
include h

/-- The scratch places of different jobs are apart. -/
theorem apart (hij : i ≠ j) {place : Location} (hp : place ∈ Workdir.scratchPlaces (dir j)) :
    ¬Under (Workdir.scratchPlaces (dir i)) place := by
  obtain ⟨name, -, rfl⟩ := List.mem_map.mp hp
  rintro ⟨other, ho, hpre⟩
  obtain ⟨name', -, rfl⟩ := List.mem_map.mp ho
  rcases List.prefix_concat_iff.mp hpre with heq | hpre
  · exact h.distinct i j hij (List.append_inj_left' heq rfl)
  · exact h.outside i j hij ⟨_, ho, hpre⟩

/-- What a job does at its scratch places leaves the other jobs where they stand. -/
theorem stands_frame (hij : i ≠ j) (hoff : b'.SameOff (Under (Workdir.scratchPlaces (dir i))) b)
    (hs : Stands (jobs j) dir fs j b p) : Stands (jobs j) dir fs j b' p := by
  obtain ⟨stage, events, calls⟩ := p
  have hplace : ∀ place ∈ Workdir.scratchPlaces (dir j), b'.lookup place = b.lookup place :=
    fun place hp => hoff place (h.apart hij hp)
  have hbefore : b.SameOff (Others dir j) fs → b'.SameOff (Others dir j) fs :=
    (hoff.mono fun loc hl => ⟨i, hij, hl⟩).trans
  cases stage with
  | checkJar | resolveModel | resolveJar | launch | stopped => exact ⟨hs.1, hbefore hs.2⟩
  | cleanUp ending left =>
    obtain ⟨hcalls, hleft, hk, hfree⟩ := hs
    refine ⟨hcalls, hleft, fun place hp => hplace place hp ▸ hk place hp, fun name hname hshort => ?_⟩
    rw [hplace _ (List.mem_map_of_mem hname)]
    exact hfree name hname hshort

variable (hsame : b.SameOff (Anyones dir) fs)
include hsame

/-- The removal of one scratch path of a job. -/
theorem stands_removeScratch {ending : Ending Score} {path : Path} {left : List Path} {events : List Event}
    {calls : List Call} (hs : Stands (jobs i) dir fs i b ⟨.cleanUp ending (path :: left), events, calls⟩) :
    let removed := (Workdir.removeScratch (jobs i).cwd b path).1
    removed.SameOff (Under (Workdir.scratchPlaces (dir i))) b ∧
      ∀ more, Stands (jobs i) dir fs i removed ⟨.cleanUp ending left, more, calls⟩ := by
  obtain ⟨hcalls, hleft, hk, hfree⟩ := hs
  have hclear : ∀ loc ∈ fs.visits (jobs i).cwd true (jobs i).config.workdir, ¬Anyones dir loc :=
    fun loc hl => h.clear i _ (.head _) loc (.tail _ hl)
  have hdir : b.stat (jobs i).cwd (jobs i).config.workdir = .ok (dir i, .dir) :=
    (hsame.stat_eq hclear).trans (h.resolved i)
  obtain ⟨name, hname, rfl⟩ := List.mem_map.mp (hleft path (.head _))
  have hentry := Workdir.isEntryName_of_mem_scratchNames name hname
  have hwithin : (Workdir.removeScratch (jobs i).cwd b ((jobs i).config.workdir.join (.ofString name))).1.Within b :=
    Workdir.removeScratch_within (Workdir.isChild_join hentry)
  refine ⟨?_, fun _ => ⟨hcalls, fun q hq => hleft q (.tail _ hq), fun place hp entry hl => ?_, ?_⟩⟩
  · exact (Workdir.sameOff_removeScratch hentry hdir).mono fun loc hpre => ⟨_, List.mem_map_of_mem hname, hpre⟩
  · exact hk place hp entry (hwithin _ _ hl)
  · intro other hother hshort
    rcases hfree other hother hshort with hpath | hnone
    · rcases List.mem_cons.mp hpath with heq | hpath
      · refine .inr ?_
        have hway : ∀ loc ∈ b.visits (jobs i).cwd true (jobs i).config.workdir,
            ¬(Workdir.scratchPlace (dir i) other <+: loc ∧ loc ≠ Workdir.scratchPlace (dir i) other) := by
          rw [hsame.visits_eq hclear]
          exact fun loc hl hbelow => hclear loc hl ⟨i, _, List.mem_map_of_mem hother, hbelow.1⟩
        have hplace := Workdir.lookup_removeScratch_place (Workdir.isEntryName_of_mem_scratchNames other hother) hdir
          hshort hway (hk _ (List.mem_map_of_mem hother)) (Workdir.scratchPlace (dir i) other)
        rw [if_pos (List.prefix_refl _), heq] at hplace
        exact hplace
      · exact .inl hpath
    · exact .inr (hwithin.lookup_eq_none hnone)

/-- One step of a job: it changes nothing but its scratch places, and it goes on as in the file system at the start. -/
theorem step_stands (hs : Stands (jobs i) dir fs i b p) :
    ((jobs i).step b p).1.SameOff (Under (Workdir.scratchPlaces (dir i))) b ∧
      Stands (jobs i) dir fs i ((jobs i).step b p).1 ((jobs i).step b p).2 ∧
      ((jobs i).step b p).2.Alike ((jobs i).step fs p).2 := by
  have hclear (path : Path) (hp : path ∈ (jobs i).paths) (loc : Location)
      (hl : loc ∈ fs.visits (jobs i).cwd true path) : ¬Anyones dir loc := h.clear i path hp loc (.tail _ hl)
  have horigin (path : Path) (hp : path ∈ (jobs i).paths) := h.clear i path hp _ (.head _)
  have hjar : (jobs i).config.artifacts.analyzerJar ∈ (jobs i).paths := .tail _ (.head _)
  have hmodel : (jobs i).model ∈ (jobs i).paths := .tail _ (.tail _ (.head _))
  obtain ⟨stage, events, calls⟩ := p
  cases stage with
  | checkJar =>
    have hrequire : (jobs i).config.artifacts.requireAnalyzerJar (jobs i).cwd b =
        (jobs i).config.artifacts.requireAnalyzerJar (jobs i).cwd fs := by
      rw [Artifacts.requireAnalyzerJar, Artifacts.requireAnalyzerJar, requireArtifact, requireArtifact,
        hsame.isFile_eq (hclear _ hjar)]
    simp only [Job.step, hrequire]
    split <;> exact ⟨.refl _ b, hs, rfl, rfl⟩
  | resolveModel =>
    simp only [Job.step, hsame.canonicalize_eq (hclear _ hmodel) (horigin _ hmodel)]
    split <;> exact ⟨.refl _ b, hs, rfl, rfl⟩
  | resolveJar model =>
    simp only [Job.step, hsame.canonicalize_eq (hclear _ hjar) (horigin _ hjar)]
    split <;> exact ⟨.refl _ b, hs, rfl, rfl⟩
  | launch command =>
    obtain ⟨hcalls, hoff⟩ := hs
    have hconfined := h.confined i b hoff
    rw [Job.step_launch, Job.step_launch]
    refine ⟨hconfined.sameOff command, ⟨?_, fun _ => id, hconfined.removable command, ?_⟩, ?_, ?_⟩
    · exact List.append_ne_nil_of_right_ne_nil _ (List.cons_ne_nil _ _)
    · exact fun name hname _ => .inl (List.mem_map_of_mem hname)
    · exact congrArg (fun ending => Job.Stage.cleanUp (RunEnding.scored Validity.judge ending) _)
        (h.answers i command b hoff)
    · simp [Job.Progress.commands]
  | cleanUp ending left =>
    cases left with
    | nil => exact ⟨.refl _ b, hs, rfl, rfl⟩
    | cons path left =>
      have hremoved := h.stands_removeScratch hsame hs
      exact ⟨hremoved.1, hremoved.2 _, rfl, rfl⟩
  | stopped ending => exact ⟨.refl _ b, hs, rfl, rfl⟩

end Separate

end Separation

/-! ### Jobs that share a file system -/

/-- Jobs under way in one file system. -/
structure Shared (ι : Type) where
  fs : FileSystem
  progress : ι → Job.Progress

section Interleaving

variable {ι : Type} [DecidableEq ι] (jobs : ι → Job)

/-- One of the jobs takes a step. -/
def Shared.turn (s : Shared ι) (i : ι) : Shared ι :=
  let (fs, p) := (jobs i).step s.fs (s.progress i)
  ⟨fs, Function.update s.progress i p⟩

/-- All jobs start in a file system, and then take their steps in a given order. -/
def interleave (fs : FileSystem) (schedule : List ι) : Shared ι :=
  schedule.foldl (Shared.turn jobs) ⟨fs, fun _ => .start⟩

theorem interleave_snoc (fs : FileSystem) (schedule : List ι) (i : ι) :
    interleave jobs fs (schedule ++ [i]) = (interleave jobs fs schedule).turn jobs i := by
  rw [interleave, List.foldl_append]
  rfl

/-- A job that has had no turn is still to begin. -/
theorem progress_of_not_mem (fs : FileSystem) {schedule : List ι} {i : ι} (h : i ∉ schedule) :
    (interleave jobs fs schedule).progress i = .start := by
  induction schedule using List.reverseRecOn with
  | nil => rfl
  | append_singleton schedule j ih =>
    have hij : i ≠ j := fun heq => h (by simp [heq])
    rw [interleave_snoc]
    exact (Function.update_of_ne hij _ _).trans (ih fun hi => h (List.mem_append_left _ hi))

/-- A job that has all the turns does what it does on its own. -/
theorem foldl_turn_replicate (s : Shared ι) (i : ι) (n : Nat) :
    let last := (List.replicate n i).foldl (Shared.turn jobs) s
    (last.fs, last.progress i) = (jobs i).steps n s.fs (s.progress i) := by
  induction n generalizing s with
  | zero => rfl
  | succ n ih =>
    have hself : (s.turn jobs i).progress i = ((jobs i).step s.fs (s.progress i)).2 := Function.update_self ..
    rw [List.replicate_succ, List.foldl_cons, Job.steps_succ, ← hself]
    exact ih _

/-- A job that begins when the others are through makes its check in what they have left. -/
theorem interleave_last_job (fs : FileSystem) {schedule : List ι} {i : ι} (h : i ∉ schedule) :
    (interleave jobs fs (schedule ++ List.replicate 6 i)).fs =
      ((jobs i).check (interleave jobs fs schedule).fs).2.fs := by
  have hturns := foldl_turn_replicate jobs (interleave jobs fs schedule) i 6
  obtain ⟨stage, -, hsteps⟩ := (jobs i).steps_six (interleave jobs fs schedule).fs
  rw [progress_of_not_mem jobs fs h, hsteps] at hturns
  rw [interleave, List.foldl_append]
  exact (Prod.mk.inj hturns).1

variable {jobs} {dir : ι → Location} {fs : FileSystem}

/-- After any number of turns, in any order, each job stands where the number of its own turns has brought it. -/
theorem Separate.interleave_stands (h : Separate jobs dir fs) (schedule : List ι) :
    (interleave jobs fs schedule).fs.SameOff (Anyones dir) fs ∧
      ∀ i, Stands (jobs i) dir fs i (interleave jobs fs schedule).fs ((interleave jobs fs schedule).progress i) ∧
        ((interleave jobs fs schedule).progress i).Alike ((jobs i).script fs (schedule.count i)) := by
  induction schedule using List.reverseRecOn with
  | nil => exact ⟨.refl _ fs, fun i => ⟨⟨rfl, .refl _ fs⟩, rfl, rfl⟩⟩
  | append_singleton schedule i ih =>
    obtain ⟨hsame, hjobs⟩ := ih
    obtain ⟨hoff, hown, halike⟩ := h.step_stands hsame (hjobs i).1
    rw [interleave_snoc]
    refine ⟨(hoff.mono fun loc hl => ⟨i, hl⟩).trans hsame, fun j => ?_⟩
    by_cases hij : i = j
    · subst hij
      simp only [Shared.turn, Function.update_self, List.count_append, List.count_singleton_self, Job.script_succ]
      exact ⟨hown, halike.trans (Job.step_alike _ fs (hjobs i).2)⟩
    · have hcount : (schedule ++ [i]).count j = schedule.count j := by simp [List.count_append, hij]
      simp only [Shared.turn, Function.update_of_ne (Ne.symm hij), hcount]
      exact ⟨h.stands_frame hij hoff (hjobs j).1, (hjobs j).2⟩

/-- A job that has had its six turns has ended as on its own. -/
theorem Separate.script_of_six (h : Separate jobs dir fs) (i : ι) {n : Nat} (hn : 6 ≤ n) :
    ((jobs i).script fs n).stage.ending? = some ((jobs i).check fs).1 ∧
      ((jobs i).script fs n).commands = ((jobs i).check fs).2.calls.map Call.command := by
  obtain ⟨stage, hended, hsteps⟩ := (jobs i).steps_six fs
  have halone := ((h.interleave_stands (List.replicate 6 i)).2 i).2
  have hturns := foldl_turn_replicate jobs ⟨fs, fun _ => .start⟩ i 6
  rw [hsteps] at hturns
  rw [List.count_replicate_self, interleave, (Prod.mk.inj hturns).2] at halone
  have hsix : ((jobs i).script fs 6).stage.ending? = some ((jobs i).check fs).1 := halone.stage ▸ hended
  have hrest : (jobs i).script fs n = (jobs i).script fs 6 := by
    obtain ⟨k, rfl⟩ := Nat.exists_eq_add_of_le' hn
    rw [Job.script, Function.iterate_add_apply]
    exact Function.iterate_fixed (congrArg Prod.snd ((jobs i).step_ended fs hsix)) k
  rw [hrest]
  exact ⟨hsix, halone.commands.symm⟩

/-- Jobs with workdirs of their own do not interfere. However their steps are interleaved, a job that has had its turns
has the result and the command that it has on its own. If it has launched its analyzer, nothing is left at its scratch
places, unless their paths are too long for the system; if not, it has changed nothing. Apart from the scratch places,
everything stands as at the start. -/
theorem interleave_as_alone (h : Separate jobs dir fs) (schedule : List ι) (i : ι) (hturns : 6 ≤ schedule.count i) :
    let alone := (jobs i).check fs
    let last := interleave jobs fs schedule
    (last.progress i).stage.ending? = some alone.1 ∧
    (last.progress i).commands = alone.2.calls.map Call.command ∧
    (alone.2.calls ≠ [] → ∀ name ∈ Workdir.scratchNames,
      ((jobs i).config.workdir.join (.ofString name)).bytes.length < maxPathLength →
        last.fs.lookup (Workdir.scratchPlace (dir i) name) = none) ∧
    (alone.2.calls = [] → last.fs.SameOff (Others dir i) fs) ∧
    last.fs.SameOff (Anyones dir) fs := by
  intro alone last
  obtain ⟨hsame, hjobs⟩ := h.interleave_stands schedule
  obtain ⟨hstands, halike⟩ := hjobs i
  obtain ⟨hended, hcommands⟩ := h.script_of_six i hturns
  have hstage : (last.progress i).stage.ending? = some alone.1 := halike.stage ▸ hended
  have hcalls : (last.progress i).commands = alone.2.calls.map Call.command := halike.commands.trans hcommands
  have hlaunched : (last.progress i).calls = [] ↔ alone.2.calls = [] := by
    rw [← List.map_eq_nil_iff (f := Call.command), ← Job.Progress.commands, hcalls, List.map_eq_nil_iff]
  refine ⟨hstage, hcalls, fun hsome => ?_, fun hnone => ?_, hsame⟩
  · rcases hstands.of_ended hstage with ⟨hnone, -⟩ | ⟨-, hfree⟩
    · exact absurd (hlaunched.mp hnone) hsome
    · exact hfree
  · rcases hstands.of_ended hstage with ⟨-, hoff⟩ | ⟨hsome, -⟩
    · exact hoff
    · exact absurd (hlaunched.mpr hnone) hsome

end Interleaving

/-! ### Two jobs that make a mess -/

/-- A job whose analyzer accepts everything and leaves its litter in the workdir. -/
def messyJob (place : Location) (workdir model : Path) : Job :=
  ⟨[], Config.default.withWorkdir workdir, Validity.littering place, model⟩

/-- Two such jobs, given by where their workdirs are, the paths of these, and the models. -/
def neighbours (places : Bool → Location) (workdirs models : Bool → Path) (i : Bool) : Job :=
  messyJob (places i) (workdirs i) (models i)

section Neighbours

variable {places : Bool → Location} {workdirs models : Bool → Path} {fs : FileSystem}

/-- Whether two such jobs have workdirs of their own is a matter of where their paths lead. -/
theorem neighbours_separate (resolved : ∀ i, fs.stat [] (workdirs i) = .ok (places i, .dir))
    (distinct : ∀ i j, i ≠ j → places i ≠ places j)
    (outside : ∀ i j, i ≠ j → ¬Under (Workdir.scratchPlaces (places i)) (places j))
    (clear : ∀ i, ∀ p ∈ (neighbours places workdirs models i).paths, ∀ loc ∈ origin [] p :: fs.visits [] true p,
      ∀ j, ¬Under (Workdir.scratchPlaces (places j)) loc) :
    Separate (neighbours places workdirs models) places fs where
  resolved := resolved
  distinct := distinct
  outside := outside
  clear i p hp loc hl := fun ⟨j, hj⟩ => clear i p hp loc hl j hj
  confined i a _ := Validity.littering_confined (places i) a
  answers _ _ _ _ := rfl

end Neighbours

/-- Two directories in the root. -/
def nextDoor (i : Bool) : String := if i then "d" else "e"

def nextDoorSite : FileSystem := Pipeline.site [["d"], ["e"]] [["g"]]

def nextDoorJobs : Bool → Job :=
  neighbours (fun i => [Bytes.ofString (nextDoor i)]) (fun i => .ofString (nextDoor i)) fun _ => .ofString "g"

/-- What the two jobs leave that take turns. -/
def nextDoorLast : Shared Bool := interleave nextDoorJobs nextDoorSite (List.replicate 6 [true, false]).flatten

/-- Both analyzers accept their model, and no litter stays. -/
theorem interleave_as_alone_nextDoor :
    (nextDoorLast.progress true).stage.ending? = some (.value (.ofPassed true)) ∧
    (nextDoorLast.progress false).stage.ending? = some (.value (.ofPassed true)) ∧
    ∀ i, ∀ place ∈ Workdir.scratchPlaces [Bytes.ofString (nextDoor i)], nextDoorLast.fs.lookup place = none := by
  have h : Separate nextDoorJobs (fun i => [Bytes.ofString (nextDoor i)]) nextDoorSite :=
    neighbours_separate (by decide) (by decide) (by decide) (by decide)
  have hturns : ∀ i, 6 ≤ (List.replicate 6 [true, false]).flatten.count i := by decide
  have hcheck : ∀ i, ((nextDoorJobs i).check nextDoorSite).1 = .value (.ofPassed true) ∧
      ((nextDoorJobs i).check nextDoorSite).2.calls.length = 1 := by decide
  have hshort : ∀ i, ∀ name ∈ Workdir.scratchNames,
      ((nextDoorJobs i).config.workdir.join (.ofString name)).bytes.length < maxPathLength := by decide
  have hended (i : Bool) : (nextDoorLast.progress i).stage.ending? = some (.value (.ofPassed true)) :=
    (interleave_as_alone h _ i (hturns i)).1.trans (congrArg some (hcheck i).1)
  refine ⟨hended true, hended false, fun i place hp => ?_⟩
  obtain ⟨name, hname, rfl⟩ := List.mem_map.mp hp
  have hcalls : ((nextDoorJobs i).check nextDoorSite).2.calls ≠ [] := List.ne_nil_of_length_eq_add_one (hcheck i).2
  exact (interleave_as_alone h _ i (hturns i)).2.2.1 hcalls name hname (hshort i name hname)

/-- Nothing is ever left at the scratch places when all jobs have had their turns. -/
def LeavesNothing (jobs : Bool → Job) (dir : Bool → Location) (fs : FileSystem) : Prop :=
  ∀ schedule : List Bool, (∀ i, 6 ≤ schedule.count i) → ∀ i, ∀ place ∈ Workdir.scratchPlaces (dir i),
    (interleave jobs fs schedule).fs.lookup place = none

/-- One job in the root, by a path that leaves no room for another name, and one next to it. -/
def farPlace (i : Bool) : Location := if i then [] else [Bytes.ofString "e"]

def farSite : FileSystem := Pipeline.site [["e"]] [["g"]]

def farJobs : Bool → Job :=
  neighbours farPlace (fun i => if i then Validity.farHere 4092 else .ofString "e") fun _ => .ofString "g"

theorem farJobs_separate : Separate farJobs farPlace farSite := by
  have hclear : ∀ p ∈ [Path.ofString "e", Config.default.artifacts.analyzerJar, .ofString "g"],
      ∀ loc ∈ origin [] p :: farSite.visits [] true p, ∀ j, ¬Under (Workdir.scratchPlaces (farPlace j)) loc := by decide
  refine neighbours_separate ?_ (by decide) (by decide) ?_
  · rintro (_ | _)
    · decide
    · exact Validity.stat_farHere farSite (by decide)
  · rintro (_ | _) p hp
    · exact hclear p hp
    · rcases List.mem_cons.mp hp with rfl | hp
      · intro loc hl
        have hl : loc ∈ origin [] (Validity.farHere 4092) :: farSite.visits [] true (Validity.farHere 4092) := hl
        rw [Validity.visits_farHere, origin, ite_self] at hl
        obtain rfl := List.mem_singleton.mp hl
        decide
      · exact hclear p (.tail _ hp)

theorem farJobs_check_fs {fs : FileSystem} {jar path : Path} (hfile : fs.isFile [] Config.default.artifacts.analyzerJar)
    (hjar : fs.canonicalize [] Config.default.artifacts.analyzerJar = .ok jar)
    (hmodel : fs.canonicalize [] (.ofString "g") = .ok path) :
    ((farJobs true).check fs).2.fs.lookup [Bytes.ofString "tmp"] = some .dir := by
  have hlong : maxPathLength ≤ (Validity.farHere 4092).bytes.length + 3 := by
    rw [Validity.length_farHere]
    decide
  obtain ⟨call, hcall⟩ := List.exists_mem_of_ne_nil _
    (Validity.check_calls_ne_nil [] (farJobs true).config (farJobs true).runner hfile hjar hmodel)
  have hfs : ((farJobs true).check fs).2.fs = ((farJobs true).runner.run call.command call.before).fs :=
    Validity.check_fs_of_long [] (farJobs true).config (farJobs true).runner _ fs hlong call hcall
  rw [hfs]
  rfl

/-- It takes more than workdirs of their own for nothing to be left. A job that ends without a launch leaves what it has
found, and where the paths are too long for the system even a job that has launched its analyzer leaves everything. -/
theorem interleave_litters :
    (¬∀ jobs dir fs, Separate jobs dir fs →
      (∀ i, ∀ p ∈ (jobs i).workdir.scratchPaths, p.bytes.length < maxPathLength) → LeavesNothing jobs dir fs) ∧
    ¬∀ jobs dir fs, Separate jobs dir fs → (∀ i, ((jobs i).check fs).2.calls ≠ []) → LeavesNothing jobs dir fs := by
  let rounds := List.replicate 6 false ++ List.replicate 6 true
  have hrounds : ∀ i, 6 ≤ rounds.count i := by decide
  refine ⟨fun h => ?_, fun h => ?_⟩
  · let fs := Pipeline.site [["d"], ["d", "tmp"], ["e"]] [["g"]]
    let jobs := neighbours (fun i => [Bytes.ofString (nextDoor i)]) (fun i => .ofString (nextDoor i))
      fun i => .ofString (if i then "h" else "g")
    have hsep : Separate jobs (fun i => [Bytes.ofString (nextDoor i)]) fs :=
      neighbours_separate (by decide) (by decide) (by decide) (by decide)
    have hkept : (interleave jobs fs rounds).fs.lookup (Workdir.scratchPlace [Bytes.ofString (nextDoor true)] "tmp") =
        some .dir := by decide
    have hnone := h jobs _ fs hsep (by decide) rounds hrounds true _ (.head _)
    rw [hkept] at hnone
    cases hnone
  · let jar := Path.ofString "/org.alloytools.alloy.dist.jar"
    have hfile : ∀ i, farSite.isFile [] (farJobs i).config.artifacts.analyzerJar := by decide
    have hjar : ∀ i, farSite.canonicalize [] (farJobs i).config.artifacts.analyzerJar = .ok jar := by decide
    have hmodel : ∀ i, farSite.canonicalize [] (farJobs i).model = .ok (.ofString "/g") := by decide
    have hnone := h farJobs farPlace farSite farJobs_separate
      (fun i => Validity.check_calls_ne_nil [] _ (farJobs i).runner (hfile i) (hjar i) (hmodel i)) rounds hrounds true
      [Bytes.ofString "tmp"] (.head _)
    rw [interleave_last_job farJobs farSite (by decide),
      @farJobs_check_fs _ jar (.ofString "/g") (by decide) (by decide) (by decide)] at hnone
    cases hnone

end AlloyGrade
