import AlloyGrade.Proofs.Grading.Course
import AlloyGrade.Proofs.ScratchPlaces
import Mathlib.Data.List.Forall2

/-! Checks made one after the other in the same workdir. If the analyzer changes nothing but the scratch
places, which were free, each check leaves the file system as it found it, so every check goes as if it were
the only one. -/

namespace AlloyGrade

open FileSystem

/-- Tools that, called in a file system, change it at most at some places and below, and leave at each place
nothing, a directory or a link. -/
structure Runner.Confined (runner : Runner) (places : List Location) (fs : FileSystem) : Prop where
  sameOff : ∀ command, (runner.run command fs).fs.SameOff (Under places) fs
  removable : ∀ command, Workdir.Removable places (runner.run command fs).fs

/-- Tools that answer by the command and by what stands in the file system. -/
def Runner.Deterministic (runner : Runner) : Prop :=
  ∀ command (a b : FileSystem), a.lookup = b.lookup → (runner.run command a).ending = (runner.run command b).ending

namespace Validity

/-- Checks models one after the other, each in the file system that the check before it has left. -/
def checkEach (cwd : Location) (config : Config) (runner : Runner) :
    List Path → FileSystem → List (Ending Score × Trace)
  | [], _ => []
  | model :: rest, fs =>
    let result := check cwd config runner model (.start fs)
    result :: checkEach cwd config runner rest result.2.fs

/-- A check has left everything as it is in a file system, and has gone as it does there on its own. -/
structure AsAlone (cwd : Location) (config : Config) (runner : Runner) (fs : FileSystem) (model : Path)
    (result : Ending Score × Trace) : Prop where
  restored : result.2.fs.lookup = fs.lookup
  ending : result.1 = (check cwd config runner model (.start fs)).1
  commands : result.2.calls.map Call.command =
    (check cwd config runner model (.start fs)).2.calls.map Call.command

section Restoring

variable {cwd dir : Location} {config : Config} {runner : Runner} {fs a : FileSystem}

/-- The cleanup undoes what confined tools have done. -/
theorem cleanScratch_undoes (hdir : fs.stat cwd config.workdir = .ok (dir, .dir))
    (hfree : ∀ place ∈ Workdir.scratchPlaces dir, fs.lookup place = none)
    (hshort : ∀ p ∈ (⟨config.workdir⟩ : Workdir).scratchPaths, p.bytes.length < maxPathLength)
    {left : FileSystem} (hoff : left.SameOff (Under (Workdir.scratchPlaces dir)) fs)
    (hk : Workdir.Removable (Workdir.scratchPlaces dir) left) :
    ((⟨config.workdir⟩ : Workdir).cleanScratch cwd left).1.lookup = fs.lookup := by
  have hempty : ∀ loc, Under (Workdir.scratchPlaces dir) loc → fs.lookup loc = none := by
    rintro loc ⟨place, hp, hpre⟩
    exact lookup_below_free (hfree place hp) hpre
  -- The workdir resolves, so everything on the way to it exists, and the scratch places do not.
  have hclear : ∀ loc ∈ fs.visits cwd true config.workdir, ¬Under (Workdir.scratchPlaces dir) loc := by
    intro loc hl hunder
    have := isSome_of_mem_visits hdir loc hl
    rw [hempty loc hunder] at this
    cases this
  funext loc
  rw [Workdir.lookup_cleanScratch_places _ ((hoff.stat_eq hclear).trans hdir) _ hshort hk loc]
  · by_cases hunder : Under (Workdir.scratchPlaces dir) loc
    · rw [if_pos hunder, hempty loc hunder]
    · rw [if_neg hunder, hoff loc hunder]
  · rw [hoff.visits_eq hclear]
    exact hclear

/-- A check goes in the same way wherever the same stands, and leaves it so. -/
theorem check_restores (hdir : fs.stat cwd config.workdir = .ok (dir, .dir))
    (hfree : ∀ place ∈ Workdir.scratchPlaces dir, fs.lookup place = none)
    (hshort : ∀ p ∈ (⟨config.workdir⟩ : Workdir).scratchPaths, p.bytes.length < maxPathLength)
    (hconfined : runner.Confined (Workdir.scratchPlaces dir) a) (hanswers : runner.Deterministic)
    (hsame : a.lookup = fs.lookup) (model : Path) :
    AsAlone cwd config runner fs model (check cwd config runner model (.start a)) := by
  have hoff : a.SameOff (fun _ => False) fs := .of_lookup_eq hsame
  have hcheck := check_apply cwd config runner model (.start a)
  have halone := check_apply cwd config runner model (.start fs)
  simp only [Trace.start, hoff.isFile_eq fun _ _ => id, hoff.canonicalize_eq (fun _ _ => id) id] at hcheck halone
  suffices h : _ ∧ _ ∧ _ from ⟨h.1, h.2.1, h.2.2⟩
  simp only [Trace.start, hcheck, halone]
  split
  · exact ⟨hsame, rfl, rfl⟩
  · exact ⟨hsame, rfl, rfl⟩
  · exact ⟨hsame, rfl, rfl⟩
  · simp only [Grading.guarded_apply, Grading.ask_apply]
    refine ⟨cleanScratch_undoes hdir hfree hshort ?_ (hconfined.removable _), ?_, rfl⟩
    · exact (hconfined.sameOff _).trans (.of_lookup_eq hsame)
    · exact congrArg (RunEnding.scored judge) (hanswers _ a fs hsame)

end Restoring

/-- Checks one after the other leave nothing behind. If the scratch places of the workdir are free, their paths
are not too long for the system, and the analyzer changes nothing else, then after each check everything stands
as at the start, and each check has the result and the command that it has on its own. -/
theorem checkEach_restores (cwd : Location) (config : Config) {runner : Runner} {fs : FileSystem} {dir : Location}
    (hdir : fs.stat cwd config.workdir = .ok (dir, .dir))
    (hfree : ∀ place ∈ Workdir.scratchPlaces dir, fs.lookup place = none)
    (hshort : ∀ p ∈ (⟨config.workdir⟩ : Workdir).scratchPaths, p.bytes.length < maxPathLength)
    (hconfined : ∀ a : FileSystem, a.lookup = fs.lookup → runner.Confined (Workdir.scratchPlaces dir) a)
    (hanswers : runner.Deterministic) (models : List Path) :
    List.Forall₂ (AsAlone cwd config runner fs) models (checkEach cwd config runner models fs) := by
  -- What carries the induction is that the same stands in the file system as at the start.
  suffices h : ∀ a : FileSystem, a.lookup = fs.lookup →
      List.Forall₂ (AsAlone cwd config runner fs) models (checkEach cwd config runner models a) from h fs rfl
  induction models with
  | nil => exact fun _ _ => .nil
  | cons model rest ih =>
    intro a hsame
    have hcheck := check_restores hdir hfree hshort (hconfined a hsame) hanswers hsame model
    exact .cons hcheck (ih _ hcheck.restored)

/-! ### An analyzer that makes a mess -/

/-- A scratch directory with a file in it, and a link in the place of the other one. -/
def litter (dir : Location) : List (Location × Entry) :=
  [(Workdir.scratchPlace dir "tmp", .dir),
    (Workdir.scratchPlace dir "output", .link (.ofString "/")),
    (Workdir.scratchPlace dir "tmp" ++ [Bytes.ofString "a"], .file (.plain []))]

/-- An analyzer that accepts everything and leaves its litter in a directory. -/
def littering (dir : Location) : Runner where
  run command fs := ⟨.done (.ok ⟨command.name, 0, "", "", true⟩), ⟨litter dir ++ fs.entries⟩, []⟩

theorem littering_deterministic (dir : Location) : (littering dir).Deterministic := fun _ _ _ _ => rfl

theorem under_of_mem_litter {dir : Location} : ∀ row ∈ litter dir, Under (Workdir.scratchPlaces dir) row.1 := by
  intro row hr
  have htmp : Workdir.scratchPlace dir "tmp" ∈ Workdir.scratchPlaces dir := List.mem_map_of_mem (by decide)
  have houtput : Workdir.scratchPlace dir "output" ∈ Workdir.scratchPlaces dir := List.mem_map_of_mem (by decide)
  rcases List.mem_cons.mp hr with rfl | hr
  · exact ⟨_, htmp, List.prefix_refl _⟩
  rcases List.mem_cons.mp hr with rfl | hr
  · exact ⟨_, houtput, List.prefix_refl _⟩
  · obtain rfl := List.mem_singleton.mp hr
    exact ⟨_, htmp, List.prefix_append _ _⟩

theorem littering_confined (dir : Location) (fs : FileSystem) :
    (littering dir).Confined (Workdir.scratchPlaces dir) fs where
  sameOff _ := sameOff_rows under_of_mem_litter fs
  removable command place hp entry hl := by
    obtain ⟨name, hname, rfl⟩ := List.mem_map.mp hp
    have hrow : (litter dir ++ fs.entries).lookup (Workdir.scratchPlace dir name) = some entry := row_of_lookup hl
    have hne : Bytes.ofString "output" ≠ Bytes.ofString "tmp" := by decide
    rcases List.mem_pair.mp hname with rfl | rfl
    · obtain rfl : Entry.dir = entry := by simpa [litter] using hrow
      rfl
    · obtain rfl : Entry.link (.ofString "/") = entry := by
        simpa [litter, List.lookup_cons, Workdir.scratchPlace, beq_false_of_ne hne] using hrow
      rfl

/-- Three checks, of which the second one finds no model and launches nothing. -/
theorem checkEach_restores_littering :
    let fs := Pipeline.site [] [["g"]]
    let models := [Path.ofString "g", .ofString "h", .ofString "g"]
    let results := checkEach [] .default (littering []) models fs
    results.map (·.2.calls.length) = [1, 0, 1] ∧
      List.Forall₂ (AsAlone [] .default (littering []) fs) models results := by
  intro fs models results
  have hdir : fs.stat [] Config.default.workdir = .ok ([], .dir) := by decide
  exact ⟨by decide, checkEach_restores [] .default hdir (by decide) (by decide) (fun a _ => littering_confined [] a)
    (littering_deterministic []) models⟩

/-- The current directory, written with a number of slashes behind it. -/
def farHere (slashes : Nat) : Path := ⟨Bytes.dot :: List.replicate slashes Bytes.slash⟩

theorem length_farHere (n : Nat) : (farHere n).bytes.length = n + 1 := by simp [farHere]

theorem pieces_slashes (n : Nat) : (Path.mk (List.replicate n Bytes.slash)).pieces = [] := by
  induction n with
  | zero => rfl
  | succ n ih =>
    rw [List.replicate_succ]
    exact (Path.pieces_eq_of_append [] _).trans ih

theorem pieces_farHere (n : Nat) : (farHere n).pieces = [[Bytes.dot]] := by
  cases n with
  | zero => rfl
  | succ n =>
    have hsplit := Path.pieces_eq_of_append [Bytes.dot] (List.replicate n Bytes.slash)
    rw [pieces_slashes] at hsplit
    exact hsplit

theorem steps_farHere (n : Nat) :
    (farHere n).steps = [[Bytes.dot]] ∨ (farHere n).steps = [[Bytes.dot], [Bytes.dot]] := by
  rw [Path.steps, pieces_farHere]
  split_ifs
  · exact .inr rfl
  · exact .inl rfl

/-- Nothing is looked up on the way there. -/
theorem visits_farHere (fs : FileSystem) (n : Nat) : fs.visits [] true (farHere n) = [] := by
  rw [visits, origin, ite_self]
  rcases steps_farHere n with h | h <;> rw [h] <;> rfl

theorem stat_farHere (fs : FileSystem) {n : Nat} (hn : n + 1 < maxPathLength) :
    fs.stat [] (farHere n) = .ok ([], .dir) := by
  have hnul : (farHere n).hasNul = false := by
    simp [farHere, Path.hasNul, Bytes.dot, Bytes.slash]
  have hwalk : fs.walk true maxLinks [] (farHere n).steps = .ok (.present [] .dir) := by
    rcases steps_farHere n with h | h <;> rw [h] <;> rfl
  rw [stat, find_eq_denoted (by rwa [length_farHere]), denoted, lead, hnul, if_neg (by simp), if_neg (by simp [farHere]),
    origin, ite_self, hwalk]
  rfl

/-- Where no name can be added to the path of the workdir, a check leaves whatever the analyzer has left. -/
theorem check_fs_of_long (cwd : Location) (config : Config) (runner : Runner) (model : Path) (fs : FileSystem)
    (h : maxPathLength ≤ config.workdir.bytes.length + 3) :
    ∀ call ∈ (check cwd config runner model (.start fs)).2.calls,
      (check cwd config runner model (.start fs)).2.fs = (runner.run call.command call.before).fs := by
  rw [check_apply]
  split
  · exact nofun
  · exact nofun
  · exact nofun
  · intro call hcall
    rw [Grading.guarded_apply, Grading.ask_apply] at hcall ⊢
    obtain rfl := List.mem_singleton.mp hcall
    exact Workdir.cleanScratch_of_long _ h

/-- A check that finds the jar, with canonical paths for it and for the model, calls the analyzer. -/
theorem check_calls_ne_nil (cwd : Location) (config : Config) (runner : Runner) {model jar path : Path} {fs : FileSystem}
    (hfile : fs.isFile cwd config.artifacts.analyzerJar)
    (hjar : fs.canonicalize cwd config.artifacts.analyzerJar = .ok jar)
    (hmodel : fs.canonicalize cwd model = .ok path) : (check cwd config runner model (.start fs)).2.calls ≠ [] := by
  simp [check_apply, Trace.start, hfile, hjar, hmodel, Grading.guarded_apply, Grading.ask_apply]

/-- So there even a confined analyzer leaves its litter behind. -/
theorem checkEach_litters :
    ¬∀ (cwd : Location) (config : Config) (runner : Runner) (fs : FileSystem) (dir : Location),
      fs.stat cwd config.workdir = .ok (dir, .dir) →
      (∀ place ∈ Workdir.scratchPlaces dir, fs.lookup place = none) →
      (∀ a : FileSystem, a.lookup = fs.lookup → runner.Confined (Workdir.scratchPlaces dir) a) →
      runner.Deterministic → ∀ models,
        List.Forall₂ (AsAlone cwd config runner fs) models (checkEach cwd config runner models fs) := by
  intro h
  let config := Config.default.withWorkdir (farHere 4092)
  let fs := Pipeline.site [] [["g"]]
  have hall := h [] config (littering []) fs [] (stat_farHere fs (by decide)) (by decide)
    (fun a _ => littering_confined [] a) (littering_deterministic []) [.ofString "g"]
  have hlong : maxPathLength ≤ (farHere 4092).bytes.length + 3 := by
    rw [length_farHere]
    decide
  have hjar : fs.canonicalize [] config.artifacts.analyzerJar = .ok (.ofString "/org.alloytools.alloy.dist.jar") := by
    decide
  have hmodel : fs.canonicalize [] (.ofString "g") = .ok (.ofString "/g") := by decide
  obtain ⟨call, hcall⟩ := List.exists_mem_of_ne_nil _
    (check_calls_ne_nil [] config (littering []) (by decide) hjar hmodel)
  cases hall with
  | cons hfirst _ =>
    have hrestored := hfirst.restored
    rw [check_fs_of_long [] config (littering []) _ fs hlong call hcall] at hrestored
    have hfree : fs.lookup [Bytes.ofString "tmp"] = none := by decide
    have hlitter : some Entry.dir = fs.lookup [Bytes.ofString "tmp"] := congrFun hrestored [Bytes.ofString "tmp"]
    rw [hfree] at hlitter
    cases hlitter

end Validity

end AlloyGrade
