import AlloyGrade.Process.Host
import AlloyGrade.Proofs.Grading.Course
import AlloyGrade.Proofs.Verdict

/-! What the process runner makes of a process. A process is done with once it has ended and nobody holds its two
streams open any more. The runner hands on what it has written if that is so within its limit, and gives an error
otherwise; a process that has ended well can still count as one that took too long, if it has left somebody behind
who holds a stream open. -/

namespace AlloyGrade

/-- How it stands with a process that was started, when it is done with or when its time is up. -/
structure Standing where
  /-- How it has ended, if it has. -/
  death : Option ExitStatus
  /-- What was written to its streams, if nobody holds them open any more, or why it could not be collected. -/
  streams : Option (Except IoError (Bytes × Bytes))
  elapsedMs : Nat

namespace Standing

/-- There is still something to wait for: the streams, or else the process itself. -/
def Pending (s : Standing) : Prop := s.streams = none ∨ s.death = none ∧ ∃ written, s.streams = some (.ok written)

/-- What the system answers when it stands so. -/
def reply (s : Standing) : Reply :=
  match s.streams with
  | none => .running
  | some (.error e) => .refused e
  | some (.ok (stdout, stderr)) =>
    match s.death with
    | none => .running
    | some status => .finished status stdout stderr s.elapsedMs

end Standing

/-- Starts the process of a command and looks after it, for so many seconds at most: why it was not started, or how it
stands with it; and what is left of the file system. -/
abbrev Lookout := ToolCommand → UInt64 → FileSystem → Except IoError Standing × FileSystem

/-- The system on which processes fare as they are seen to. -/
def System.watching (look : Lookout) : System where
  respond command fs :=
    match look command command.limit fs with
    | (.error e, left) => (.refused e, left)
    | (.ok s, left) => (s.reply, left)

/-! ### The host -/

namespace Process

/-- The status that a death is reported with. -/
def Death.status : Death → ExitStatus
  | .exited code => .exited code
  | .signaled s | .stopped s => .signaled s

namespace World

def hasEnded (w : World) (first : Nat) : Bool := w.tasks.all fun t => t.pid != first || !t.isAlive

/-- How the first task has ended, if it has. -/
def firstDeath (w : World) (first : Nat) : Option Death :=
  if w.hasEnded first then (w.tasks.find? (·.pid == first)).bind Task.death else none

/-- Nobody holds one of the collected streams open. -/
def isSilent (w : World) : Bool :=
  w.files.all fun (_, f) => match f.stream with
    | .collected _ => false
    | _ => true

theorem isOver_eq (w : World) (first : Nat) : w.isOver first = (w.hasEnded first && w.isSilent) := rfl

/-- A run that stops says truly whether the first task is over. -/
theorem run_snd (boot : Boot) (first limit fuel waiting made idle : Nat) (w : World) :
    (run boot first limit fuel waiting made idle w).2 =
      (run boot first limit fuel waiting made idle w).1.isOver first := by
  fun_induction run boot first limit fuel waiting made idle w with
  | case1 => rfl
  -- The run stops here; that no task is left to be chosen cannot happen.
  | case2 | case3 | case4 | case5 | case7 => simp_all
  | case6 | case8 | case9 | case10 | case11 => assumption

end World

end Process

namespace Host

open Process

/-- How it stands with the first process of a world. -/
def standing (w : World) : Standing where
  death := (w.firstDeath firstPid).map Death.status
  streams := if w.isSilent then some (.ok (Octets.toBytes (w.collectedOctets 0), Octets.toBytes (w.collectedOctets 1)))
    else none
  elapsedMs := w.clock / 1000

/-- Looks after a world for so many seconds at most. -/
def watch (w : World) (limit : UInt64) : Standing × FileSystem :=
  let later := (w.run boot firstPid (1000000 * limit.toNat) (3 * World.effort) 0 0 0).1
  (standing later, later.fs)

/-- Runs the process of a command until it is done with or its time is up. -/
def look (host : Host) : Lookout := fun command limit fs =>
  match host.start command fs with
  | .error e => (.error e, fs)
  | .ok w => (.ok (watch w limit).1, (watch w limit).2)

theorem reply_standing (w : World) :
    (standing w).reply = if w.isOver firstPid then verdict w else .running := by
  rw [World.isOver_eq, standing, World.firstDeath]
  cases w.hasEnded firstPid with
  | false => cases w.isSilent <;> rfl
  | true =>
    cases w.isSilent with
    | false => cases (w.tasks.find? (·.pid == firstPid)).bind Task.death <;> rfl
    | true =>
      simp only [verdict]
      cases hd : (w.tasks.find? (·.pid == firstPid)).bind Task.death with
      | none => simp [Standing.reply]
      | some d => cases d <;> simp [Standing.reply, Death.status]

/-- On the host, too, processes fare as they are seen to. -/
theorem system_eq_watching (host : Host) : host.system = System.watching host.look := by
  have hrespond (command : ToolCommand) (fs : FileSystem) :
      host.system.respond command fs = (System.watching host.look).respond command fs := by
    simp only [system, System.watching, look, run]
    cases host.start command fs with
    | error e => rfl
    | ok w => simp only [bind, Except.bind, pure, Except.pure, watch, reply_standing, World.run_snd]
  exact congrArg System.mk (funext fun command => funext fun fs => hrespond command fs)

end Host

/-! ### The runner -/

/-- The tool that an error names. -/
def RunError.tool : RunError → String
  | .emptyCommand tool | .spawn tool _ | .timeout tool _ => tool

/-- What becomes of a command that has a program, by how its process was seen to fare: the outcome and the log. -/
structure ToolCommand.Fares (command : ToolCommand) (seen : Except IoError Standing)
    (outcome : Except RunError ToolOutput) (events : List Event) : Prop where
  spawn_iff (e : IoError) : outcome = .error (.spawn command.name e) ↔
    seen = .error e ∨ ∃ s, seen = .ok s ∧ s.streams = some (.error e)
  timeout_iff (seconds : Nat) : outcome = .error (.timeout command.name seconds) ↔
    seconds = max command.timeoutSecs.toNat 1 ∧ ∃ s, seen = .ok s ∧ s.Pending
  ok_iff (output : ToolOutput) : outcome = .ok output ↔ ∃ s status written, seen = .ok s ∧ s.death = some status ∧
    s.streams = some (.ok written) ∧
    output = ⟨command.name, status.code, Utf8.lossy written.1, Utf8.lossy written.2, status.success⟩
  error_cases (e : RunError) : outcome = .error e →
    (∃ source, e = .spawn command.name source) ∨ ∃ seconds, e = .timeout command.name seconds
  log : ∃ exited, events.map Event.shown =
      (.debug, "Launching tool", [("tool", .text command.name), ("command", .text command.commandLine)]) :: exited ∧
    ((∃ e, outcome = .error e) → exited = []) ∧
    ∀ output s, outcome = .ok output → seen = .ok s → exited = [(.debug, "Tool exited",
      [("tool", .text command.name), ("exit_code", .int output.exitCode), ("duration_ms", .int s.elapsedMs)])]

namespace ToolCommand

variable {command : ToolCommand}

theorem toNat_limit (command : ToolCommand) : command.limit.toNat = max command.timeoutSecs.toNat 1 := by
  have hlimit : command.limit =
      if command.timeoutSecs ≤ minTimeoutSecs then minTimeoutSecs else command.timeoutSecs := rfl
  by_cases hle : command.timeoutSecs ≤ minTimeoutSecs
  · have hnat : command.timeoutSecs.toNat ≤ 1 := UInt64.le_iff_toNat_le.mp hle
    rw [hlimit, if_pos hle, Nat.max_eq_right hnat]
    rfl
  · have hnat : ¬command.timeoutSecs.toNat ≤ 1 := fun h => hle (UInt64.le_iff_toNat_le.mpr h)
    rw [hlimit, if_neg hle]
    omega

theorem fares_refused {seen : Except IoError Standing} {e : IoError}
    (hseen : seen = .error e ∨ ∃ s, seen = .ok s ∧ s.streams = some (.error e)) :
    command.Fares seen (.error (.spawn command.name e)) [.launching command.name command.commandLine] := by
  refine ⟨fun e' => ?_, fun seconds => ?_, fun output => ?_, fun e' he => .inl ⟨e, ?_⟩, [], rfl, fun _ => rfl, nofun⟩
  · rcases hseen with rfl | ⟨s, rfl, hs⟩ <;> simp_all
  · rcases hseen with rfl | ⟨s, rfl, hs⟩ <;> simp_all [Standing.Pending]
  · rcases hseen with rfl | ⟨s, rfl, hs⟩ <;> simp_all
  · exact (Except.error.inj he).symm

theorem fares_pending {s : Standing} (hs : s.Pending) :
    command.Fares (.ok s) (.error (.timeout command.name command.limit.toNat))
      [.launching command.name command.commandLine] := by
  refine ⟨fun e' => ?_, fun seconds => ?_, fun output => ?_, fun e' he => .inr ⟨command.limit.toNat, ?_⟩, [], rfl,
    fun _ => rfl, nofun⟩
  · rcases hs with hs | ⟨hs, written, hw⟩ <;> simp_all
  · simp [toNat_limit, eq_comm, hs]
  · rcases hs with hs | ⟨hs, written, hw⟩ <;> simp_all
  · exact (Except.error.inj he).symm

theorem fares_finished {s : Standing} {status : ExitStatus} {stdout stderr : Bytes} (hdeath : s.death = some status)
    (hstreams : s.streams = some (.ok (stdout, stderr))) :
    command.Fares (.ok s) (.ok (System.output command status stdout stderr))
      [.launching command.name command.commandLine, .exited command.name status.code s.elapsedMs] := by
  refine ⟨fun e' => ?_, fun seconds => ?_, fun output => ?_, nofun, [Event.shown _], rfl, nofun,
    fun output s' ho hs => ?_⟩
  · simp [hstreams]
  · simp [hstreams, hdeath, Standing.Pending]
  · simp [hstreams, hdeath, System.output, and_assoc, eq_comm]
  · cases ho
    cases hs
    rfl

end ToolCommand

namespace System

/-- A command with a program fares as its process does. -/
theorem fares_launch (look : Lookout) (command : ToolCommand) (fs : FileSystem) :
    let result := (watching look).launch command fs
    ∃ outcome, result.ending = .done outcome ∧ result.fs = (look command command.limit fs).2 ∧
      command.Fares (look command command.limit fs).1 outcome result.events := by
  dsimp only [launch, watching]
  rcases look command command.limit fs with ⟨e | ⟨death, streams, elapsedMs⟩, left⟩
  · exact ⟨_, rfl, rfl, ToolCommand.fares_refused (.inl rfl)⟩
  rcases streams with - | (e | ⟨stdout, stderr⟩)
  · exact ⟨_, rfl, rfl, ToolCommand.fares_pending (.inl rfl)⟩
  · exact ⟨_, rfl, rfl, ToolCommand.fares_refused (.inr ⟨_, rfl, rfl⟩)⟩
  · cases death with
    | none => exact ⟨_, rfl, rfl, ToolCommand.fares_pending (.inr ⟨rfl, _, rfl⟩)⟩
    | some status => exact ⟨_, rfl, rfl, ToolCommand.fares_finished rfl rfl⟩

/-- The runner answers every command, by how the process of it fares. -/
theorem fares_runner (look : Lookout) (command : ToolCommand) (fs : FileSystem) :
    let result := (watching look).runner.run command fs
    ∃ outcome, result.ending = .done outcome ∧
      (outcome = .error (.emptyCommand command.name) ↔ command.program = []) ∧
      (command.program = [] → result.fs = fs ∧ result.events = []) ∧
      (command.program ≠ [] → result.fs = (look command command.limit fs).2 ∧
        command.Fares (look command command.limit fs).1 outcome result.events) ∧
      ∀ e, outcome = .error e → e.tool = command.name := by
  dsimp only [runner]
  by_cases hprogram : command.program = []
  · rw [hprogram]
    refine ⟨_, rfl, by simp, fun _ => ⟨rfl, rfl⟩, fun h => absurd rfl h, ?_⟩
    rintro e ⟨⟩
    rfl
  · rw [if_neg (by simpa using hprogram)]
    obtain ⟨outcome, hdone, hfs, hfares⟩ := fares_launch look command fs
    refine ⟨outcome, hdone, ⟨fun hempty => ?_, fun h => absurd h hprogram⟩, fun h => absurd h hprogram,
      fun _ => ⟨hfs, hfares⟩, fun e he => ?_⟩
    · rcases hfares.error_cases _ hempty with ⟨source, h⟩ | ⟨seconds, h⟩ <;> cases h
    · rcases hfares.error_cases e he with ⟨source, rfl⟩ | ⟨seconds, rfl⟩ <;> rfl

end System

/-- A command's output is accepted if its process is done with and has exited with status zero. -/
theorem ToolCommand.Fares.accepted_iff {command : ToolCommand} {seen : Except IoError Standing}
    {outcome : Except RunError ToolOutput} {events : List Event} (h : command.Fares seen outcome events) :
    Validity.Accepted outcome ↔
      ∃ s written, seen = .ok s ∧ s.death = some (.exited 0) ∧ s.streams = some (.ok written) := by
  cases outcome with
  | error e =>
    refine ⟨False.elim, fun ⟨s, written, hseen, hdeath, hstreams⟩ => ?_⟩
    cases (h.ok_iff _).2 ⟨s, _, written, hseen, hdeath, hstreams, rfl⟩
  | ok output =>
    obtain ⟨s, status, ⟨stdout, stderr⟩, hseen, hdeath, hstreams, rfl⟩ := (h.ok_iff output).1 rfl
    cases status with
    | exited code => simp [Validity.Accepted, ExitStatus.success, ExitStatus.code, hseen, hdeath, hstreams]
    | signaled signal => simp [Validity.Accepted, ExitStatus.success, hseen, hdeath]

/-- A check that asks the analyzer scores by how the process of the analyzer fares. -/
theorem Validity.marks_check (look : Lookout) {cwd : Location} {config : Config} {model path : Path} {t : Trace}
    (hjar : t.fs.isFile cwd config.artifacts.analyzerJar) (hmodel : t.fs.canonicalize cwd model = .ok path) :
    (∃ e, t.fs.canonicalize cwd config.artifacts.analyzerJar = .error e ∧
      check cwd config (System.watching look).runner model t = (.error (.io e), t)) ∨
    ∃ jar score, t.fs.canonicalize cwd config.artifacts.analyzerJar = .ok jar ∧
      (check cwd config (System.watching look).runner model t).1 = .value score ∧
      score.Marks (config.java.bytes ≠ [] ∧ ∃ s written,
        (look (.analyzerExec config jar path config.workdir) (max config.timeoutSecs 1) t.fs).1 = .ok s ∧
          s.death = some (.exited 0) ∧ s.streams = some (.ok written)) := by
  rcases check_cases cwd config (System.watching look).runner model t with
    ⟨e, he, hcheck⟩ | ⟨-, e, he, -⟩ | ⟨-, jar, found, hcanon, hfound, hcheck⟩
  · rcases fault?_eq_some_cases he with ⟨hnone, -⟩ | ⟨reason, rfl, -, hcanon, -⟩
    · rw [hjar] at hnone
      cases hnone
    · exact .inl ⟨reason, hcanon, hcheck⟩
  · rw [hmodel] at he
    cases he
  · right
    cases hmodel.symm.trans hfound
    obtain ⟨outcome, hdone, hempty, -, hfares, -⟩ :=
      System.fares_runner look (.analyzerExec config jar path config.workdir) t.fs
    refine ⟨jar, .ofPassed (judge outcome).1, hcanon, ?_, Score.marks_ofPassed ?_⟩
    · rw [hcheck, Grading.guarded_apply, Grading.ask_apply]
      exact congrArg (RunEnding.scored judge) hdone
    · rw [judge_fst_iff]
      by_cases hprogram : config.java.bytes = []
      · rw [hempty.2 hprogram]
        simp [Accepted, hprogram]
      · rw [(hfares hprogram).2.accepted_iff]
        exact ⟨fun h => ⟨hprogram, h⟩, And.right⟩

/-- The runner that starts every tool as a process answers every command. A command without a program is an error,
and nothing is started. Otherwise the process is started, which the log says, and is waited for until it has ended
and its streams are closed, or until its limit; the outcome tells which, and a check scores by it, once it has a
canonical path for the jar. Processes of the host are processes of this kind. -/
theorem System.runner_outcome (look : Lookout) :
    (∀ command fs, let result := (watching look).runner.run command fs
      ∃ outcome, result.ending = .done outcome ∧
        (outcome = .error (.emptyCommand command.name) ↔ command.program = []) ∧
        (command.program = [] → result.fs = fs ∧ result.events = []) ∧
        (command.program ≠ [] → result.fs = (look command command.limit fs).2 ∧
          command.Fares (look command command.limit fs).1 outcome result.events) ∧
        ∀ e, outcome = .error e → e.tool = command.name) ∧
    (∀ cwd config model path t, t.fs.isFile cwd config.artifacts.analyzerJar →
      t.fs.canonicalize cwd model = .ok path →
      (∃ e, t.fs.canonicalize cwd config.artifacts.analyzerJar = .error e ∧
        Validity.check cwd config (watching look).runner model t = (.error (.io e), t)) ∨
      ∃ jar score, t.fs.canonicalize cwd config.artifacts.analyzerJar = .ok jar ∧
        (Validity.check cwd config (watching look).runner model t).1 = .value score ∧
        score.Marks (config.java.bytes ≠ [] ∧ ∃ s written,
          (look (.analyzerExec config jar path config.workdir) (max config.timeoutSecs 1) t.fs).1 = .ok s ∧
            s.death = some (.exited 0) ∧ s.streams = some (.ok written))) ∧
    ∀ host : Host, host.system = watching host.look := by
  refine ⟨fares_runner look, ?_, Host.system_eq_watching⟩
  intro cwd config model path t hjar hmodel
  exact Validity.marks_check look hjar hmodel

namespace Host

open Process

/-- The lookout of a host on which every command runs the same program. -/
def running (program : Program) : Lookout := fun _ limit fs =>
  (.ok (watch (world program [] fs) limit).1, (watch (world program [] fs) limit).2)

/-- Starts a child that sleeps for five seconds, and exits with status zero. -/
def leaver : Program := .fork (.ask (.sleep 5000000) fun _ => .exit 0) fun _ => .exit 0

theorem running_leaver (command : ToolCommand) :
    (running leaver command 1 (Pipeline.site [] [["g"]])).1 = .ok ⟨some (.exited 0), none, 0⟩ := by rfl

/-- While the child sleeps, it holds the streams of its parent open. -/
theorem streams_running_leaver (command : ToolCommand) : ¬∃ s written,
    (running leaver command 1 (Pipeline.site [] [["g"]])).1 = .ok s ∧ s.death = some (.exited 0) ∧
      s.streams = some (.ok written) := by
  rintro ⟨s, written, hseen, -, hstreams⟩
  cases (running_leaver command).symm.trans hseen
  cases hstreams

end Host

/-- An analyzer that exits with status zero at once is waited for as long as its child sleeps. -/
theorem System.runner_outcome_leaver :
    let check (seconds : UInt64) := Validity.check [] (Config.default.withTimeoutSecs seconds)
      (System.watching (Host.running Host.leaver)).runner (.ofString "g") (.start (Pipeline.site [] [["g"]]))
    (check 1).1 = .value ⟨0, 1⟩ ∧ (check 9).1 = .value ⟨1, 1⟩ := by
  have hscores (seconds : UInt64) := (runner_outcome (Host.running Host.leaver)).2.1 []
    (Config.default.withTimeoutSecs seconds) (.ofString "g") _ (.start (Pipeline.site [] [["g"]])) rfl rfl
  constructor
  · obtain ⟨jar, score, -, hscore, hmarks⟩ := (hscores 1).resolve_left fun ⟨e, he, _⟩ => nomatch he
    rw [hscore, hmarks.2 fun h => Host.streams_running_leaver _ h.2]
  · obtain ⟨jar, score, -, hscore, hmarks⟩ := (hscores 9).resolve_left fun ⟨e, he, _⟩ => nomatch he
    rw [hscore, hmarks.1 ⟨by decide, _, ([], []), rfl, rfl, rfl⟩]

/-- A process that exits with status zero within its limit can still be taken for one that does not finish. -/
theorem Validity.check_fails_on_exit_zero :
    ¬∀ (program : Process.Program) (cwd : Location) (config : Config) (model path jar : Path) (t : Trace),
      t.fs.isFile cwd config.artifacts.analyzerJar → t.fs.canonicalize cwd model = .ok path →
      t.fs.canonicalize cwd config.artifacts.analyzerJar = .ok jar →
      ((check cwd config (System.watching (Host.running program)).runner model t).1 = .value ⟨1, 1⟩ ↔
        config.java.bytes ≠ [] ∧ ∃ s, (Host.running program (.analyzerExec config jar path config.workdir)
          (max config.timeoutSecs 1) t.fs).1 = .ok s ∧ s.death = some (.exited 0)) := by
  intro h
  have hpassed := (h Host.leaver [] (Config.default.withTimeoutSecs 1) (.ofString "g") _ _
    (.start (Pipeline.site [] [["g"]])) (by decide) rfl rfl).2 ⟨by decide, _, Host.running_leaver _, rfl⟩
  have hmarks := @marks_check (Host.running Host.leaver) []
    (Config.default.withTimeoutSecs 1) (.ofString "g") _ (.start (Pipeline.site [] [["g"]])) (by decide) rfl
  obtain ⟨jar, score, -, hscore, hmarks⟩ := hmarks.resolve_left fun ⟨e, he, _⟩ => nomatch he
  rw [hscore, hmarks.2 fun h => Host.streams_running_leaver _ h.2] at hpassed
  cases hpassed

end AlloyGrade
