import AlloyGrade.Process.Kernel

/-! Turns. The task at the head of the queue runs until it has to wait or has had its share, then the next one has
its turn. -/

namespace AlloyGrade.Process

namespace World

/-! ### Ends -/

/-- The parent of tasks that have lost theirs; nobody asks for their end. -/
def orphanage : Nat := 1

/-- Closes what dead tasks had open, hands their children on, and forgets the dead that nobody waits for. -/
def bury (w : World) : World :=
  let dead := (w.tasks.filter (!·.isAlive)).map (·.pid)
  let tasks := w.tasks.map fun t =>
    let t := if dead.contains t.parent then { t with parent := orphanage } else t
    if t.isAlive then t else { t with descriptors := [], opening := none, caught := [] }
  { w with tasks := tasks.filter fun t => t.isAlive || t.parent != orphanage }.sweep

/-! ### Answers -/

/-- A child of a task. -/
def forked (w : World) (t : Task) (child : Program) : Nat × World × Task :=
  let pid := w.fresh
  (pid, { w with fresh := w.fresh + 1 },
    { t with pid, parent := t.pid, program := child, caught := [], wakes := none, opening := none })

/-- Looks for a child of a task that has ended. -/
def await (w : World) (t : Task) (pid : Option Nat) : Awaited × World :=
  let children := w.tasks.filter fun c => c.parent = t.pid && pid.all (· == c.pid)
  if children.isEmpty then (.none_, w)
  else match children.find? (!·.isAlive) with
    | some c => (.ended c.pid (c.death.getD (.exited 0)), { w with tasks := w.tasks.filter (·.pid != c.pid) })
    | none => (.still, w)

/-- Sends a signal; a process number of zero means everyone. -/
def signal (w : World) (t : Task) (pid : Int) (s : Signal) : Except Errno Unit × World × Task :=
  let meant (c : Task) : Bool := pid = 0 || pid = -1 || pid.natAbs = c.pid
  if !(meant t || w.tasks.any meant) then (.error .noProcess, w, t)
  else (.ok (), { w with tasks := w.tasks.map fun c => if meant c then c.receive s else c },
    if meant t then t.receive s else t)

/-- Lets another program take over. -/
def exec (boot : Boot) (w : World) (t : Task) (path : Path) (argv environment : List Octets) : Except Errno Task :=
  match w.fs.start t.cwd path (argv.map Octets.toBytes) (environment.map Octets.toBytes) with
  | .error e => .error (.ofError e)
  | .ok (name, argv) =>
    .ok { t.continue_ (boot name (argv.map Octets.ofBytes) environment) with
      descriptors := t.descriptors.filter (·.2.survives)
      arrangements := t.arrangements.filter (·.2 == .ignore)
      caught := [] }

def changeDir (w : World) (t : Task) (path : Path) : Except Errno Location :=
  match w.fs.stat t.cwd path with
  | .error e => .error (.ofError e)
  | .ok (loc, .dir) => .ok loc
  | .ok _ => .error 20

/-- Answers a request, or finds that the task has to wait. -/
def serve (boot : Boot) (w : World) (t : Task) : (r : Request) → (r.Answer → Program) → Served
  | .step, next => .done w (t.continue_ (next ()))
  | .view, next => .done w (t.continue_ (next (w.viewOf t)))
  | .open_ path how mode, next => w.openPath t path how mode next
  | .close fd, next => w.closeFd t fd next
  | .duplicate fd target, next =>
    match t.descriptor? fd with
    | none => .done w (t.continue_ (next (.error .badDescriptor)))
    | some file => .done w ((t.setDescriptor target ⟨file, true⟩).continue_ (next (.ok ())))
  | .save fd least, next =>
    match t.descriptor? fd with
    | none => .done w (t.continue_ (next (.error .badDescriptor)))
    | some file =>
      let free := t.freeDescriptor least
      .done w ((t.setDescriptor free ⟨file, false⟩).continue_ (next (.ok free)))
  | .pipe, next =>
    let (pipe, w) := w.addPipe none
    let (input, w) := w.addFile ⟨.reader pipe, 0, .reading⟩
    let (output, w) := w.addFile ⟨.writer pipe, 0, .writing⟩
    let r := t.freeDescriptor 0
    let t := t.setDescriptor r ⟨input, true⟩
    let o := t.freeDescriptor 0
    .done w ((t.setDescriptor o ⟨output, true⟩).continue_ (next (r, o)))
  | .read fd size, next => w.read t fd size next
  | .write fd cs, next => w.write t fd cs next
  | .seek fd offset origin, next =>
    let (r, w) := w.seek t fd offset origin
    .done w (t.continue_ (next r))
  | .edit change, next =>
    match change t.cwd w.fs with
    | (.ok (), fs) => .done (w.afterEdit fs) (t.continue_ (next (.ok ())))
    | (.error e, fs) => .done (w.afterEdit fs) (t.continue_ (next (.error (.ofError e))))
  | .rename source target, next =>
    let (r, w, t) := w.rename t source target
    .done w (t.continue_ (next r))
  | .chdir path, next =>
    match w.changeDir t path with
    | .error e => .done w (t.continue_ (next (.error e)))
    | .ok cwd => .done w ({ t with cwd }.continue_ (next (.ok ())))
  | .setUmask mask, next => .done w ({ t with umask := mask }.continue_ (next ()))
  | .exec path argv environment, next =>
    match w.exec boot t path argv environment with
    | .error e => .done w (t.continue_ (next e))
    | .ok t => .done w t
  | .wait pid block, next =>
    match w.await t pid with
    | (.still, w) =>
      if !block then .done w (t.continue_ (next .still))
      else if !t.caught.isEmpty then .done w (t.continue_ (next .interrupted))
      else .blocked w t none
    | (found, w) => .done w (t.continue_ (next found))
  | .kill pid s, next =>
    let (r, w, t) := w.signal t pid s
    .done w (t.continue_ (next r))
  | .arrange s a, next =>
    .done w ({ t with arrangements := (s, a) :: t.arrangements.filter (·.1 != s) }.continue_ (next ()))
  | .arrangement s, next => .done w (t.continue_ (next (t.arrangement s)))
  | .caught, next => .done w ({ t with caught := [] }.continue_ (next t.caught))
  | .sleep microseconds, next =>
    match t.wakes with
    | none => .blocked w { t with wakes := some (w.clock + microseconds) } none
    | some wakes =>
      if wakes ≤ w.clock then .done w (t.continue_ (next true))
      else if !t.caught.isEmpty then .done w (t.continue_ (next false))
      else .blocked w t none

/-- Whether a request can close files or end tasks. -/
def unsettles : Request → Bool
  | .close _ | .duplicate .. | .exec .. | .kill .. | .write .. => true
  | _ => false

/-! ### The queue -/

/-- The tasks after a turn, and whether the task at the head had to wait. -/
def turn (boot : Boot) (w : World) (t : Task) (others : List Task) : World × Bool :=
  let w := { w with tasks := others }
  match t.program with
  | .exit code => ({ w with tasks := { t with death := some (.exited (code % 256)) } :: w.tasks }.bury, false)
  | .fork child next =>
    let (pid, w, c) := w.forked t child
    ({ w with tasks := t.continue_ (next pid) :: w.tasks ++ [c] }, false)
  | .ask r next =>
    match w.serve boot t r next with
    | .done w t =>
      let w := { w with tasks := t :: w.tasks }
      (if unsettles r then w.bury else w, false)
    | .blocked w t _ => ({ w with tasks := w.tasks ++ [t] }, true)

/-- The time when the first sleeper wakes up. -/
def nextWake (w : World) : Option Nat :=
  (w.tasks.filter fun t => t.isAlive && !t.stopped).foldl (fun soonest t =>
    match soonest, t.wakes with
    | none, wakes => wakes
    | some a, some b => some (min a b)
    | some a, none => some a) none

/-- Whether the first task is over and nobody can write to the collected streams any more. -/
def isOver (w : World) (first : Nat) : Bool :=
  w.tasks.all (fun t => t.pid != first || !t.isAlive) &&
    w.files.all fun (_, f) => match f.stream with
      | .collected _ => false
      | _ => true

/-- How many requests a task may make in a row while others wait for their turn. -/
def quantum : Nat := 4000

/-- How long a request takes, in microseconds. -/
def requestTime : Program → Nat
  | .ask (.read _ 1) _ => 1
  | _ => 4

/-- How long tasks may work altogether; tasks that go on longer than that go on for ever. -/
def effort : Nat := 1500000

/-- How far work may go beyond the limit; only a task that waits notices the end of its time. -/
def grace : Nat := 400000

/-- Gives turns until the first task is over, or until the time is up, or until nothing can happen any more. All tasks
wait together for the next sleeper to wake up. The counts say how many tasks in a row had to wait, how many requests
the task at the head has made in its turn, and how long all have waited. -/
def run (boot : Boot) (first limit : Nat) : Nat → Nat → Nat → Nat → World → World × Bool
  | 0, _, _, _, w => (w, w.isOver first)
  | fuel + 1, waiting, made, idle, w =>
    if w.isOver first then (w, true)
    else if limit + grace ≤ w.clock || effort ≤ w.clock - idle then (w, false)
    else if w.tasks.length ≤ waiting then
      match w.nextWake with
      | none => (w, false)
      | some wakes =>
        if limit ≤ wakes then (w, false)
        else run boot first limit fuel 0 0 (idle + (wakes - w.clock)) { w with clock := max w.clock wakes }
    else match w.tasks with
      | [] => (w, true)
      | t :: others =>
        if !t.isAlive || t.stopped then run boot first limit fuel (waiting + 1) 0 idle { w with tasks := others ++ [t] }
        else if quantum ≤ made then run boot first limit fuel waiting 0 idle { w with tasks := others ++ [t] }
        else
          let (w, blocked) := { w with clock := w.clock + requestTime t.program }.turn boot t others
          if blocked then run boot first limit fuel (waiting + 1) 0 idle w else run boot first limit fuel 0 (made + 1) idle w

end World

end AlloyGrade.Process
