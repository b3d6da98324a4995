import AlloyGrade.Process.World

/-! The kernel: it answers the requests of tasks, or finds that a task has to wait. -/

namespace AlloyGrade.Process

/-- What a program of the system does, given its name, its arguments and its environment. -/
abbrev Boot := Bytes → List Octets → List Octets → Program

/-- What came of a task's turn. -/
inductive Served where
  /-- The task goes on. -/
  | done (w : World) (t : Task)
  /-- The task has to wait, perhaps until some time. -/
  | blocked (w : World) (t : Task) (wakes : Option Nat)

namespace Task

/-- A signal reaches the task. -/
def receive (t : Task) (s : Signal) : Task :=
  if s = 0 || !t.isAlive then t
  else if s = Signal.kill then { t with death := some (.signaled s) }
  else if s = Signal.stop then { t with stopped := true }
  else
    let t := if s = Signal.continue_ then { t with stopped := false } else t
    match t.arrangement s with
    | .ignore => t
    | .catch_ => { t with caught := t.caught.filter (· != s) ++ [s] }
    | .default =>
      match Signal.effect s with
      | .ends => { t with death := some (.signaled s) }
      | .ignored => t
      | .stops => { t with stopped := true }

/-- The task as it goes on with a program. -/
def continue_ (t : Task) (program : Program) : Task := { t with program, wakes := none, opening := none }

end Task

/-! ### Files -/

namespace World

/-- The descriptor that a path names directly, such as the standard input. -/
def descriptorPath? (path : Path) : Option Nat :=
  let named := [("/dev/stdin", 0), ("/dev/stdout", 1), ("/dev/stderr", 2)].map fun (n, fd) => (Bytes.ofString n, fd)
  match named.lookup path.bytes with
  | some fd => some fd
  | none =>
    ["/dev/fd/", "/proc/self/fd/"].findSome? fun dir =>
      let dir := Bytes.ofString dir
      if dir.isPrefixOf path.bytes then Octets.decimal? (Octets.ofBytes (path.bytes.drop dir.length)) else none

/-- Gives a task an open file under the lowest free descriptor. -/
def install (w : World) (t : Task) (file : Nat) (next : Nat → Program) : Served :=
  let fd := t.freeDescriptor 0
  .done w ((t.setDescriptor fd ⟨file, true⟩).continue_ (next fd))

/-- Opens a named pipe; both ends wait for each other, unless one task opens both. -/
def openPipe (w : World) (t : Task) (loc : Location) (how : Opening) (next : Except Errno Nat → Program) : Served :=
  match t.opening with
  | some (file, mark) =>
    match (w.file? file).map OpenFile.stream with
    | some (.reader id) =>
      if (w.pipe? id).any (·.writers != mark) then w.install t file fun fd => next (.ok fd)
      else if !t.caught.isEmpty then .done w (t.continue_ (next (.error .interrupted)))
      else .blocked w t none
    | some (.writer id) =>
      if (w.pipe? id).any (·.readers != mark) then w.install t file fun fd => next (.ok fd)
      else if !t.caught.isEmpty then .done w (t.continue_ (next (.error .interrupted)))
      else .blocked w t none
    | _ => .done w (t.continue_ (next (.error .badDescriptor)))
  | none =>
    let (id, w) := match w.pipes.find? fun (_, p) => p.place = some loc with
      | some (id, _) => (id, w)
      | none => w.addPipe (some loc)
    let p := (w.pipe? id).getD (.empty (some loc))
    let p := { p with
      readers := p.readers + if how.readable then 1 else 0
      writers := p.writers + if how.writable then 1 else 0 }
    let w := w.setPipe id p
    let stream : Stream := if how.readable && how.writable then .channel id else if how.readable then .reader id else .writer id
    let partner := if how.readable then w.hasWriter id else w.hasReader id
    let (file, w) := w.addFile ⟨stream, 0, how⟩
    if (how.readable && how.writable) || partner then w.install t file fun fd => next (.ok fd)
    else .blocked w { t with opening := some (file, if how.readable then p.writers else p.readers) } none

/-- A number that no file has, with a name or without. -/
def freshSerial (w : World) : Nat := w.orphans.foldl (fun n (serial, _) => max n (serial + 1)) w.fs.freshSerial

/-- Opens what stands at a location. -/
def openEntry (w : World) (t : Task) (loc : Location) (entry : Entry) (how : Opening) (next : Except Errno Nat → Program) :
    Served :=
  let opened (w : World) (stream : Stream) : Served :=
    let (file, w) := w.addFile ⟨stream, 0, how⟩
    w.install t file fun fd => next (.ok fd)
  match entry with
  | .file f =>
    if let (true, some e) := (how.readable, f.barred) then .done w (t.continue_ (next (.error (.ofError e)))) else
    let f := if how.truncate then { f with content := [], modified := w.now } else f
    -- An open file is known by its number, so it needs one.
    let fs := if f.serial = 0 then w.fs.insert loc (.file { f with serial := w.freshSerial })
      else if how.truncate then w.fs.putFile loc f
      else w.fs
    opened { w with fs } (.file loc)
  | .dir => if how.writable || how.create then .done w (t.continue_ (next (.error .isDirectory))) else opened w (.dir loc)
  | .device .terminal => .done w (t.continue_ (next (.error 6)))
  | .device d => opened w (.device d)
  | .fifo => w.openPipe t loc how next
  | .link _ => .done w (t.continue_ (next (.error 40)))

def openPath (w : World) (t : Task) (path : Path) (how : Opening) (mode : Nat) (next : Except Errno Nat → Program) : Served :=
  let refuse (e : Errno) : Served := .done w (t.continue_ (next (.error e)))
  match descriptorPath? path with
  | some fd =>
    match t.descriptor? fd with
    | some file => w.install t file fun fd => next (.ok fd)
    | none => refuse (if fd ≤ 2 then 2 else .noEntry)
  | none =>
    match w.fs.resolve t.cwd (!how.exclusive) path with
    | .error e => refuse (.ofError e)
    | .ok (.absent dir name) =>
      if !how.create then refuse .noEntry
      else if path.bytes.getLast? == some Bytes.slash then refuse .isDirectory
      else if FileSystem.processes.isPrefixOf dir then refuse .noEntry
      else
        let loc := dir ++ [name]
        let f : Regular := ⟨[], mode &&& (0o777 - (t.umask &&& 0o777)), 0, w.now, none⟩
        { w with fs := w.fs.insert loc (.file f) }.openEntry t loc (.file f) how next
    | .ok (.present loc entry) =>
      if how.create && how.exclusive then refuse .alreadyExists else w.openEntry t loc entry how next

/-- Puts octets into a file at a position; a gap is filled with zeros. -/
def overwrite (content : Bytes) (position : Nat) (new : Bytes) : Bytes :=
  if position = content.length then content ++ new
  else content.take position ++ List.replicate (position - content.length) 0 ++ new ++ content.drop (position + new.length)

/-- The octets of the regular file that an open file leads to. -/
def contentOf? (w : World) (f : OpenFile) : Option Bytes :=
  match f.stream with
  | .file loc =>
    match w.fs.lookup loc with
    | some (.file g) => some g.content
    | _ => none
  | .orphan serial => (w.orphans.lookup serial).map Regular.content
  | _ => none

def read (w : World) (t : Task) (fd size : Nat) (next : Except Errno Octets → Program) : Served :=
  let give (w : World) (r : Except Errno Octets) : Served := .done w (t.continue_ (next r))
  match (t.descriptor? fd).bind fun id => (w.file? id).map (id, ·) with
  | none => give w (.error .badDescriptor)
  | some (id, f) =>
    if !f.how.readable then give w (.error .badDescriptor)
    else
      let fromPipe (pipe : Nat) : Served :=
        match w.pipe? pipe with
        | none => give w (.ok [])
        | some p =>
          if p.size != 0 then
            let (got, p) := p.take size
            give ((w.setPipe pipe p).charge got.length) (.ok got)
          else if !w.hasWriter pipe then give w (.ok [])
          else if !t.caught.isEmpty then give w (.error .interrupted)
          else .blocked w t none
      match f.stream with
      | .dir _ => give w (.error .isDirectory)
      | .device .zero | .device .full => give (w.charge size) (.ok (List.replicate size '\x00'))
      | .device _ => give w (.ok [])
      | .reader pipe | .channel pipe => fromPipe pipe
      | .writer _ | .collected _ => give w (.error .badDescriptor)
      | .file _ | .orphan _ =>
        let got := ((w.contentOf? f).getD []).drop f.position |>.take size
        give ((w.setFile id { f with position := f.position + got.length }).charge got.length) (.ok (Octets.ofBytes got))

def write (w : World) (t : Task) (fd : Nat) (cs : Octets) (next : Except Errno Unit → Program) : Served :=
  let give (w : World) (r : Except Errno Unit) : Served := .done (w.charge cs.length) (t.continue_ (next r))
  match (t.descriptor? fd).bind fun id => (w.file? id).map (id, ·) with
  | none => give w (.error .badDescriptor)
  | some (id, f) =>
    if !f.how.writable then give w (.error .badDescriptor)
    else
      let toPipe (pipe : Nat) : Served :=
        if !w.hasReader pipe then
          .done w ((t.continue_ (next (.error .brokenPipe))).receive Signal.pipe)
        else match w.pipe? pipe with
          | none => give w (.ok ())
          | some p =>
            if Pipe.capacity ≤ p.size then
              if t.caught.isEmpty then .blocked w t none else give w (.error .interrupted)
            else give (w.setPipe pipe (p.push cs)) (.ok ())
      match f.stream with
      | .dir _ | .reader _ => give w (.error .badDescriptor)
      | .device .full => give w (.error .noSpace)
      | .device _ => give w (.ok ())
      | .writer pipe | .channel pipe => toPipe pipe
      | .collected index => give (w.collect index cs) (.ok ())
      | .orphan serial =>
        let content := (w.contentOf? f).getD []
        let position := if f.how.append then content.length else f.position
        let orphans := w.orphans.map fun (n, g) =>
          (n, if n = serial then { g with content := overwrite content position (Octets.toBytes cs), modified := w.now } else g)
        give ({ w with orphans }.setFile id { f with position := position + cs.length }) (.ok ())
      | .file loc =>
        match w.fs.lookup loc with
        | some (.file g) =>
          let position := if f.how.append then g.content.length else f.position
          let fs := w.fs.putFile loc
            { g with content := overwrite g.content position (Octets.toBytes cs), modified := w.now }
          give ({ w with fs }.setFile id { f with position := position + cs.length }) (.ok ())
        | _ => give w (.ok ())

def seek (w : World) (t : Task) (fd : Nat) (offset : Int) (origin : Origin) : Except Errno Nat × World :=
  match (t.descriptor? fd).bind fun id => (w.file? id).map (id, ·) with
  | none => (.error .badDescriptor, w)
  | some (id, f) =>
    match w.contentOf? f, f.stream with
    | some content, _ =>
      let base : Nat := match origin with
        | .start => 0
        | .here => f.position
        | .stop => content.length
      let target := (base : Int) + offset
      if target < 0 then (.error .invalid, w) else (.ok target.toNat, w.setFile id { f with position := target.toNat })
    | none, .device _ => (.ok 0, w)
    | none, .dir _ => (.ok 0, w)
    | none, _ => (.error .illegalSeek, w)

/-! ### Descriptors -/

/-- The file system changes. Open files are followed by their numbers, and those that lost their name keep what
they held. -/
def afterEdit (w : World) (fs : FileSystem) : World :=
  w.files.foldl (fun w' (id, f) =>
    match f.stream with
    | .file loc =>
      match w.fs.lookup loc with
      | some (.file old) =>
        let isHere : Bool := match fs.lookup loc with
          | some (.file g) => g.serial = old.serial
          | _ => false
        if isHere then w'
        else
          let twin := fs.entries.find? fun (_, e) => match e with
            | .file g => g.serial = old.serial
            | _ => false
          match twin with
          | some (l, _) => w'.setFile id { f with stream := .file l }
          | none =>
            { w' with orphans := (old.serial, old) :: w'.orphans.filter (·.1 != old.serial) }.setFile id
              { f with stream := .orphan old.serial }
      | _ => w'
    | _ => w') { w with fs }

/-- Where a location is after a directory has moved. -/
def moved (source target loc : Location) : Location :=
  if source.isPrefixOf loc then target ++ loc.drop source.length else loc

/-- Gives something another name. Those who are in a directory that moves stay in it. -/
def rename (w : World) (t : Task) (source target : Path) : Except Errno Unit × World × Task :=
  match w.fs.rename t.cwd source target with
  | (.error e, _) => (.error (.ofError e), w, t)
  | (.ok (), fs) =>
    match w.fs.find t.cwd false source, w.fs.resolve t.cwd false target.withoutTrailingSlash with
    | .ok (old, .dir), .ok place =>
      let new := match place with
        | .absent dir name => dir ++ [name]
        | .present loc _ => loc
      let follow (t : Task) : Task := { t with cwd := moved old new t.cwd }
      let w := w.afterEdit fs
      let files := w.files.map fun (id, f) =>
        match f.stream with
        | .dir loc => (id, { f with stream := .dir (moved old new loc) })
        | _ => (id, f)
      (.ok (), { w with files, tasks := w.tasks.map follow }, follow t)
    | _, _ => (.ok (), w.afterEdit fs, t)

def closeFd (w : World) (t : Task) (fd : Nat) (next : Except Errno Unit → Program) : Served :=
  if (t.descriptor? fd).isSome then
    .done w ({ t with descriptors := t.descriptors.filter (·.1 != fd) }.continue_ (next (.ok ())))
  else .done w (t.continue_ (next (.error .badDescriptor)))

/-- What the descriptors of a task lead to. -/
def handles (w : World) (t : Task) : List (Nat × Handle) :=
  (t.descriptors.map fun (fd, d) =>
    (fd, match (w.file? d.file).map OpenFile.stream with
      | some (.file loc) | some (.dir loc) =>
        match w.fs.lookup loc with
        | some entry => .entry loc entry
        | none => .pipe
      | some (.orphan serial) => .entry [] (.file ((w.orphans.lookup serial).getD (.plain [])))
      | some (.device d) => .entry [] (.device d)
      | some _ => .pipe
      | none => .closed)).mergeSort fun a b => a.1 ≤ b.1

def viewOf (w : World) (t : Task) : View := ⟨w.fs, t.cwd, t.umask, t.pid, t.parent, w.clock, w.now, w.handles t⟩

end World

end AlloyGrade.Process
