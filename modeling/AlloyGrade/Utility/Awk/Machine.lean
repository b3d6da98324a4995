import AlloyGrade.Utility.Awk.Parse
import AlloyGrade.Utility.Input
import AlloyGrade.Utility.Running
import Std.Data.HashMap

/-! The machine that runs programs of the pattern language: its variables, its record with the fields, and its streams. -/

namespace AlloyGrade.Utility.Awk

open Process Tool

/-- Where a variable lives: among the locals of a call, or everywhere. -/
structure Place where
  frame : Option Nat
  name : Octets

inductive Cell where
  | scalar (v : Value)
  | array (id : Nat)
  /-- A parameter that stands for a variable of the caller, as long as nothing is assigned to it. -/
  | alias_ (place : Place)

structure Output where
  direction : Direction
  name : Octets
  fd : Nat
  /-- The process that reads what is written. -/
  reader : Option Nat

structure Input where
  isCommand : Bool
  name : Octets
  source : Source
  writer : Option Nat

/-- Variables are kept apart in the same way as the keys of a table. -/
instance : Hashable Octets := ⟨fun name => UInt64.ofNat (Table.hash name)⟩

structure Machine where
  functions : List Function
  globals : Std.HashMap Octets Cell
  frames : Array (List (Octets × Cell))
  tables : Array Table
  record : Octets
  /-- The fields, once they are wanted, and the separator that held when the record came. -/
  fields : Option (Array Value)
  separator : Octets
  /-- A field has changed since the record was put together. -/
  stale : Bool
  outputs : List Output
  inputs : List Input
  /-- The file that is read, and how many arguments have been used. -/
  current : Option (Octets × Source)
  nextArgument : Nat
  /-- No file has been among the arguments so far. -/
  usesInput : Bool
  /-- The rules whose ranges are open. -/
  openRanges : List Nat
  status : Nat
  seed : Nat

/-- Why the present statement is left. -/
inductive Leave where
  | next
  | nextFile
  | exit
  | return_ (v : Value)
  | break_
  | continue_

abbrev Exec := ExceptT Leave (StateT Machine Tool)

/-- A part of a utility as a part of the machine. -/
def lift {α : Type} (t : Tool α) : Exec α := ExceptT.lift (StateT.lift t)

/-! ### Variables -/

def global (name : String) : Exec Value := do
  match (← get).globals[name.toList]? with
  | some (.scalar v) => return v
  | _ => return .unset

def setGlobal (name : String) (v : Value) : Exec Unit :=
  modify fun m => { m with globals := m.globals.insert name.toList (.scalar v) }

def convFormat : Exec Octets := do
  match ← global "CONVFMT" with
  | .text t | .numeral t _ => return t
  | _ => return "%.6g".toList

def textOf (v : Value) : Exec Octets :=
  match v with
  | .number x => do return numberText (← convFormat) x
  | v => return v.toText []

def globalText (name : String) : Exec Octets := do textOf (← global name)

/-- Ends the program with a message. -/
def crash {α : Type} (message : Octets) : Exec α := do
  let file ← globalText "FILENAME"
  let number (name : String) : Exec Octets := do return numberText "%.6g".toList (← global name).toNumber
  let fnr ← number "FNR"
  let nr ← number "NR"
  lift do
    let s ← get
    writeTo 2 (s.name ++ ": run time error: ".toList ++ message ++ "\n\tFILENAME=\"".toList ++ file ++ "\" FNR=".toList ++ fnr ++
      " NR=".toList ++ nr ++ ['\n'])
    exit 2

/-- Ends the program with a message about something outside. -/
def refuse {α : Type} (message : Octets) : Exec α := lift do
  let s ← get
  writeTo 2 (s.name ++ ": ".toList ++ message ++ ['\n'])
  exit 2

def placeOf (name : Octets) : Exec Place := do
  let m ← get
  match m.frames.back? with
  | some frame => return if frame.any (·.1 == name) then ⟨some (m.frames.size - 1), name⟩ else ⟨none, name⟩
  | none => return ⟨none, name⟩

def cellAt (p : Place) : Exec (Option Cell) := do
  let m ← get
  match p.frame with
  | some i => return ((m.frames.getD i []).lookup p.name)
  | none => return m.globals[p.name]?

def setCell (p : Place) (c : Cell) : Exec Unit :=
  modify fun m => match p.frame with
    | some i =>
      { m with frames := m.frames.set! i ((m.frames.getD i []).map fun (n, old) => if n == p.name then (n, c) else (n, old)) }
    | none => { m with globals := m.globals.insert p.name c }

/-- The array that a name stands for; a name that has not been used becomes one. -/
def arrayAt : Nat → Place → Exec Nat
  | 0, _ => return 0
  | fuel + 1, p => do
    match ← cellAt p with
    | some (.array id) => return id
    | some (.alias_ other) => arrayAt fuel other
    | some (.scalar .unset) | none =>
      let id := (← get).tables.size
      modify fun m => { m with tables := m.tables.push Table.empty }
      setCell p (.array id)
      return id
    | some (.scalar _) => crash ("illegal reference to variable ".toList ++ p.name)

def arrayOf (name : Octets) : Exec Nat := do arrayAt 1000 (← placeOf name)

def table (id : Nat) : Exec Table := do return (← get).tables.getD id Table.empty

def setTable (id : Nat) (t : Table) : Exec Unit := modify fun m => { m with tables := m.tables.set! id t }

/-- Whether a name stands for an array now. -/
def isArray : Nat → Place → Exec Bool
  | 0, _ => return false
  | fuel + 1, p => do
    match ← cellAt p with
    | some (.array _) => return true
    | some (.alias_ other) => isArray fuel other
    | _ => return false

/-! ### Fields -/

/-- How a text is cut into parts. -/
inductive Separator where
  | blanks
  | each
  | regex (r : Regex)

/-- One character stands for itself, a blank for any blanks, nothing for every place, and a longer text is an expression. -/
def separatorOf (t : Octets) : Exec Separator := do
  match t with
  | [' '] => return .blanks
  | [] => return .each
  | [c] => return .regex (.literal c)
  | _ =>
    match regexOf? t with
    | .ok r => return .regex r
    | .error message => crash message

def splitBlanks (t : Octets) : List Octets :=
  let (parts, last) := t.foldl (fun (acc : List Octets × Octets) c =>
    if c = ' ' || c = '\t' || c = '\n' then (if acc.2.isEmpty then acc else (acc.2.reverse :: acc.1, [])) else (acc.1, c :: acc.2)) ([], [])
  (if last.isEmpty then parts else last.reverse :: parts).reverse

def splitRegex (r : Regex) (text : Array Char) : Nat → Nat → Nat → List Octets
  | 0, start, _ => [(text.toList.drop start)]
  | fuel + 1, start, p =>
    match r.search ⟨false, false⟩ text p with
    | none => [text.toList.drop start]
    | some found =>
      if found.stop = found.start then
        if text.size ≤ found.start then [text.toList.drop start] else splitRegex r text fuel start (found.start + 1)
      else (text.extract start found.start).toList :: splitRegex r text fuel found.stop found.stop

def Separator.split (s : Separator) (t : Octets) : List Octets :=
  if t.isEmpty then []
  else match s with
    | .blanks => splitBlanks t
    | .each => t.map ([·])
    | .regex r => splitRegex r t.toArray (t.length + 1) 0 0

/-- The separator of fields; between paragraphs, line ends separate too. -/
def fieldSeparator (t : Octets) : Exec Separator := do
  let s ← separatorOf t
  match s with
  | .regex r => return if (← globalText "RS").isEmpty then .regex (.alt r (.literal '\n')) else s
  | _ => return s

/-- The fields of the record. -/
def fields : Exec (Array Value) := do
  let m ← get
  match m.fields with
  | some fs => return fs
  | none =>
    let parts := (← fieldSeparator m.separator).split m.record
    let fs := (parts.map Value.fromOutside).toArray
    modify ({ · with fields := some fs })
    return fs

def setRecord (t : Octets) : Exec Unit := do
  let separator ← globalText "FS"
  modify ({ · with record := t, fields := none, separator, stale := false })

/-- The record, put together again if a field has changed. -/
def record : Exec Octets := do
  let m ← get
  if m.stale then
    let fs ← fields
    let parts ← fs.toList.mapM textOf
    let t := (← globalText "OFS").intercalate parts
    modify ({ · with record := t, stale := false })
    return t
  else return m.record

def checkedIndex (x : Float) : Exec Nat := do
  let n := clamped x
  if n < 0 then crash ("negative field index $".toList ++ Octets.ofInt n)
  return n.toNat

def field (n : Nat) : Exec Value := do
  if n = 0 then return .fromOutside (← record)
  else return (← fields).getD (n - 1) .unset

/-- Makes the record have so many fields. -/
def setFieldCount (n : Nat) : Exec Unit := do
  let fs ← fields
  let fs := if n ≤ fs.size then fs.extract 0 n else fs ++ Array.replicate (n - fs.size) (.text [])
  modify ({ · with fields := some fs, stale := true })

def setField (n : Nat) (v : Value) : Exec Unit := do
  if n = 0 then setRecord (← textOf v)
  else
    if (← fields).size < n then setFieldCount n
    let fs ← fields
    modify ({ · with fields := some (fs.set! (n - 1) v), stale := true })

/-! ### Names -/

def valueAt : Nat → Place → Exec Value
  | 0, _ => return .unset
  | fuel + 1, p => do
    match ← cellAt p with
    | some (.scalar v) => return v
    | some (.alias_ other) => valueAt fuel other
    | some (.array _) => crash ("illegal reference to array ".toList ++ p.name)
    | none => return .unset

def variable_ (name : Octets) : Exec Value := do
  let p ← placeOf name
  if p.frame.isNone && name == "NF".toList then return .ofNat (← fields).size
  else valueAt 1000 p

def setVariable (name : Octets) (v : Value) : Exec Unit := do
  let p ← placeOf name
  if p.frame.isNone && name == "NF".toList then setFieldCount (clamped v.toNumber).toNat
  else
    -- The record is cut up by the separator that held when it came.
    setCell p (.scalar v)

/-- A place for a value, with its index or its key worked out. -/
inductive Spot where
  | variable_ (name : Octets)
  | field (n : Nat)
  | item (id : Nat) (key : Octets)
  | nowhere

/-- The value at a place; an item that is looked at comes into being. -/
def load : Spot → Exec Value
  | .variable_ n => variable_ n
  | .field n => field n
  | .item id key => do
    let t ← table id
    match t.find? key with
    | some v =>
      setTable id (t.touched key)
      return v
    | none =>
      setTable id (t.insert key .unset)
      return .unset
  | .nowhere => return .unset

def store : Spot → Value → Exec Unit
  | .variable_ n, v => setVariable n v
  | .field n, v => setField n v
  | .item id key, v => do setTable id ((← table id).insert key v)
  | .nowhere, _ => return ()

/-! ### Other programs -/

/-- A command whose input or output is connected with this process: its number, and the descriptor here. -/
def connect (command : Octets) (writes : Bool) : Exec (Nat × Nat) := lift do
  flush
  let (r, w) ← ask .pipe
  let environment := (← get).environment
  let pid ← spawn do
    let _ ← ask (.duplicate (if writes then r else w) (if writes then 0 else 1))
    close r
    close w
    let _ ← become ["/bin/sh".toList, "-c".toList, command] environment
    exit 127
  close (if writes then r else w)
  let mine := if writes then w else r
  match ← ask (.save mine 10) with
  | .ok fd =>
    close mine
    return (pid, fd)
  | .error _ => return (pid, mine)

/-- What a command that has ended is worth. -/
def worth : Death → Float
  | .exited n => Float.ofNat n
  | .signaled s | .stopped s => Float.ofNat (256 + s)

def awaited (pid : Nat) : Exec Float := lift do
  match ← await (some pid) patience with
  | .ended _ death => return worth death
  | _ => return -1

def system (command : Octets) : Exec Float := do
  let pid ← lift do
    flush
    let environment := (← get).environment
    spawn do
      let _ ← become ["/bin/sh".toList, "-c".toList, command] environment
      exit 127
  awaited pid

/-! ### Streams -/

def isStandard (name : Octets) : Bool := name == "/dev/stdout".toList || name == ['-']

/-- Writes a text to where it is meant to go. -/
def write (target : Option (Direction × Octets)) (t : Octets) : Exec Unit := do
  match target with
  | none => lift (put t)
  | some (direction, name) =>
    if direction ≠ .command && isStandard name then lift (put t)
    else if direction ≠ .command && name == "/dev/stderr".toList then lift (writeTo 2 t)
    else
      let isCommand := direction = .command
      match (← get).outputs.find? fun o => o.name == name && decide (o.direction = .command) == isCommand with
      | some o => lift (writeTo o.fd t)
      | none =>
        if isCommand then
          let (pid, fd) ← connect name true
          modify fun m => { m with outputs := ⟨direction, name, fd, some pid⟩ :: m.outputs }
          lift (writeTo fd t)
        else
          let how : Opening := ⟨false, true, direction = .append, true, direction = .file, false⟩
          match ← lift (open_ name how) with
          | .ok fd =>
            modify fun m => { m with outputs := ⟨direction, name, fd, none⟩ :: m.outputs }
            lift (writeTo fd t)
          | .error e =>
            refuse ("cannot open \"".toList ++ name ++ "\" for output (".toList ++ (Errno.text e).toList ++ [')'])

def closeOutput (o : Output) : Exec Float := do
  lift (close o.fd)
  match o.reader with
  | some pid => awaited pid
  | none => return 0

def closeInput (i : Input) : Exec Float := do
  lift (close i.source.fd)
  match i.writer with
  | some pid => awaited pid
  | none => return 0

/-- Closes the streams of a name. -/
def closeNamed (name : Octets) : Exec Float := do
  let m ← get
  let outputs := m.outputs.filter (·.name == name)
  let inputs := m.inputs.filter (·.name == name)
  modify ({ · with outputs := m.outputs.filter (·.name != name), inputs := m.inputs.filter (·.name != name) })
  let a ← outputs.mapM closeOutput
  let b ← inputs.mapM closeInput
  return (a ++ b).head?.getD (-1)

/-- Cuts the first record off a text that is known to its end. -/
def cutRecord (mark : Octets) (t : Octets) : Exec (Option (Octets × Octets)) := do
  if mark.isEmpty then
    let t := t.dropWhile (· == '\n')
    if t.isEmpty then return none
    let (found, rest) := match Octets.splitAtText ['\n', '\n'] t with
      | some (before, after) => (before, after.dropWhile (· == '\n'))
      | none => (if t.getLast? = some '\n' then t.dropLast else t, [])
    return some (found, rest)
  else if t.isEmpty then return none
  else
    match regexOf? mark with
    | .error message => crash message
    | .ok r =>
      match r.search ⟨false, false⟩ t.toArray 0 with
      | some found =>
        if found.stop = found.start then return some (t, []) else return some (t.take found.start, t.drop found.stop)
      | none => return some (t, [])

/-- The next record of a source. -/
def nextRecord (s : Source) : Exec (Option Octets × Source) := do
  match ← globalText "RS" with
  | [c] =>
    match ← lift (s.nextLine c patience) with
    | .ok (some (line, _), s) => return (some line, s)
    | .ok (none, s) => return (none, s)
    | .error _ => return (none, { s with ended := true, pending := [] })
  | mark =>
    let all ← if s.ended then pure s.pending else do
      match ← lift (readAll s.fd) with
      | .ok t => pure (s.pending ++ t)
      | .error _ => pure s.pending
    match ← cutRecord mark all with
    | some (found, rest) => return (some found, { s with pending := rest, ended := true })
    | none => return (none, { s with pending := [], ended := true })

/-! ### The main input -/

/-- The name and the value in an argument that assigns. -/
def assignment? (a : Octets) : Option (Octets × Octets) :=
  let name := a.takeWhile isNameChar
  match a.drop name.length with
  | '=' :: value => if name.head?.any isNameStart then some (name, value) else none
  | _ => none

/-- A text with escapes replaced as between quotes. -/
def unescaped (t : Octets) : Octets :=
  let closed := t.flatMap fun c => if c = '"' then ['\\', '"'] else if c = '\n' then ['\\', 'n'] else [c]
  match quotedText (closed.length + 2) (closed ++ ['"']) [] with
  | some (found, _) => found
  | none => t

def assignArgument (name value : Octets) : Exec Unit := setVariable name (.fromOutside (unescaped value))

/-- Opens the next file among the arguments; without any, the standard input. -/
def openNext : Nat → Exec Bool
  | 0 => return false
  | fuel + 1 => do
    let m ← get
    let count := (clamped (← global "ARGC").toNumber).toNat
    if count ≤ m.nextArgument then
      if m.usesInput then
        modify ({ · with usesInput := false, current := some (['-'], .ofFd 0) })
        return true
      else return false
    else
      modify ({ · with nextArgument := m.nextArgument + 1 })
      let arguments ← table (← arrayAt 10 ⟨none, "ARGV".toList⟩)
      match arguments.find? (Octets.ofNat m.nextArgument) with
      | none => openNext fuel
      | some v =>
        let a ← textOf v
        if a.isEmpty then openNext fuel
        else match assignment? a with
          | some (name, value) =>
            assignArgument name value
            openNext fuel
          | none =>
            match ← lift (openInput a) with
            | .ok fd =>
              modify ({ · with usesInput := false, current := some (a, .ofFd fd) })
              setGlobal "FILENAME" (.text a)
              setGlobal "FNR" (.number 0)
              return true
            | .error e => refuse ("cannot open \"".toList ++ a ++ "\" (".toList ++ (Errno.text e).toList ++ [')'])

def leaveFile : Exec Unit := do
  match (← get).current with
  | some (name, source) =>
    lift (Utility.closeInput name source.fd)
    modify ({ · with current := none })
  | none => return ()

/-- The next record of the main input. -/
def mainRecord : Nat → Exec (Option Octets)
  | 0 => return none
  | fuel + 1 => do
    match (← get).current with
    | none => if ← openNext 100000 then mainRecord fuel else return none
    | some (name, source) =>
      let (found, source) ← nextRecord source
      modify ({ · with current := some (name, source) })
      match found with
      | some t =>
        setGlobal "NR" (.number ((← global "NR").toNumber + 1))
        setGlobal "FNR" (.number ((← global "FNR").toNumber + 1))
        return some t
      | none =>
        leaveFile
        if ← openNext 100000 then mainRecord fuel else return none

/-- The stream that lines are read from by name. -/
def inputNamed (isCommand : Bool) (name : Octets) : Exec (Option Input) := do
  match (← get).inputs.find? fun i => i.name == name && i.isCommand == isCommand with
  | some i => return some i
  | none =>
    let opened : Option Input ←
      if isCommand then do
        let (pid, fd) ← connect name false
        pure (some ⟨true, name, .ofFd fd, some pid⟩)
      else do
        match ← lift (openInput name) with
        | .ok fd => pure (some ⟨false, name, .ofFd fd, none⟩)
        | .error _ => pure none
    match opened with
    | some i => modify fun m => { m with inputs := i :: m.inputs }
    | none => pure ()
    return opened

end AlloyGrade.Utility.Awk
