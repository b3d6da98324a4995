import AlloyGrade.Utility.Editor.Script
import AlloyGrade.Utility.Input

/-! The stream editor: it takes line after line into its pattern space, applies the commands of a script, and writes
what is left. -/

namespace AlloyGrade.Utility.Editor

open Process Tool

structure Settings where
  quiet : Bool
  separate : Bool
  inPlace : Option Octets
  mark : Char
  width : Nat
  commands : Array Command

/-- A line and whether it had an end. -/
abbrev Line := Octets × Bool

/-- What has been put aside to be written at the end of a cycle. -/
inductive Pending where
  | text (cs : Octets)
  | file (name : Octets)

structure Machine where
  space : Octets
  /-- The line in the pattern space had an end. -/
  ended : Bool
  held : Octets
  /-- What is held counts as a line with an end. -/
  heldEnded : Bool
  line : Nat
  /-- The files still to be read, and the one that is read. -/
  names : List Octets
  current : Option (Octets × Source)
  ahead : Option Line
  /-- The line that was taken is the last one of its file. -/
  pending : List Pending
  /-- The commands whose ranges are open, with the line at which they end if that is known. -/
  ranges : List (Nat × Option Nat)
  /-- Ranges that begin before the first line and have ended. -/
  closed : List Nat
  substituted : Bool
  lastRegex : Option Matcher
  /-- Files that are written to. -/
  writers : List (Octets × Nat)
  /-- Sources of single lines. -/
  sources : List (Octets × Source)
  /-- The last line written had no end. -/
  missing : Bool
  /-- What a file that is edited in place becomes, last first. -/
  edited : List Octets
  failed : Bool

abbrev Edit := StateT Machine Tool

/-! ### Output -/

/-- Writes to where the output goes. -/
def emit (s : Settings) (text : Octets) : Edit Unit := do
  let m ← get
  let text := if m.missing then s.mark :: text else text
  set { m with missing := false }
  if s.inPlace.isSome then modify fun m => { m with edited := text :: m.edited } else put text

/-- Writes a line; one that had no end leaves its end open. -/
def emitLine (s : Settings) (text : Octets) (ended : Bool) : Edit Unit := do
  emit s (if ended then text ++ [s.mark] else text)
  unless ended do modify ({ · with missing := true })

def emitSpace (s : Settings) : Edit Unit := do
  let m ← get
  emitLine s m.space m.ended

/-- Writes to a file of the script. -/
def writeFile (s : Settings) (name text : Octets) : Edit Unit := do
  if name == "/dev/stdout".toList then emit s text
  else if name == "/dev/stderr".toList then complain text
  else match (← get).writers.lookup name with
    | some fd => writeTo fd text
    | none => pure ()

/-- Writes what has been put aside. -/
def emitPending (s : Settings) : Edit Unit := do
  let pending := (← get).pending
  modify ({ · with pending := [] })
  for p in pending do
    match p with
    | .text cs => unless cs.isEmpty do emit s cs
    | .file name =>
      match ← (contents name : Tool _) with
      | .ok text => unless text.isEmpty do emit s text
      | .error _ => pure ()

/-! ### Input -/

/-- Ends the work on a file; what was edited in place is written back. -/
def closeFile (s : Settings) : Edit Unit := do
  let m ← get
  match m.current with
  | none => pure ()
  | some (name, source) =>
    closeInput name source.fd
    match s.inPlace with
    | none => pure ()
    | some suffix =>
      let text := m.edited.reverse.flatten
      unless suffix.isEmpty do
        let backup := if suffix.contains '*' then suffix.flatMap fun c => if c = '*' then name else [c] else name ++ suffix
        let _ ← (edit fun cwd fs => match fs.stat cwd (Octets.toPath name) with
          | .ok (_, .file f) =>
            let left := (fs.removeAny cwd (Octets.toPath backup)).2
            left.create cwd (Octets.toPath backup) (.file { f with serial := 0 })
          | _ => (.ok (), fs) : Tool _)
      let v : View ← (view : Tool _)
      let _ ← (edit fun cwd fs => match fs.stat cwd (Octets.toPath name) with
        | .ok (loc, .file f) =>
          (.ok (), fs.insert loc (.file { f with content := Octets.toBytes text, serial := 0, modified := v.now }))
        | _ => (.ok (), fs) : Tool _)
    modify ({ · with current := none, edited := [] })
    if s.inPlace.isSome then modify ({ · with missing := false })

def isSeparate (s : Settings) : Bool := s.separate || s.inPlace.isSome

/-- Opens the next file that can be read; lines are counted anew for each file that stands on its own. -/
def openNext (s : Settings) : Nat → Edit Bool
  | 0 => return false
  | fuel + 1 => do
    match (← get).names with
    | [] => return false
    | name :: rest =>
      modify ({ · with names := rest })
      match ← (openInput name : Tool _) with
      | .error e =>
        warn ("can't read ".toList ++ because name e)
        modify ({ · with failed := true })
        openNext s fuel
      | .ok fd =>
        match ← (ask (.read fd 65536) : Tool (Except Errno Octets)) with
        | .error e =>
          if s.inPlace.isSome then warn ("couldn't edit ".toList ++ name ++ ": not a regular file".toList)
          else warn ("read error on ".toList ++ because name e)
          if s.inPlace.isNone then exit 4
          modify ({ · with failed := true })
          openNext s fuel
        | .ok piece =>
          modify ({ · with current := some (name, ⟨fd, piece, piece.isEmpty⟩) })
          if isSeparate s then modify ({ · with line := 0, ranges := [], closed := [] })
          return true

/-- The next line of the file that is read. -/
def lineHere (s : Settings) : Edit (Option Line) := do
  match (← get).current with
  | none => return none
  | some (name, source) =>
    match ← (source.nextLine s.mark patience : Tool _) with
    | .error e =>
      warn ("read error on ".toList ++ because name e)
      exit 4
    | .ok (line, source) =>
      modify ({ · with current := some (name, source) })
      return line

/-- Looks one line ahead, into the next files too unless they are edited on their own. -/
def fillAhead (s : Settings) (across : Bool) : Nat → Edit Unit
  | 0 => return ()
  | fuel + 1 => do
    if (← get).ahead.isNone then
      match ← lineHere s with
      | some line => modify ({ · with ahead := some line })
      | none =>
        if across then
          closeFile s
          if ← openNext s ((← get).names.length + 1) then fillAhead s across fuel

/-- Whether the line in the pattern space is the last one. -/
def isLast (s : Settings) : Edit Bool := do
  fillAhead s (!isSeparate s) 100000
  return (← get).ahead.isNone

/-- Takes the next line; says whether there was one. -/
def take (s : Settings) : Edit (Option Line) := do
  fillAhead s (!isSeparate s) 100000
  if (← get).ahead.isNone && isSeparate s then fillAhead s true 100000
  let m ← get
  match m.ahead with
  | none => return none
  | some line =>
    set { m with ahead := none, line := m.line + 1 }
    return some line

/-- Whether there is any line left to take. -/
def hasMore (s : Settings) : Edit Bool := do
  fillAhead s (!isSeparate s) 100000
  let m ← get
  return m.ahead.isSome || (isSeparate s && !m.names.isEmpty)

/-! ### Matches -/

/-- The expression that is meant, which becomes the last one used. -/
def chosen (m : Matcher) : Edit (Regex × Regex.Mode) := do
  match m.regex with
  | some r =>
    modify ({ · with lastRegex := some m })
    return (r, m.mode)
  | none =>
    match (← get).lastRegex with
    | some ⟨some r, mode⟩ => return (r, mode)
    | _ => fail 1 "-e expression #1, char 0: no previous regular expression".toList

def matches_ (m : Matcher) : Edit Bool := do
  let (r, mode) ← chosen m
  return (r.search mode (← get).space.toArray 0).isSome

def fits (s : Settings) : Address → Edit Bool
  | .line n => do return (← get).line = n
  | .last => isLast s
  | .text m => matches_ m
  | .step first stride => do
    let line := (← get).line
    return if stride = 0 then line = first else first ≤ line && (line - first) % stride = 0

/-- Whether a command applies to the line. -/
def applies (s : Settings) (i : Nat) (c : Command) : Edit Bool := do
  match c.start, c.stop with
  | none, _ => return true
  | some a, none => fits s a
  | some a, some b =>
    let m ← get
    let endRange : Edit Unit := modify fun m => { m with ranges := m.ranges.filter (·.1 != i) }
    let startsEarly := match a with
      | .line 0 => !m.closed.contains i
      | _ => false
    let openHere : Option (Option Nat) := match m.ranges.lookup i with
      | some stop => some stop
      | none => if startsEarly then some none else none
    match openHere with
    | some stop =>
      let ends : Bool ← match stop, b with
        | some n, _ => pure (decide (n ≤ m.line))
        | none, .last => isLast s
        | none, .text t => matches_ t
        | none, _ => pure true
      if ends then
        endRange
        modify fun m => { m with closed := i :: m.closed }
      return stop.all (m.line ≤ ·)
    | none =>
      if !(← fits s a) then return false
      let line := m.line
      let begin_ (stop : Option Nat) : Edit Unit := modify fun m => { m with ranges := (i, stop) :: m.ranges }
      match b with
      | .line n => if line < n then begin_ (some n)
      | .later n => if 0 < n then begin_ (some (line + n))
      | .multiple n => if 0 < n && 0 < n - line % n then begin_ (some (line + n - line % n))
      | .last => unless ← isLast s do begin_ none
      | .text _ => begin_ none
      return true

/-- Whether the range of a command is still open. -/
def inRange (i : Nat) : Edit Bool := do return (← get).ranges.any (·.1 == i)

/-! ### Replacements -/

/-- Changes the case of a text; a change of one character counts once. -/
def cased (c once : Option Case) (text : Octets) : Octets :=
  let all := match c with
    | some .upper => text.map Char.toUpper
    | some .lower => text.map Char.toLower
    | _ => text
  match once, all with
  | some .upperOnce, x :: rest => x.toUpper :: rest
  | some .lowerOnce, x :: rest => x.toLower :: rest
  | _, _ => all

def replacementText (found : Regex.Match) (text : Array Char) : List Piece → Option Case → Option Case → Octets
  | [], _, _ => []
  | .case c :: rest, whole, once =>
    match c with
    | .upper | .lower => replacementText found text rest (some c) once
    | .stop => replacementText found text rest none once
    | _ => replacementText found text rest whole (some c)
  | .text cs :: rest, whole, once =>
    cased whole once cs ++ replacementText found text rest whole (if cs.isEmpty then once else none)
  | .group n :: rest, whole, once =>
    let part := found.part text n
    cased whole once part ++ replacementText found text rest whole (if part.isEmpty then once else none)

/-- Replaces matches from a place on: the number of the match that comes next is given, and whether the place stands
right behind a match. -/
def replaceFrom (r : Regex) (mode : Regex.Mode) (sub : Substitution) (text : Array Char) :
    Nat → Nat → Nat → Option Nat → List Octets × Bool
  | 0, p, _, _ => ([(text.extract p text.size).toList], false)
  | fuel + 1, p, count, lastStop =>
    match r.search mode text p with
    | none => ([(text.extract p text.size).toList], false)
    | some found =>
      let before := (text.extract p found.start).toList
      if found.start = found.stop && lastStop = some found.start then
        -- An empty match right behind another one does not count.
        if found.start < text.size then
          let (rest, done) := replaceFrom r mode sub text fuel (found.start + 1) count none
          (before :: (text.extract found.start (found.start + 1)).toList :: rest, done)
        else ([before], false)
      else
        let chosen := count = sub.nth || (sub.all && sub.nth < count)
        let here := if chosen then replacementText found text sub.replacement none none else (text.extract found.start found.stop).toList
        if chosen && !sub.all then ([before, here, (text.extract found.stop text.size).toList], true)
        else if found.start = found.stop then
          if found.start < text.size then
            let (rest, done) := replaceFrom r mode sub text fuel (found.start + 1) (count + 1) none
            (before :: here :: (text.extract found.start (found.start + 1)).toList :: rest, done || chosen)
          else ([before, here], chosen)
        else
          let (rest, done) := replaceFrom r mode sub text fuel found.stop (count + 1) (some found.stop)
          (before :: here :: rest, done || chosen)

def substitute (s : Settings) (sub : Substitution) : Edit Unit := do
  let (r, mode) ← chosen sub.what
  let text := (← get).space.toArray
  let (parts, done) := replaceFrom r mode sub text (2 * text.size + 4) 0 1 none
  if done then
    modify fun m => { m with space := parts.flatten, substituted := true }
    if sub.prints then emitSpace s
    match sub.file with
    | some name => writeFile s name ((← get).space ++ [s.mark])
    | none => pure ()

/-! ### Commands -/

/-- A text with everything visible, in lines of a width. -/
def visibleLines (width : Nat) (text : Octets) : Octets :=
  let shown (c : Char) : Octets := match c with
    | '\\' => ['\\', '\\']
    | '\x07' => ['\\', 'a']
    | '\x08' => ['\\', 'b']
    | '\x0c' => ['\\', 'f']
    | '\n' => ['\\', 'n']
    | '\r' => ['\\', 'r']
    | '\t' => ['\\', 't']
    | '\x0b' => ['\\', 'v']
    | c => if isPrintable c then [c] else octalEscape c
  let (lines, last) := text.foldl (fun ((lines, line) : List Octets × Octets) c =>
    let piece := shown c
    if 1 < width && width - 1 < line.length + piece.length then (line :: lines, piece) else (lines, line ++ piece)) ([], [])
  (lines.reverse.flatMap (· ++ ['\\', '\n'])) ++ last ++ ['$', '\n']

/-- How a cycle goes on. -/
inductive Flow where
  /-- With the command at a place. -/
  | goto (i : Nat)
  /-- To its end. -/
  | finish
  /-- To its end without writing. -/
  | drop
  /-- To its end without writing, and on without a new line. -/
  | again
  | quit (code : Nat) (prints : Bool)

def labelPlace (cs : Array Command) (name : Octets) : Option Nat :=
  cs.findIdx? fun c => match c.action with
    | .label n => n == name
    | _ => false

/-- Where a jump leads. -/
def jump (s : Settings) (name : Octets) : Flow :=
  if name.isEmpty then .finish
  else match labelPlace s.commands name with
    | some i => .goto i
    | none => .finish

/-- Takes the next line into the pattern space, behind what is there if asked for. -/
def advance (s : Settings) (append : Bool) (i : Nat) : Edit Flow := do
  if ← hasMore s then
    if !append && !s.quiet then emitSpace s
    emitPending s
    match ← take s with
    | some (text, ended) =>
      modify fun m => { m with space := if append then m.space ++ ['\n'] ++ text else text, ended }
      return .goto (i + 1)
    | none => return .finish
  else return .quit 0 true

/-- A line from a file that gives one at a time. -/
def lineOf (s : Settings) (name : Octets) : Edit (Option Octets) := do
  let source? ← match (← get).sources.lookup name with
    | some source => pure (some source)
    | none => do
      match ← (openInput name : Tool _) with
      | .ok fd => pure (some (Source.ofFd fd))
      | .error _ => pure none
  match source? with
  | none => return none
  | some source =>
    match ← (source.nextLine s.mark patience : Tool _) with
    | .ok (line, source) =>
      modify fun m => { m with sources := (name, source) :: m.sources.filter (·.1 != name) }
      return line.map fun (text, ended) => if ended then text ++ [s.mark] else text
    | .error _ => return none

def perform (s : Settings) (i : Nat) (c : Command) : Edit Flow := do
  let go : Edit Flow := return .goto (i + 1)
  match c.action with
  | .open_ _ | .close | .label _ | .nothing => go
  | .branch name => return jump s name
  | .branchIf name =>
    if (← get).substituted then
      modify ({ · with substituted := false })
      return jump s name
    else go
  | .branchUnless name =>
    if (← get).substituted then
      modify ({ · with substituted := false })
      go
    else return jump s name
  | .append text =>
    modify fun m => { m with pending := m.pending ++ [.text text] }
    go
  | .insert text =>
    unless text.isEmpty do emit s text
    go
  | .change text =>
    let within := c.stop.isSome && !c.negated
    unless text.isEmpty || (within && (← inRange i)) do emit s text
    return .drop
  | .delete => return .drop
  | .deleteFirst =>
    let m ← get
    match Octets.cutAt '\n' m.space [] with
    | none => return .drop
    | some (_, rest) =>
      set { m with space := rest }
      return .again
  | .print =>
    emitSpace s
    go
  | .printFirst =>
    let m ← get
    match Octets.cutAt '\n' m.space [] with
    | some (first, _) => emitLine s first true
    | none => emitSpace s
    go
  | .get_ =>
    modify fun m => { m with space := m.held, ended := m.heldEnded }
    go
  | .getAppend =>
    modify fun m => { m with space := m.space ++ ['\n'] ++ m.held, ended := m.heldEnded }
    go
  | .hold =>
    modify fun m => { m with held := m.space, heldEnded := m.ended }
    go
  | .holdAppend =>
    modify fun m => { m with held := m.held ++ ['\n'] ++ m.space, heldEnded := m.ended }
    go
  | .exchange =>
    modify fun m => { m with space := m.held, held := m.space, ended := m.heldEnded, heldEnded := m.ended }
    go
  | .next => advance s false i
  | .nextAppend => advance s true i
  | .quit code => return .quit code true
  | .quitSilently code => return .quit code false
  | .number =>
    emit s (Octets.ofNat (← get).line ++ ['\n'])
    go
  | .list width =>
    emit s (visibleLines (width.getD s.width) (← get).space)
    go
  | .read file =>
    modify fun m => { m with pending := m.pending ++ [.file file] }
    go
  | .readLine file =>
    match ← lineOf s file with
    | some text => modify fun m => { m with pending := m.pending ++ [.text text] }
    | none => pure ()
    go
  | .write file =>
    writeFile s file ((← get).space ++ [s.mark])
    go
  | .writeFirst file =>
    writeFile s file ((← get).space.takeWhile (· ≠ '\n') ++ ['\n'])
    go
  | .substitute sub =>
    substitute s sub
    go
  | .translate pairs =>
    modify fun m => { m with space := m.space.map fun c => (pairs.lookup c).getD c }
    go
  | .clear =>
    modify ({ · with space := [] })
    go
  | .fileName =>
    emit s ((((← get).current.map (·.1)).getD ['-']) ++ ['\n'])
    go

/-- Runs the commands from a place on. -/
def runFrom (s : Settings) : Nat → Nat → Edit Flow
  | 0, _ => return .finish
  | fuel + 1, i => do
    match s.commands[i]? with
    | none => return .finish
    | some c =>
      if (← applies s i c) != c.negated then
        match ← perform s i c with
        | .goto j =>
          (ask .step : Tool Unit)
          runFrom s fuel j
        | flow => return flow
      else match c.action with
        | .open_ close => runFrom s fuel (close + 1)
        | _ => runFrom s fuel (i + 1)

/-- Ends the work: what has been read too much is given back. -/
def leave (s : Settings) (code : Nat) : Edit Unit := do
  let m ← get
  match m.current with
  | some (_, source) =>
    if s.inPlace.isSome then
      -- What is left of a file that is edited in place stays as it is.
      let rest ← (readAll source.fd : Tool _)
      let ahead := (m.ahead.map fun (t, e) => if e then t ++ [s.mark] else t).getD []
      emit s (ahead ++ source.pending ++ rest.toOption.getD [])
      closeFile s
    else
      let ahead := (m.ahead.map fun (t, e) => t.length + if e then 1 else 0).getD 0
      unless source.pending.isEmpty && ahead = 0 do
        let _ ← (ask (.seek source.fd (-((source.pending.length + ahead : Nat) : Int)) .here) : Tool (Except Errno Nat))
  | none => pure ()
  exit (if code = 0 && m.failed then 2 else code)

/-- One cycle after the other. -/
def cycles (s : Settings) : Nat → Bool → Edit Unit
  | 0, _ => return ()
  | fuel + 1, fresh => do
    (ask .step : Tool Unit)
    let ready ← if fresh then do
        match ← take s with
        | none => pure false
        | some (text, ended) =>
          modify ({ · with space := text, ended, substituted := false })
          pure true
      else pure true
    if ready then
      match ← runFrom s patience 0 with
      | .goto _ | .finish =>
        unless s.quiet do emitSpace s
        emitPending s
        cycles s fuel true
      | .drop =>
        emitPending s
        cycles s fuel true
      | .again =>
        emitPending s
        cycles s fuel false
      | .quit code prints =>
        if prints then
          unless s.quiet do emitSpace s
          emitPending s
        leave s code
    else
      closeFile s
      leave s 0

/-! ### The whole -/

/-- The names of the files that a script writes to. -/
def writtenFiles (cs : Array Command) : List Octets :=
  (cs.toList.filterMap fun c => match c.action with
    | .write f | .writeFirst f => some f
    | .substitute s => s.file
    | _ => none).eraseDups

/-- A part of a script: where it comes from and its text. -/
structure Part where
  file : Option Octets
  text : Octets

/-- What is said about a fault: the part it is in, and the place in that part. -/
def faultText (parts : List Part) (f : Fault) : Octets :=
  let rec locate (ps : List Part) (index start : Nat) : Octets :=
    match ps with
    | [] => []
    | p :: rest =>
      let index' := if p.file.isNone then index + 1 else index
      if f.position ≤ start + p.text.length || rest.isEmpty then
        match p.file with
        | none => "-e expression #".toList ++ Octets.ofNat index' ++ ", char ".toList ++ Octets.ofNat (f.position - start)
        | some name =>
          let line := 1 + ((p.text.take (f.position - start - 1)).filter (· == '\n')).length
          "file ".toList ++ name ++ " line ".toList ++ Octets.ofNat line
      else locate rest index' (start + p.text.length + 1)
  locate parts 0 0 ++ ": ".toList ++ f.message

def options : Options :=
  .of "nErsuz" "efl" [("quiet", 'n'), ("silent", 'n'), ("regexp-extended", 'E'), ("separate", 's'), ("unbuffered", 'u'),
    ("null-data", 'z'), ("expression", 'e'), ("file", 'f'), ("line-length", 'l'), ("posix", 'p'), ("debug", 'D'), ("sandbox", 'S')]

/-- Takes the option out that edits in place: its value follows it directly. -/
def inPlace? (args : List Octets) : Option Octets × List Octets :=
  let long := "--in-place".toList
  let found := args.findSome? fun a =>
    if a == long then some []
    else if (long ++ ['=']).isPrefixOf a then some (a.drop (long.length + 1))
    else match a with
      | '-' :: rest =>
        let flags := rest.takeWhile fun c => ['n', 'E', 'r', 's', 'u', 'z'].contains c
        match rest.drop flags.length with
        | 'i' :: suffix => some suffix
        | _ => none
      | _ => none
  let cleaned := args.filterMap fun a =>
    if long.isPrefixOf a then none
    else match a with
      | '-' :: rest =>
        let flags := rest.takeWhile fun c => ['n', 'E', 'r', 's', 'u', 'z'].contains c
        match rest.drop flags.length with
        | 'i' :: _ => if flags.isEmpty then none else some ('-' :: flags)
        | _ => some a
      | _ => some a
  (found, cleaned)

/-- The jumps whose labels are not there. -/
def lostJump? (cs : Array Command) : Option Octets :=
  cs.toList.findSome? fun c => match c.action with
    | .branch name | .branchIf name | .branchUnless name =>
      if !name.isEmpty && (labelPlace cs name).isNone then some name else none
    | _ => none

end Editor

open Process Tool Editor in
def sed : Body := fun args => do
  let (inPlace, args) := inPlace? args
  let (opts, operands) ← Editor.options.find args
  let has := Options.has opts
  let parts ← (opts.filter fun (c, _) => c = 'e' || c = 'f').mapM fun (c, value) => do
    if c = 'e' then return Editor.Part.mk none value
    match ← contents value with
    | .ok text => return Editor.Part.mk (some value) (if text.getLast? = some '\n' then text.dropLast else text)
    | .error e => fail 4 ("couldn't open file ".toList ++ because value e)
  let (parts, names) ← match parts, operands with
    | [], script :: names => pure ([Editor.Part.mk none script], names)
    | [], [] => usage 1
    | parts, names => pure (parts, names)
  let text := ['\n'].intercalate (parts.map Editor.Part.text)
  match script (has 'E' || has 'r') text with
  | .error f => fail 1 (faultText parts f)
  | .ok cs =>
    match lostJump? cs with
    | some name => fail 4 ("can't find label for jump to \x60".toList ++ name ++ ['\''])
    | none => pure ()
    let quiet := has 'n' || (text.take 2 == ['#', 'n'] && (text[2]?).all (· == '\n'))
    let writers ← (writtenFiles cs).filterMapM (fun name => do
      if name == "/dev/stdout".toList || name == "/dev/stderr".toList then return none
      match ← open_ name .writing with
      | .ok fd => return some (name, fd)
      | .error e => fail 4 ("couldn't open file ".toList ++ because name e) : Octets → Tool (Option (Octets × Nat)))
    let s : Settings := {
      quiet, separate := has 's', inPlace
      mark := if has 'z' then '\x00' else '\n'
      width := ((Options.last? opts 'l').bind Octets.decimal?).getD 70
      commands := cs }
    let start : Machine := {
      space := [], ended := true, held := [], heldEnded := true, line := 0, names := orInput names, current := none, ahead := none
      pending := [], ranges := [], closed := [], substituted := false, lastRegex := none, writers, sources := []
      missing := false, edited := [], failed := false }
    let _ ← (cycles s patience true).run start

end AlloyGrade.Utility
