import AlloyGrade.Time.Calendar
import AlloyGrade.Utility.Tree

/-! The utilities that show what is in the file system. -/

namespace AlloyGrade.Utility

open Process Tool

/-! ### Directories -/

def sizeOf_ : Entry → Nat
  | .file f => f.content.length
  | .dir => 4096
  | .link target => target.bytes.length
  | .fifo | .device _ => 0

/-- The mark that tells the kind of an entry. -/
def kindMark (all : Bool) : Entry → Octets
  | .dir => ['/']
  | .file f => if all && f.isExecutable then ['*'] else []
  | .link _ => if all then ['@'] else []
  | .fifo => if all then ['|'] else []
  | .device _ => []

def kindLetter : Entry → Char
  | .dir => 'd'
  | .file _ => '-'
  | .link _ => 'l'
  | .fifo => 'p'
  | .device _ => 'c'

/-- How many names the file at a location has. -/
def linkCount (fs : FileSystem) (loc : Location) : Entry → Nat
  | .file f =>
    if f.serial = 0 then 1
    else (fs.entries.filter fun (_, e) => match e with
      | .file g => g.serial = f.serial
      | _ => false).length
  | .dir => 2 + ((fs.names loc).filter fun n => fs.lookup (loc ++ [n]) == some .dir).length
  | _ => 1

def cEscaped (name : Octets) (blanks : Bool) : Octets :=
  name.flatMap fun c =>
    if c = '\\' then ['\\', '\\'] else if c = ' ' && blanks then ['\\', ' '] else if isPrintable c then [c] else escaped c

def lsOptions : Options :=
  { Options.of "aAbBcCdfFgGhHiklLmnNopqQrRsStuUvxXZ1" "ITw" [("all", 'a'), ("almost-all", 'A'), ("directory", 'd'), ("classify", 'F'),
      ("recursive", 'R'), ("reverse", 'r'), ("human-readable", 'h'), ("inode", 'i'), ("numeric-uid-gid", 'n'), ("size", 's'), ("escape", 'b'),
      ("literal", 'N'), ("quote-name", 'Q'), ("dereference", 'L'), ("no-group", 'G'), ("ignore-backups", 'B'),
      ("group-directories-first", '2'), ("full-time", '7'), ("file-type", '9'), ("kibibytes", 'k'), ("si", '0')] with misuse := 2 }

def lsAllOptions : Options :=
  { lsOptions with known := lsOptions.known ++ ([("color", '3'), ("sort", '4'), ("time-style", '5'), ("format", '6'), ("hide", 'H'), ("ignore", 'I'), ("width", 'w'), ("indicator-style", '!'),
      ("quoting-style", '@'), ("time", '^')].map
      fun (name, c) => ⟨c, name, true⟩) }

structure Row where
  name : Octets
  loc : Location
  entry : Entry

/-- How a name is shown. -/
def rowName (opts : List (Char × Octets)) (r : Row) : Octets :=
  let shown := if Options.has opts 'Q' then ['"'] ++ cEscaped r.name false ++ ['"']
    else if Options.has opts 'b' then cEscaped r.name true
    else r.name
  shown ++ if Options.has opts 'F' then kindMark true r.entry else if Options.has opts 'p' then kindMark false r.entry else []

/-- Rows in the order that is asked for. -/
def orderedRows (opts : List (Char × Octets)) (rows : List Row) : List Row :=
  let byName (a b : Row) : Bool := !Octets.lt b.name a.name
  let ext (n : Octets) : Octets := if n.contains '.' then (n.reverse.takeWhile (· ≠ '.')).reverse else []
  let sorted := if Options.has opts 'U' || Options.has opts 'f' then rows
    else if Options.has opts 'S' then rows.mergeSort fun a b => sizeOf_ b.entry < sizeOf_ a.entry || (sizeOf_ a.entry == sizeOf_ b.entry && byName a b)
    else if Options.has opts 't' then rows.mergeSort fun a b =>
      b.entry.modified < a.entry.modified || (a.entry.modified == b.entry.modified && byName a b)
    else if Options.has opts 'X' then rows.mergeSort fun a b => Octets.lt (ext a.name) (ext b.name) || (ext a.name == ext b.name && byName a b)
    else rows.mergeSort byName
  let sorted := if Options.has opts 'r' then sorted.reverse else sorted
  if Options.has opts '2' then sorted.filter (·.entry = .dir) ++ sorted.filter (·.entry ≠ .dir) else sorted

def leftFill (width : Nat) (text : Octets) : Octets := List.replicate (width - text.length) ' ' ++ text

/-- Half a year, in nanoseconds. -/
def halfYear : Int := 15778476000000000

/-- How the time of a file is shown; old and future ones without the time of day. -/
def rowTime (opts : List (Char × Octets)) (now moment : Int) : Octets :=
  let recent := moment ≤ now && now - halfYear < moment
  let format : Octets := if Options.has opts '7' then "%Y-%m-%d %H:%M:%S.%N %z".toList
    else match Options.last? opts '5' with
      | some ('+' :: f) => f
      | some f =>
        match String.ofList f with
        | "full-iso" => "%Y-%m-%d %H:%M:%S.%N %z".toList
        | "long-iso" => "%Y-%m-%d %H:%M".toList
        | "iso" => if recent then "%m-%d %H:%M".toList else "%Y-%m-%d ".toList
        | _ => if recent then "%b %e %H:%M".toList else "%b %e  %Y".toList
      | none => if recent then "%b %e %H:%M".toList else "%b %e  %Y".toList
  Calendar.format (format.length + 100) format moment

/-- A size in powers of 1024, with one digit behind the point where there is room. -/
def humanSize (n : Nat) : Octets :=
  let rec scaled : Nat → Nat → List Char → Octets
    | 0, n, _ => Octets.ofNat n
    | _, n, [] => Octets.ofNat n
    | fuel + 1, n, unit :: units =>
      -- Tenths of the unit, rounded up.
      let tenths := (n * 10 + 1023) / 1024
      if tenths < 100 then Octets.ofNat (tenths / 10) ++ '.' :: Octets.ofNat (tenths % 10) ++ [unit]
      else
        let whole := (n + 1023) / 1024
        if whole < 1024 then Octets.ofNat whole ++ [unit] else scaled fuel whole units
  if n < 1024 then Octets.ofNat n else scaled 6 n ['K', 'M', 'G', 'T', 'P']

/-- Long rows, with their columns brought to common widths. -/
def longRows (opts : List (Char × Octets)) (fs : FileSystem) (now : Int) (rows : List Row) : List Octets :=
  let owner : Octets := if Options.has opts 'n' then ['0'] else "root".toList
  let links (r : Row) : Octets := Octets.ofNat (linkCount fs r.loc r.entry)
  let size (r : Row) : Octets := if Options.has opts 'h' then humanSize (sizeOf_ r.entry) else Octets.ofNat (sizeOf_ r.entry)
  let widest (f : Row → Octets) : Nat := rows.foldl (fun n r => max n (f r).length) 0
  rows.map fun r =>
    let target := match r.entry with
      | .link t => " -> ".toList ++ Octets.ofPath t
      | _ => []
    [kindLetter r.entry] ++ modeLetters (modeOf r.entry) ++ [' '] ++ leftFill (widest links) (links r) ++ [' '] ++
      (if Options.has opts 'g' then [] else owner ++ [' ']) ++
      (if Options.has opts 'o' || Options.has opts 'G' then [] else owner ++ [' ']) ++
      leftFill (widest size) (size r) ++ [' '] ++ rowTime opts now r.entry.modified ++ [' '] ++ rowName opts r ++ target

def isLong (opts : List (Char × Octets)) : Bool := ['l', 'n', 'g', 'o', '7'].any (Options.has opts ·)

/-- The names side by side, filled by columns or by lines, in lines of at most 80 characters. -/
def columned (names : List Octets) (across : Bool) : List Octets :=
  let widths := names.map (·.length + 2)
  let fits (columns : Nat) : Option (Nat × List Nat) :=
    let rows := (names.length + columns - 1) / columns
    let column (i : Nat) : Nat := if across then i % columns else i / rows
    let ws := (List.range columns).map fun c => (widths.zipIdx.filter fun (_, i) => column i = c).foldl (fun n (w, _) => max n w) 0
    if ws.foldl (· + ·) 0 ≤ 81 || columns = 1 then some (rows, ws) else none
  match (List.range names.length).reverse.findSome? fun c => (fits (c + 1)).map ((c + 1, ·)) with
  | none => []
  | some (columns, rows, ws) =>
    (List.range rows).map fun r =>
      let items := (List.range columns).filterMap fun c => names[if across then r * columns + c else c * rows + r]?
      let starts := (List.range items.length).map fun c => (ws.take c).foldl (· + ·) 0
      (items.zip starts).foldl (fun (line : Octets) (item, start) => indent line.length start line ++ item) []
where
  /-- Goes on to a column with tabs where they fit. -/
  indent (start stop : Nat) (line : Octets) : Octets :=
    line ++ tabs (stop + 1) start stop
  tabs : Nat → Nat → Nat → Octets
    | 0, _, _ => []
    | fuel + 1, p, stop =>
      if stop ≤ p then []
      else if stop / 8 > (p + 1) / 8 then '\t' :: tabs fuel (p + 8 - p % 8) stop
      else ' ' :: tabs fuel (p + 1) stop

def showRows (opts : List (Char × Octets)) (rows : List Row) : Tool Unit := do
  let v ← view
  let rows := orderedRows opts rows
  let style := (opts.filterMap fun (c, _) => if ['l', 'n', 'g', 'o', 'm', 'x', 'C', '1'].contains c then some c else none).getLast?
  let named := rows.map (rowName opts)
  let marked := if Options.has opts 'i' then named.map ("1 ".toList ++ ·) else named
  match style with
  | some 'm' => unless marked.isEmpty do putLine (", ".toList.intercalate marked)
  | some 'x' => for line in columned marked true do putLine line
  | some 'C' => for line in columned marked false do putLine line
  | _ =>
    if isLong opts then for line in longRows opts v.fs v.now rows do putLine line
    else for line in marked do putLine line

/-- The rows of a directory. -/
def rowsOf (opts : List (Char × Octets)) (name : Octets) : Tool (List Row) := do
  let v ← view
  match v.fs.stat v.cwd (Octets.toPath name) with
  | .ok (loc, .dir) =>
    let names := (v.fs.names loc).map Octets.ofBytes
    let hidden := Options.has opts 'a' || Options.has opts 'A' || Options.has opts 'f'
    let names := names.filter fun n => hidden || n.head? ≠ some '.'
    let names := if Options.has opts 'B' then names.filter (·.getLast? ≠ some '~') else names
    let own := names.filterMap fun n =>
      let place := loc ++ [Octets.toBytes n]
      (v.fs.lookup place).map fun e =>
        let followed := match Options.has opts 'L', v.fs.stat [] place.path with
          | true, .ok (_, target) => target
          | _, _ => e
        Row.mk n place followed
    let dots := if Options.has opts 'a' || Options.has opts 'f' then [Row.mk ['.'] loc .dir, Row.mk ['.', '.'] loc.dropLast .dir] else []
    return dots ++ own
  | _ => return []

def totalLine (opts : List (Char × Octets)) (rows : List Row) : Tool Unit := do
  if isLong opts || Options.has opts 's' then
    let blocks (r : Row) : Nat := match r.entry with
      | .dir => 4
      | .file f => 4 * ((f.content.length + 4095) / 4096)
      | _ => 0
    putLine ("total ".toList ++ Octets.ofNat ((rows.map blocks).foldl (· + ·) 0))

def listDirs (opts : List (Char × Octets)) : Nat → Bool → Bool → List Octets → Tool Unit
  | 0, _, _, _ => return ()
  | _, _, _, [] => return ()
  | fuel + 1, titled, first, name :: rest => do
    unless first do put ['\n']
    if titled then putLine (name ++ [':'])
    let rows ← rowsOf opts name
    totalLine opts rows
    showRows opts rows
    let below := if Options.has opts 'R' then
        (orderedRows opts rows).filterMap fun r =>
          if r.entry = .dir && r.name != ['.'] && r.name != ['.', '.'] then some (within name r.name) else none
      else []
    listDirs opts fuel titled false (below ++ rest)

def ls : Body := fun args => do
  let args := args.map fun a => if a == "--color".toList then "--color=always".toList else a
  let (opts, names) ← lsAllOptions.find args
  let byWord : List (Char × Octets) := match Options.last? opts '4' with
    | some word => ([("none", 'U'), ("size", 'S'), ("time", 't'), ("extension", 'X'), ("version", 'v')].lookup (String.ofList word)).toList.map (·, [])
    | none => []
  let byFormat : List (Char × Octets) := match Options.last? opts '6' with
    | some word => ([("long", 'l'), ("verbose", 'l'), ("commas", 'm'), ("horizontal", 'x'), ("across", 'x'), ("vertical", 'C'),
        ("single-column", '1')].lookup (String.ofList word)).toList.map (·, [])
    | none => []
  let opts := opts ++ byWord ++ byFormat
  let given := if names.isEmpty then [['.']] else names
  let v ← view
  let follow := !Options.has opts 'd' && !isLong opts && !Options.has opts 'F'
  let rows ← given.filterMapM (fun name => do
    let found : Except IoError (Location × Entry) := match v.fs.find v.cwd true (Octets.toPath name), v.fs.find v.cwd false (Octets.toPath name) with
      | .ok (loc, e), .ok (linkLoc, l) => if follow || Options.has opts 'L' || name.getLast? = some '/' then .ok (loc, e) else .ok (linkLoc, l)
      | .error _, .ok (linkLoc, l) => .ok (linkLoc, l)
      | _, .error e => .error e
    match found with
    | .ok (loc, e) => return some (Row.mk name loc e)
    | .error e =>
      warn ("cannot access ".toList ++ because (nameQuoted name) (.ofError e))
      modify ({ · with failed := true })
      return none : Octets → Tool (Option Row))
  let isListed (r : Row) : Bool := r.entry = .dir && !Options.has opts 'd'
  let shown (r : Row) : Row := match v.fs.find v.cwd false (Octets.toPath r.name), Options.has opts 'L' with
    | .ok (loc, e), false => { r with loc, entry := e }
    | _, _ => r
  let files := rows.filter (!isListed ·)
  let dirs := orderedRows opts (rows.filter isListed)
  showRows opts (files.map shown)
  let titled := 1 < given.length || Options.has opts 'R'
  listDirs opts 100000 titled files.isEmpty (dirs.map (·.name))
  flush
  let s ← get
  match s.lost with
  | some e =>
    writeTo 2 (s.name ++ ": write error: ".toList ++ (Errno.text e).toList ++ ['\n'])
    fun _ _ => .exit 2
  | none => exit (if s.failed then 2 else 0)

/-! ### Single files -/

def kindName : Entry → String
  | .dir => "directory"
  | .file f => if f.content.isEmpty then "regular empty file" else "regular file"
  | .link _ => "symbolic link"
  | .fifo => "fifo"
  | .device _ => "character special file"

/-- The numbers of the kinds of entries in the system. -/
def kindBits : Entry → Nat
  | .dir => 0o040000
  | .file _ => 0o100000
  | .link _ => 0o120000
  | .fifo => 0o010000
  | .device _ => 0o020000

def statTime (moment : Int) : Octets := Calendar.format 100 "%Y-%m-%d %H:%M:%S.%N %z".toList moment

/-- One property of a file; `none` for a letter without a meaning. -/
def statPart (fs : FileSystem) (name : Octets) (loc : Location) (entry : Entry) (letter : Char) : Option Octets :=
  match letter with
  | 'n' => some name
  | 'N' => some (nameQuoted name ++ match entry with
    | .link t => " -> ".toList ++ nameQuoted (Octets.ofPath t)
    | _ => [])
  | 's' => some (Octets.ofNat (sizeOf_ entry))
  | 'F' => some (kindName entry).toList
  | 'f' => some (Nat.toDigits 16 (kindBits entry + modeOf entry))
  | 'a' => some (Nat.toDigits 8 (modeOf entry))
  | 'A' => some (kindLetter entry :: modeLetters (modeOf entry))
  | 'U' | 'G' => some "root".toList
  | 'u' | 'g' => some ['0']
  | 'h' => some (Octets.ofNat (linkCount fs loc entry))
  | 'b' => some (Octets.ofNat (8 * ((sizeOf_ entry + 4095) / 4096)))
  | 'B' => some "512".toList
  | 'o' => some "4096".toList
  | 't' | 'T' => some ['0']
  | 'm' => some ['/']
  | 'x' | 'y' | 'z' | 'w' => some (statTime entry.modified)
  | 'X' | 'Y' | 'Z' | 'W' => some (Octets.ofInt (entry.modified.fdiv 1000000000))
  | 'i' => some (Octets.ofNat (fs.entries.findIdx (·.1 == loc) + 1))
  | 'd' => some "65024".toList
  | 'D' => some "fe00".toList
  | 'C' => some ['?']
  | _ => none

/-- A format with the properties of a file filled in; parts may be brought to a width. -/
def statText (fs : FileSystem) (name : Octets) (loc : Location) (entry : Entry) : Nat → Octets → Octets
  | 0, cs => cs
  | fuel + 1, '%' :: rest =>
    let flags := rest.takeWhile fun c => ['-', '0', ' ', '+', '#', '\x27'].contains c
    let digits := (rest.drop flags.length).takeWhile Char.isDigit
    let more := rest.drop (flags.length + digits.length)
    let precision := match more with
      | '.' :: p => 1 + (p.takeWhile Char.isDigit).length
      | _ => 0
    match more.drop precision with
    | '%' :: after => '%' :: statText fs name loc entry fuel after
    | letter :: after =>
      let text := (statPart fs name loc entry letter).getD ['?']
      let missing := Octets.decimal digits - text.length
      (if flags.contains '-' then text ++ List.replicate missing ' '
        else if flags.contains '0' then List.replicate missing '0' ++ text
        else List.replicate missing ' ' ++ text) ++ statText fs name loc entry fuel after
    | [] => ['%']
  | fuel + 1, c :: rest => c :: statText fs name loc entry fuel rest
  | _ + 1, [] => []

/-- The escapes of a format that is written as it is. -/
def formatEscapes : Octets → Octets
  | '\\' :: 'n' :: rest => '\n' :: formatEscapes rest
  | '\\' :: 't' :: rest => '\t' :: formatEscapes rest
  | '\\' :: '0' :: rest => '\x00' :: formatEscapes rest
  | '\\' :: '\\' :: rest => '\\' :: formatEscapes rest
  | c :: rest => c :: formatEscapes rest
  | [] => []

def statOptions : Options :=
  .of "Lft" "cP" [("dereference", 'L'), ("format", 'c'), ("printf", 'P'), ("terse", 't'), ("file-system", 'f')]

def stat : Body := fun args => do
  let (opts, names) ← statOptions.find args
  if names.isEmpty then misuse 1 "missing operand".toList
  let v ← view
  for name in names do
    match ← lookUp (Options.has opts 'L') name with
    | .error e => wrong ("cannot statx ".toList ++ because (nameQuoted name) e)
    | .ok (loc, entry) =>
      match Options.last? opts 'P', Options.last? opts 'c' with
      | some format, _ => put (statText v.fs name loc entry (format.length + 1) (formatEscapes format))
      | none, some format => putLine (statText v.fs name loc entry (format.length + 1) format)
      | none, none =>
        let shown := match entry with
          | .link t => name ++ " -> ".toList ++ Octets.ofPath t
          | _ => name
        putLine ("  File: ".toList ++ shown)
        putLine (statText v.fs name loc entry 1000
          ("  Size: %-10s\tBlocks: %-10b IO Block: %-6o %F\nDevice: 254,0\tInode: %-10i  Links: %h\n" ++
            "Access: (%04a/%10.10A)  Uid: (%5u/%8U)   Gid: (%5g/%8G)\nAccess: %x\nModify: %y\nChange: %z\n Birth: %w").toList)

end AlloyGrade.Utility
