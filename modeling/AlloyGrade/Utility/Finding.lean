import AlloyGrade.Utility.Listing
import AlloyGrade.Utility.Running
import AlloyGrade.Utility.Search

/-! The search for files in trees: a test that is an expression of its own, and actions on what passes it. -/

namespace AlloyGrade.Utility

open Process Tool

/-- How a number is compared: above, below, or the same. -/
structure Compared where
  sign : Option Char
  n : Nat

def Compared.holds (c : Compared) (actual : Nat) : Bool :=
  match c.sign with
  | some '+' => c.n < actual
  | some '-' => actual < c.n
  | _ => actual = c.n

/-- Which permission bits are wanted: just these, all of these, or one of these. -/
inductive Wanted where
  | exactly (bits : Nat)
  | all (bits : Nat)
  | some_ (bits : Nat)

inductive Test where
  | name (pattern : Octets) (ignoreCase : Bool)
  | path (pattern : Octets) (ignoreCase : Bool)
  | target (pattern : Octets) (ignoreCase : Bool)
  | regex (r : Regex) (ignoreCase : Bool)
  | kind (letters : Octets)
  | empty
  | size (c : Compared) (unit : Nat)
  | links (c : Compared)
  | number (c : Compared)
  | permissions (wanted : Wanted)
  | allowed (bits : Nat)
  | after (moment : Int)
  /-- The age in units of so many nanoseconds, counted down or up to whole ones. -/
  | age (c : Compared) (unit : Int) (up : Bool)
  | same (loc : Location)
  | always (value : Bool)
  | print (file : Option Octets)
  | printZero (file : Option Octets)
  | printFormat (file : Option Octets) (format : Octets)
  | list
  | delete
  | prune
  | quit
  | exec (argv : List Octets) (batch inPlace : Bool)
  | not (t : Test)
  | and (a b : Test)
  | or (a b : Test)
  /-- Both are looked at, and the second one counts. -/
  | both (a b : Test)

namespace Test

/-- Whether some part of a test is of a kind. -/
def some_ (p : Test → Bool) : Test → Bool
  | .not t => t.some_ p
  | .and a b | .or a b | .both a b => a.some_ p || b.some_ p
  | t => p t

/-- Whether a test acts by itself, so that names are not printed otherwise. -/
def acts : Test → Bool :=
  some_ fun t => match t with
    | .print _ | .printZero _ | .printFormat .. | .list | .delete | .exec .. | .quit => true
    | _ => false

/-- Whether a test asks for what is below a directory to come first. -/
def deletes : Test → Bool :=
  some_ fun t => match t with
    | .delete => true
    | _ => false

/-- The command lines that collect names. -/
def batches : Test → List (List Octets)
  | .exec argv true _ => [argv]
  | .not t => t.batches
  | .and a b | .or a b | .both a b => a.batches ++ b.batches
  | _ => []

end Test

structure Finding where
  follow : Bool
  depthFirst : Bool
  least : Nat
  most : Option Nat
  /-- Which expressions describe paths: the extended ones, or the others. -/
  extended : Bool

/-- What the search for files remembers: the names for each collecting command line, and whether it is to stop. -/
structure Found where
  batched : List (List Octets × List Octets)
  stopped : Bool
  pruned : Bool

abbrev Walk := StateT Found Tool

/-- What a test sees: where the search began, the path, how deep it is, and what stands there. -/
structure Visit where
  start : Octets
  path : Octets
  loc : Location
  entry : Entry
  depth : Nat

def Visit.letter (entry : Entry) : Char := if kindLetter entry = '-' then 'f' else kindLetter entry

/-- The last part of the path; slashes behind what was named stay. -/
def Visit.last (v : Visit) : Octets :=
  let bare := lastPart v.path
  if bare == ['/'] then bare else bare ++ v.path.reverse.takeWhile (· == '/')

/-- The path below the start. -/
def Visit.below (v : Visit) : Octets :=
  if v.depth = 0 then [] else (v.path.drop v.start.length).dropWhile (· == '/')

/-- The directory part of the path. -/
def Visit.above (v : Visit) : Octets :=
  let rest := (v.path.reverse.dropWhile (· ≠ '/')).drop 1
  if v.path.contains '/' then (if rest.isEmpty then ['/'] else rest.reverse) else ['.']

/-! ### Formats -/

/-- A moment as a letter asks for it; seconds have ten digits behind the point. -/
def timePart (moment : Int) (letter : Char) : Octets :=
  let nanos := Octets.ofNat (moment.fmod 1000000000).toNat
  let fraction := '.' :: List.replicate (9 - nanos.length) '0' ++ nanos ++ ['0']
  let plain (format : String) : Octets := Calendar.format 100 format.toList moment
  match letter with
  | '@' => Octets.ofInt (moment.fdiv 1000000000) ++ fraction
  | '+' => plain "%Y-%m-%d+%H:%M:%S" ++ fraction
  | 'T' => plain "%H:%M:%S" ++ fraction
  | 'S' => plain "%S" ++ fraction
  | 'X' => plain "%H:%M:%S" ++ fraction
  | 'Q' => "%Q".toList
  | c => Calendar.format 100 ['%', c] moment

/-- One property; `none` for a letter without a meaning. -/
def findPart (v : Visit) (fs : FileSystem) (letter : Char) : Option Octets :=
  match letter with
  | 'p' => some v.path
  | 'P' => some v.below
  | 'f' => some v.last
  | 'h' => some v.above
  | 'H' => some v.start
  | 's' => some (Octets.ofNat (sizeOf_ v.entry))
  | 'd' => some (Octets.ofNat v.depth)
  | 'y' => some [Visit.letter v.entry]
  | 'Y' => some (match v.entry with
    | .link _ =>
      match fs.find v.loc.dropLast true (Octets.toPath v.last) with
      | .ok (_, entry) => [Visit.letter entry]
      | .error _ => ['N']
    | entry => [Visit.letter entry])
  | 'm' => some (Nat.toDigits 8 (modeOf v.entry))
  | 'M' => some (kindLetter v.entry :: modeLetters (modeOf v.entry))
  | 'n' => some (Octets.ofNat (linkCount fs v.loc v.entry))
  | 'u' | 'g' => some "root".toList
  | 'U' | 'G' => some ['0']
  | 'l' => some (match v.entry with
    | .link t => Octets.ofPath t
    | _ => [])
  | 'b' => some (Octets.ofNat (8 * ((sizeOf_ v.entry + 4095) / 4096)))
  | 'k' => some (Octets.ofNat (4 * ((sizeOf_ v.entry + 4095) / 4096)))
  | 'i' => some (Octets.ofNat (fs.entries.findIdx (·.1 == v.loc) + 1))
  | 't' | 'a' | 'c' =>
    some (Calendar.format 100 "%a %b %e %H:%M:%S".toList v.entry.modified ++ (timePart v.entry.modified 'S').drop 2 ++
      Calendar.format 10 " %Y".toList v.entry.modified)
  | _ => none

/-- A piece of a format, taken apart before the search begins. -/
inductive Piece where
  | text (t : Octets)
  | part (flags : Octets) (width : Nat) (letter : Char)
  | time (letter : Char)
  | stop

/-- Takes a format apart, and says what is odd about it. -/
def formatPieces : Nat → Octets → List Piece × List Octets
  | 0, _ => ([], [])
  | _ + 1, [] => ([], [])
  | fuel + 1, '\\' :: c :: rest =>
    let plain (t : Octets) (rest : Octets) : List Piece × List Octets :=
      let (ps, odd) := formatPieces fuel rest
      (.text t :: ps, odd)
    match c with
    | 'a' => plain ['\x07'] rest
    | 'b' => plain ['\x08'] rest
    | 'f' => plain ['\x0c'] rest
    | 'n' => plain ['\n'] rest
    | 'r' => plain ['\r'] rest
    | 't' => plain ['\t'] rest
    | 'v' => plain ['\x0b'] rest
    | '\\' => plain ['\\'] rest
    | 'c' => ([.stop], [])
    | c =>
      if '0' ≤ c && c ≤ '7' then
        let more := (rest.take 2).takeWhile fun d => '0' ≤ d && d ≤ '7'
        plain [Char.ofNat (Octets.octalNumber (c :: more) % 256)] (rest.drop more.length)
      else
        let (ps, odd) := formatPieces fuel rest
        (.text ['\\', c] :: ps, ("warning: unrecognized escape \x60\\".toList ++ [c, '\'']) :: odd)
  | fuel + 1, '%' :: rest =>
    let flags := rest.takeWhile fun c => ['-', '+', ' ', '#', '0'].contains c
    let digits := (rest.drop flags.length).takeWhile fun c => c.isDigit || c = '.'
    match rest.drop (flags.length + digits.length) with
    | [] => ([.stop], [])
    | '%' :: after =>
      let (ps, odd) := formatPieces fuel after
      (.text ['%'] :: ps, odd)
    | [c] =>
      if ['T', 'A', 'C', 'B'].contains c then
        ([.text ['%', c]], ["warning: format directive \x60%".toList ++ [c] ++ "' should be followed by another character".toList])
      else
        let (p, odd) := one flags digits c
        ([p], odd)
    | c :: k :: after =>
      if ['T', 'A', 'C', 'B'].contains c then
        let (ps, odd) := formatPieces fuel after
        (.time k :: ps, odd)
      else
        let (p, odd) := one flags digits c
        let (ps, more) := formatPieces fuel (k :: after)
        (p :: ps, odd ++ more)
  | fuel + 1, c :: rest =>
    let (ps, odd) := formatPieces fuel rest
    (.text [c] :: ps, odd)
where
  one (flags digits : Octets) (c : Char) : Piece × List Octets :=
    if "pPfhHsdyYmMnuUgGlbkitac".toList.contains c then (.part flags (Octets.decimal (digits.takeWhile Char.isDigit)) c, [])
    else (.text ('%' :: flags ++ digits ++ [c]), ["warning: unrecognized format directive \x60%".toList ++ [c, '\'']])

def Piece.shown (v : Visit) (fs : FileSystem) : Piece → Octets
  | .text t => t
  | .part flags width letter =>
    let text := (findPart v fs letter).getD []
    let missing := width - text.length
    if flags.contains '-' then text ++ List.replicate missing ' '
    else if flags.contains '0' && "mUGsnd".toList.contains letter then List.replicate missing '0' ++ text
    else List.replicate missing ' ' ++ text
  | .time letter => timePart v.entry.modified letter
  | .stop => []

def findText (v : Visit) (fs : FileSystem) (format : Octets) : Octets :=
  (formatPieces (format.length + 1) format).1.flatMap (Piece.shown v fs)

/-- A row of a listing, with numbers at the front. -/
def findRow (v : Visit) (fs : FileSystem) (now : Int) : Octets :=
  let right (n : Nat) (t : Octets) : Octets := List.replicate (n - t.length) ' ' ++ t
  let left (n : Nat) (t : Octets) : Octets := t ++ List.replicate (n - t.length) ' '
  let part (c : Char) : Octets := (findPart v fs c).getD []
  let target := match v.entry with
    | .link t => " -> ".toList ++ Octets.ofPath t
    | _ => []
  right 9 (part 'i') ++ [' '] ++ right 6 (part 'k') ++ [' '] ++ part 'M' ++ [' '] ++ right 3 (part 'n') ++ [' '] ++
    left 8 (part 'u') ++ [' '] ++ left 8 (part 'g') ++ [' '] ++ right 8 (part 's') ++ [' '] ++
    rowTime [] now v.entry.modified ++ [' '] ++ v.path ++ target

/-! ### Looking at one file -/

/-- Puts the path in the place of each pair of braces. -/
def withPath (path : Octets) (argv : List Octets) : List Octets :=
  argv.map fun word => replacedBraces path word
where
  replacedBraces (path : Octets) : Octets → Octets
    | '\x7b' :: '\x7d' :: rest => path ++ replacedBraces path rest
    | c :: rest => c :: replacedBraces path rest
    | [] => []

/-- Runs a program, in another directory if one is given. -/
def runThere (dir : Option Octets) (argv : List Octets) : Tool Death := do
  let environment := (← get).environment
  match dir with
  | none => runNamed nameQuoted argv environment
  | some dir =>
    flush
    let pid ← spawn do
      let _ ← ask (.chdir (Octets.toPath dir))
      match ← runNamed nameQuoted argv environment with
      | .exited n => exit n
      | _ => exit 1
    match ← await (some pid) patience with
    | .ended _ death => return death
    | _ => return .exited 127

/-- Adds a text to a file, or to the output. -/
def putInto (file : Option Octets) (text : Octets) : Tool Unit := do
  match file with
  | none => put text
  | some name =>
    flush
    match ← ask (.open_ (Octets.toPath name) ⟨false, true, true, true, false, false⟩ 0o666) with
    | .ok fd =>
      writeTo fd text
      close fd
    | .error e => wrong (because (nameQuoted name) e)

def lowered (ignoreCase : Bool) (t : Octets) : Octets := if ignoreCase then t.map Char.toLower else t

def fitsName (ignoreCase : Bool) (pattern name : Octets) : Bool :=
  Search.nameFits (lowered ignoreCase pattern) (lowered ignoreCase name)

def holds (v : Visit) : Test → Walk Bool
  | .name pattern ignoreCase => return fitsName ignoreCase pattern (lastPart v.path)
  | .path pattern ignoreCase => return fitsName ignoreCase pattern v.path
  | .target pattern ignoreCase => return match v.entry with
    | .link t => fitsName ignoreCase pattern (Octets.ofPath t)
    | _ => false
  | .regex r ignoreCase => return (Regex.seq (.seq .textStart r) .textEnd |>.longest? ⟨ignoreCase, false⟩ v.path.toArray 0).isSome
  | .kind letters => return letters.contains (Visit.letter v.entry)
  | .empty => do
    match v.entry with
    | .dir => return (← childrenOf v.path).isEmpty
    | .file f => return f.content.isEmpty
    | _ => return false
  | .size c unit => return c.holds ((sizeOf_ v.entry + unit - 1) / unit)
  | .links c => do
    let fs := (← (view : Tool _)).fs
    return c.holds (linkCount fs v.loc v.entry)
  | .number c => return c.holds 0
  | .permissions wanted => return match wanted with
    | .exactly m => modeOf v.entry = m
    | .all m => modeOf v.entry &&& m = m
    | .some_ m => m = 0 || modeOf v.entry &&& m ≠ 0
  | .allowed bits => return bits = 0 || v.entry = .dir || modeOf v.entry &&& bits ≠ 0
  | .after moment => return moment < v.entry.modified
  | .age c unit up => do
    let now := (← (view : Tool _)).now
    let old := now - v.entry.modified
    return match up, c.sign with
    | true, some '+' => (c.n : Int) * unit < old
    | true, some '-' => old < (c.n : Int) * unit
    | true, _ => ((c.n : Int) - 1) * unit < old && old ≤ (c.n : Int) * unit
    | false, _ => c.holds (old.fdiv unit).toNat
  | .same loc => return v.loc == loc
  | .always value => return value
  | .print file => do
    putInto file (v.path ++ ['\n'])
    return true
  | .printZero file => do
    putInto file (v.path ++ ['\x00'])
    return true
  | .printFormat file format => do
    let fs := (← (view : Tool _)).fs
    putInto file (findText v fs format)
    return true
  | .list => do
    let now ← (view : Tool _)
    putLine (findRow v now.fs now.now)
    return true
  | .delete => do
    if v.path == ['.'] then return true
    let r ← if v.entry = .dir then edit fun cwd fs => fs.removeDir cwd (Octets.toPath v.path)
      else edit fun cwd fs => fs.unlink cwd (Octets.toPath v.path)
    match r with
    | .ok () => return true
    | .error e =>
      wrong ("cannot delete ".toList ++ because (nameQuoted v.path) e)
      return false
  | .prune => do
    modify ({ · with pruned := true })
    return true
  | .quit => do
    modify ({ · with stopped := true })
    return true
  | .exec argv batch inPlace => do
    if batch then
      modify fun s => { s with batched := s.batched.map fun (a, names) => if a == argv then (a, names ++ [v.path]) else (a, names) }
      return true
    else
      let death ← if inPlace then runThere (some v.above) (withPath ("./".toList ++ lastPart v.path) argv)
        else runThere none (withPath v.path argv)
      return death = .exited 0
  | .not t => do return !(← holds v t)
  | .and a b => do if ← holds v a then holds v b else return false
  | .or a b => do if ← holds v a then return true else holds v b
  | .both a b => do
    let _ ← holds v a
    holds v b

/-- Looks at a path and at what is below it. -/
def walk (f : Finding) (test : Test) (start : Octets) : Nat → Octets → Nat → Walk Unit
  | 0, _, _ => return ()
  | fuel + 1, path, depth => do
    if (← get).stopped then return ()
    match ← (lookUp f.follow path : Tool _) with
    | .error e =>
      match ← (lookUp false path : Tool _) with
      | .ok (loc, entry) => visit ⟨start, path, loc, entry, depth⟩
      | .error _ => wrong (because (nameQuoted path) e)
    | .ok (loc, entry) =>
      let here : Visit := ⟨start, path, loc, entry, depth⟩
      unless f.depthFirst do visit here
      let pruned := (← get).pruned
      modify ({ · with pruned := false })
      if entry = .dir && f.most.all (depth < ·) && (!pruned || f.depthFirst) then
        for child in ← childrenOf path do walk f test start fuel (within path child) (depth + 1)
      if f.depthFirst then visit here
where
  /-- Applies the test where it counts. -/
  visit (v : Visit) : Walk Unit := do
    if f.least ≤ v.depth then
      unless (← get).stopped do
        let _ ← holds v test

/-! ### Reading tests -/

/-- The rest of the arguments, and the settings on the way. -/
structure Reading where
  rest : List Octets
  finding : Finding
  /-- The last test that was read. -/
  before : Octets

abbrev ReadTest := StateT Reading Tool

def argument (name : Octets) : ReadTest Octets := do
  match (← get).rest with
  | a :: rest =>
    modify ({ · with rest })
    return a
  | [] => fail 1 ("missing argument to \x60".toList ++ name ++ ['\''])

def positive (name : Octets) : ReadTest Nat := do
  let text ← argument name
  match Octets.decimal? text with
  | some n => return n
  | none => fail 1 ("Expected a positive decimal integer argument to ".toList ++ name ++ ", but got ".toList ++ textQuoted text)

/-- The command of an action up to its end. -/
def commandLine (name : Octets) : ReadTest (List Octets × Bool) := do
  let rest := (← get).rest
  let isEnd (i : Nat) : Bool := rest[i]? == some [';'] || (rest[i]? == some ['+'] && i ≠ 0 && rest[i - 1]? == some ['\x7b', '\x7d'])
  match (List.range rest.length).find? isEnd with
  | none => fail 1 ("missing argument to \x60".toList ++ name ++ ['\''])
  | some i =>
    modify ({ · with rest := rest.drop (i + 1) })
    let batch := rest[i]? == some ['+']
    return (if batch then (rest.take i).dropLast else rest.take i, batch)

def signed (text : Octets) : Option Char × Octets :=
  match text with
  | '+' :: r => (some '+', r)
  | '-' :: r => (some '-', r)
  | r => (none, r)

def comparedNumber (name : Octets) : ReadTest Compared := do
  let text ← argument name
  let (sign, body) := signed text
  match Octets.decimal? body with
  | some n => return ⟨sign, n⟩
  | none => fail 1 ("invalid argument \x60".toList ++ text ++ "' to \x60".toList ++ name ++ ['\''])

def sizeTest (text : Octets) : ReadTest Test := do
  let (sign, body) := signed text
  let ds := body.takeWhile Char.isDigit
  let tail := body.drop ds.length
  let unit ← match tail with
    | [] | ['b'] => pure 512
    | ['c'] => pure 1
    | ['w'] => pure 2
    | ['k'] => pure 1024
    | ['M'] => pure 1048576
    | ['G'] => pure 1073741824
    | _ =>
      let last := body.getLast?.toList
      if ['b', 'c', 'w', 'k', 'M', 'G'].any (last.contains ·) then
        fail 1 ("Invalid argument \x60".toList ++ text ++ "' to -size".toList)
      else fail 1 ("invalid -size type \x60".toList ++ last ++ ['\''])
  if ds.isEmpty then fail 1 ("Invalid argument \x60".toList ++ text ++ "' to -size".toList)
  return .size ⟨sign, Octets.decimal ds⟩ unit

def permissionTest (text : Octets) : ReadTest Test := do
  let (kind, body) : (Nat → Wanted) × Octets := match text with
    | '-' :: r => (.all, r)
    | '/' :: r => (.some_, r)
    | r => (.exactly, r)
  match Permissions.octal? body, Permissions.symbolic? body with
  | some bits, _ => return .permissions (kind bits)
  | none, some changes => return .permissions (kind (Permissions.applyAll 0 false 0 changes))
  | none, none => fail 1 ("invalid mode ".toList ++ textQuoted text)

/-- Exchanges what stands behind a backslash and what stands alone, for the signs of repetition. -/
def pathExpression : Octets → Octets
  | '\\' :: '+' :: rest => ['[', '+', ']'] ++ pathExpression rest
  | '\\' :: '?' :: rest => ['[', '?', ']'] ++ pathExpression rest
  | '\\' :: c :: rest => '\\' :: c :: pathExpression rest
  | '+' :: rest => '\\' :: '+' :: pathExpression rest
  | '?' :: rest => '\\' :: '?' :: pathExpression rest
  | '[' :: rest => '[' :: pathExpression rest
  | c :: rest => c :: pathExpression rest
  | [] => []

def regexTest (text : Octets) (ignoreCase : Bool) : ReadTest Test := do
  let extended := (← get).finding.extended
  match Regex.ofOctets ⟨extended, false, false⟩ (if extended then text else pathExpression text) with
  | .ok (r, _, _) => return .regex r ignoreCase
  | .error e =>
    fail 1 ("failed to compile regular expression ".toList ++ textQuoted text ++ ": ".toList ++
      (if e = .unmatchedBracket then "Invalid regular expression" else e.message).toList)

def kindTest (text : Octets) : ReadTest Test := do
  let letters := Octets.splitOn ',' text
  match text.filter fun c => c ≠ ',' && !(['f', 'd', 'l', 'p', 'c', 'b', 's', 'D'].contains c) with
  | c :: _ => fail 1 ("Unknown argument to -type: ".toList ++ [c])
  | [] =>
    if letters.any (1 < ·.length) then fail 1 "Must separate multiple arguments to -type using: ','".toList
    else if letters.getLast? == some [] then fail 1 "Last file type in list argument to -type is missing, i.e., list is ending on: ','".toList
    else return .kind letters.flatten

/-- The file that an action writes to, begun anew. -/
def written (name : Octets) : ReadTest Octets := do
  let file ← argument name
  match ← ask (.open_ (Octets.toPath file) ⟨false, true, false, true, true, false⟩ 0o666) with
  | .ok fd =>
    close fd
    return file
  | .error e => fail 1 (because (nameQuoted file) e)

/-- Warns about a format before the search begins. -/
def formatted (name : Octets) : ReadTest Octets := do
  let format ← argument name
  let open_ := (format.reverse.takeWhile (· == '%')).length
  if open_ % 2 = 1 then fail 1 "error: % at end of format string".toList
  for message in (formatPieces (format.length + 1) format).2 do warn message
  return format

/-- When a file was last changed. -/
def changedAt (name : Octets) : ReadTest (Location × Int) := do
  let file ← argument name
  match ← lookUp true file with
  | .ok (loc, entry) => return (loc, entry.modified)
  | .error e => fail 1 (because (nameQuoted file) e)

def day : Int := 86400000000000

def minute : Int := 60000000000

def isOr (a : Octets) : Bool := a == "-o".toList || a == "-or".toList

def isAnd (a : Octets) : Bool := a == "-a".toList || a == "-and".toList

/-- Whether an argument belongs to an expression, at the start or later. -/
def looksLikeTest (atStart : Bool) : Octets → Bool
  | ['-'] => false
  | '-' :: _ => true
  | ['('] | ['!'] => true
  | [')'] | [','] => !atStart
  | _ => false

mutual

/-- Tests with commas between them. -/
def listOf : Nat → ReadTest Test
  | 0 => return .always true
  | fuel + 1 => do
    let a ← disjunctionOf fuel
    match (← get).rest with
    | [','] :: rest =>
      modify ({ · with rest })
      if rest.isEmpty then fail 1 "expected an expression after ','".toList
      return .both a (← listOf fuel)
    | _ => return a

def disjunctionOf : Nat → ReadTest Test
  | 0 => return .always true
  | fuel + 1 => do
    let a ← conjunctionOf fuel
    match (← get).rest with
    | o :: rest =>
      if isOr o then
        modify ({ · with rest })
        if rest.isEmpty then fail 1 ("expected an expression after ".toList ++ textQuoted o)
        return .or a (← disjunctionOf fuel)
      else return a
    | [] => return a

def conjunctionOf : Nat → ReadTest Test
  | 0 => return .always true
  | fuel + 1 => do
    let a ← primaryOf fuel
    match (← get).rest with
    | [] => return a
    | o :: rest =>
      if isAnd o then
        modify ({ · with rest })
        if rest.isEmpty then fail 1 ("expected an expression after ".toList ++ textQuoted o)
        return .and a (← conjunctionOf fuel)
      else if isOr o || o == [')'] || o == [','] then return a
      else return .and a (← conjunctionOf fuel)

def primaryOf : Nat → ReadTest Test
  | 0 => return .always true
  | fuel + 1 => do
    let setting (f : Finding → Finding) : ReadTest Test := do
      modify fun s => { s with finding := f s.finding }
      return .always true
    match (← get).rest with
    | [] => return .always true
    | a :: rest =>
      let before := (← get).before
      modify ({ · with rest, before := a })
      if isOr a || isAnd a || a == [','] then
        fail 1 ("invalid expression; you have used a binary operator ".toList ++ textQuoted a ++ " with nothing before it.".toList)
      match String.ofList a with
      | "(" =>
        if rest.isEmpty then
          fail 1 ("invalid expression; expected to find a ')' but didn't see one. " ++
            "Perhaps you need an extra predicate after '('").toList
        if rest.head? == some [')'] then fail 1 "invalid expression; empty parentheses are not allowed.".toList
        let t ← listOf fuel
        match (← get).rest with
        | [')'] :: rest =>
          modify ({ · with rest })
          return t
        | _ => fail 1 "invalid expression; I was expecting to find a ')' somewhere but did not see one.".toList
      | ")" => fail 1 "invalid expression; you have too many ')'".toList
      | "!" | "-not" =>
        if rest.isEmpty then fail 1 ("expected an expression after ".toList ++ textQuoted a)
        return .not (← primaryOf fuel)
      | "-name" => return .name (← argument a) false
      | "-iname" => return .name (← argument a) true
      | "-path" | "-wholename" => return .path (← argument a) false
      | "-ipath" | "-iwholename" => return .path (← argument a) true
      | "-lname" => return .target (← argument a) false
      | "-ilname" => return .target (← argument a) true
      | "-regex" => regexTest (← argument a) false
      | "-iregex" => regexTest (← argument a) true
      | "-regextype" =>
        let kind ← argument a
        let extended := ["posix-extended", "egrep", "posix-egrep", "posix-awk", "awk", "gnu-awk"].any (·.toList == kind)
        setting ({ · with extended })
      | "-type" => kindTest (← argument a)
      | "-empty" => return .empty
      | "-size" => sizeTest (← argument a)
      | "-links" => return .links (← comparedNumber a)
      | "-uid" | "-gid" => return .number (← comparedNumber a)
      | "-user" | "-group" =>
        let who ← argument a
        if who == "root".toList || who == ['0'] then return .always true
        else if (Octets.decimal? who).isSome then return .always false
        else fail 1 (textQuoted who ++ (if a == "-user".toList then " is not the name of a known user"
          else " is not the name of an existing group").toList)
      | "-nouser" | "-nogroup" => return .always false
      | "-perm" => permissionTest (← argument a)
      | "-readable" | "-writable" => return .allowed 0
      | "-executable" => return .allowed 0o111
      | "-newer" | "-anewer" | "-cnewer" | "-newermm" => return .after (← changedAt a).2
      | "-newermt" =>
        let text ← argument a
        let now := (← (view : Tool _)).now
        match Calendar.moment? now text with
        | some moment => return .after moment
        | none => fail 1 ("I cannot figure out how to interpret ".toList ++ textQuoted text ++ " as a date or time".toList)
      | "-mtime" | "-atime" | "-ctime" => return .age (← comparedNumber a) day false
      | "-mmin" | "-amin" | "-cmin" => return .age (← comparedNumber a) minute true
      | "-samefile" => return .same (← changedAt a).1
      | "-true" => return .always true
      | "-false" => return .always false
      | "-print" => return .print none
      | "-print0" => return .printZero none
      | "-fprint" => return .print (some (← written a))
      | "-fprint0" => return .printZero (some (← written a))
      | "-printf" => return .printFormat none (← formatted a)
      | "-fprintf" =>
        let file ← written a
        return .printFormat (some file) (← formatted a)
      | "-ls" => return .list
      | "-delete" => return .delete
      | "-prune" => return .prune
      | "-quit" => return .quit
      | "-exec" | "-execdir" =>
        let (argv, batch) ← commandLine a
        return .exec argv batch (a == "-execdir".toList)
      | "-depth" | "-d" => setting ({ · with depthFirst := true })
      | "-follow" => setting ({ · with follow := true })
      | "-maxdepth" =>
        let n ← positive a
        setting ({ · with most := some n })
      | "-mindepth" =>
        let n ← positive a
        setting ({ · with least := n })
      | "-mount" | "-xdev" | "-noleaf" | "-daystart" | "-warn" | "-nowarn" | "-ignore_readdir_race" => return .always true
      | _ =>
        if a.head? = some '-' then
          fail 1 ((if "-newer".toList.isPrefixOf a then "invalid predicate \x60" else "unknown predicate \x60").toList ++ a ++ ['\''])
        warn ("paths must precede expression: \x60".toList ++ a ++ ['\''])
        if let .ok _ ← (lookUp true a : Tool _) then
          warn ("possible unquoted pattern after predicate \x60".toList ++ before ++ "'?".toList)
        exit 1

end

def find : Body := fun args => do
  let isLeading (a : Octets) : Bool := ["-L", "-P", "-H"].any (·.toList == a) || "-O".toList.isPrefixOf a
  let leading := args.takeWhile isLeading
  let follow := (leading.filter (·.length = 2)).getLast? == some "-L".toList
  let args := args.drop leading.length
  let paths := args.takeWhile fun a => !looksLikeTest true a
  let rest := args.drop paths.length
  let (test, s) ← (do
    if rest.isEmpty then return .always true
    let t ← listOf (4 * rest.length + 4)
    match (← get).rest with
    | [] => return t
    | _ => fail 1 "invalid expression; you have too many ')'".toList : ReadTest Test).run ⟨rest, ⟨follow, false, 0, none, false⟩, []⟩
  let finding := if test.deletes then { s.finding with depthFirst := true } else s.finding
  let test := if test.acts then test else .and test (.print none)
  let start : Found := ⟨test.batches.map (·, []), false, false⟩
  let (_, found) ← (do
    for path in if paths.isEmpty then [['.']] else paths do walk finding test path 1000 path 0 : Walk Unit).run start
  for (argv, names) in found.batched do
    unless names.isEmpty do
      let death ← runNamed nameQuoted (argv ++ names) (← get).environment
      unless death = .exited 0 do modify ({ · with failed := true })

end AlloyGrade.Utility
