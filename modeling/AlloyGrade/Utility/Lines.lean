import AlloyGrade.Utility.Cat
import AlloyGrade.Utility.Input

/-! The utilities that take, count, number, join and divide lines. -/

namespace AlloyGrade.Utility

open Process Tool

/-! ### The first and the last part -/

/-- How much is wanted: from which end it is counted, and whether in lines. -/
structure Portion where
  lines : Bool
  size : Nat
  /-- All but so much of the other end, or from so much on. -/
  opposite : Bool

/-- Turns the old form of a count, such as `-5`, into an option. -/
def modernised (letterFor : Octets → Option (List Octets)) : List Octets → List Octets
  | [] => []
  | a :: rest => match letterFor a with
    | some new => new ++ rest
    | none => a :: rest

def headCopy (mark : Char) : Nat → Nat → Source → Tool (Except Errno Source)
  | 0, _, s => return .ok s
  | _, 0, s => return .ok s
  | fuel + 1, n + 1, s => do
    match ← s.nextLine mark patience with
    | .error e => return .error e
    | .ok (none, s) => return .ok s
    | .ok (some (line, ended), s) =>
      put (line ++ if ended then [mark] else [])
      headCopy mark fuel n s

def headOctets : Nat → Nat → Nat → Tool (Except Errno Unit)
  | 0, _, _ => return .ok ()
  | fuel + 1, n, fd => do
    if n = 0 then return .ok ()
    match ← ask (.read fd (min n 65536)) with
    | .error e => return .error e
    | .ok [] => return .ok ()
    | .ok piece =>
      put piece
      headOctets fuel (n - piece.length) fd

/-- The title of a file among several. -/
def title (first : Bool) (name : Octets) : Octets :=
  (if first then [] else ['\n']) ++ "==> ".toList ++ (if name == ['-'] then "standard input".toList else name) ++
    " <==\n".toList

def headOf (p : Portion) (mark : Char) (fd : Nat) : Tool (Except Errno Unit) := do
  if p.opposite then
    match ← readAll fd with
    | .error e => return .error e
    | .ok text =>
      if p.lines then
        let ls := pieces mark text
        let kept := ls.take (ls.length - p.size)
        put (kept.flatMap (· ++ [mark]))
      else put (text.take (text.length - p.size))
      return .ok ()
  else if p.lines then
    match ← headCopy mark patience p.size (.ofFd fd) with
    | .error e => return .error e
    | .ok s =>
      s.giveBack
      return .ok ()
  else headOctets patience p.size fd

def headOptions : Options :=
  .of "qvz" "nc" [("lines", 'n'), ("bytes", 'c'), ("quiet", 'q'), ("silent", 'q'), ("verbose", 'v'), ("zero-terminated", 'z')]

/-- The portion that the options ask for. -/
def portion (opts : List (Char × Octets)) (signs : List Char) : Tool Portion := do
  match (opts.filter fun (c, _) => c = 'n' || c = 'c').getLast? with
  | none => return ⟨true, 10, false⟩
  | some (c, text) =>
    let opposite := text.head?.any (some · == signs.head?)
    let digits := if text.head?.any (['+', '-'].contains ·) then text.drop 1 else text
    match count? digits with
    | some n => return ⟨c = 'n', n, opposite⟩
    | none =>
      fail 1 ("invalid number of ".toList ++ (if c = 'n' then "lines: " else "bytes: ").toList ++ textQuoted text)

/-- Shows a part of each file, with titles among several. -/
def showParts (opts : List (Char × Octets)) (names : List Octets) (show_ : Nat → Tool (Except Errno Unit)) : Tool Unit := do
  let names := orInput names
  let titles := Options.has opts 'v' || (1 < names.length && !Options.has opts 'q')
  let _ ← names.foldlM (fun (isFirst : Bool) name => do
    match ← openInput name with
    | .error e =>
      wrong ("cannot open ".toList ++ nameQuoted name ++ " for reading: ".toList ++ (Errno.text e).toList)
      return isFirst
    | .ok fd =>
      if titles then put (title isFirst name)
      match ← show_ fd with
      | .ok () => pure ()
      | .error e => wrong ("error reading ".toList ++ because (nameQuoted name) e)
      closeInput name fd
      return false) true

def head : Body := fun args => do
  let old (a : Octets) : Option (List Octets) := match a with
    | '-' :: ds => if !ds.isEmpty && ds.all Char.isDigit then some [['-', 'n'], ds] else none
    | _ => none
  let (opts, names) ← headOptions.find (modernised old args)
  let p ← portion opts ['-']
  let mark := if Options.has opts 'z' then '\x00' else '\n'
  showParts opts names (headOf p mark)

def tailOf (p : Portion) (mark : Char) (fd : Nat) : Tool (Except Errno Unit) := do
  match ← readAll fd with
  | .error e => return .error e
  | .ok text =>
    if p.lines then
      let ls := pieces mark text
      let skipped := if p.opposite then p.size - 1 else ls.length - p.size
      put (text.drop (((ls.take skipped).map (·.length + 1)).foldl (· + ·) 0))
    else put (text.drop (if p.opposite then p.size - 1 else text.length - p.size))
    return .ok ()

def tailOptions : Options :=
  .of "fFqvz" "ncs" [("lines", 'n'), ("bytes", 'c'), ("quiet", 'q'), ("silent", 'q'), ("verbose", 'v'), ("zero-terminated", 'z'),
    ("follow", 'f'), ("sleep-interval", 's'), ("pid", 'p')]

def tail : Body := fun args => do
  let old (a : Octets) : Option (List Octets) := match a with
    | '-' :: ds => if !ds.isEmpty && ds.all Char.isDigit then some [['-', 'n'], ds] else none
    | '+' :: ds => if !ds.isEmpty && ds.all Char.isDigit then some [['-', 'n'], a] else none
    | _ => none
  let (opts, names) ← tailOptions.find (modernised old args)
  match args with
  | ('-' :: d :: _) :: _ =>
    if d.isDigit && 1 < names.length then fail 1 ("option used in invalid context -- ".toList ++ [d])
  | _ => pure ()
  let p ← portion opts ['+']
  let mark := if Options.has opts 'z' then '\x00' else '\n'
  showParts opts names (tailOf p mark)
  if Options.has opts 'f' then
    let _ ← ask (.sleep (Nat.pow 10 18))

/-! ### Counts -/

structure Counts where
  lines : Nat
  words : Nat
  chars : Nat
  longest : Nat

namespace Counts

def isSpace (c : Char) : Bool := c = ' ' || (9 ≤ c.toNat && c.toNat ≤ 13)

/-- Counts one octet after the other: the counts so far, the column, and whether a word goes on. -/
def step (s : Counts × Nat × Bool) (c : Char) : Counts × Nat × Bool :=
  let (n, column, inWord) := s
  let column' :=
    if c = '\n' || c = '\r' || c = '\x0c' then 0
    else if c = '\t' then column + 8 - column % 8
    else if isPrintable c then column + 1
    else column
  let n := { n with
    lines := n.lines + if c = '\n' then 1 else 0
    chars := n.chars + 1
    words := n.words + if !inWord && !isSpace c then 1 else 0
    longest := max n.longest (max column column') }
  (n, column', !isSpace c)

def ofText (text : Octets) : Counts := (text.foldl step (⟨0, 0, 0, 0⟩, 0, false)).1

def add (a b : Counts) : Counts := ⟨a.lines + b.lines, a.words + b.words, a.chars + b.chars, max a.longest b.longest⟩

/-- The counts that are asked for, each brought to a width. -/
def shown (n : Counts) (wanted : List Char) (width : Nat) : Octets :=
  let all : List (Char × Nat) := [('l', n.lines), ('w', n.words), ('m', n.chars), ('c', n.chars), ('L', n.longest)]
  let texts := (all.filter fun (c, _) => wanted.contains c).map fun (_, v) =>
    let ds := Octets.ofNat v
    List.replicate (width - ds.length) ' ' ++ ds
  [' '].intercalate texts

end Counts

/-- The width of counts: enough for the sizes of all files, and more where a size cannot be known. -/
def countWidth (v : View) (names : List Octets) (single : Bool) : Nat :=
  if single then 1
  else
    let sizes : List (Option (Option Nat)) := names.map fun name =>
      let entry : Option Entry := if name == ['-'] then
          match v.handles.lookup 0 with
          | some (.entry _ e) => some e
          | some .pipe => some .fifo
          | _ => none
        else (v.fs.stat v.cwd (Octets.toPath name)).toOption.map (·.2)
      entry.map fun e => match e with
        | .file f => some f.content.length
        | _ => none
    let total := (sizes.map fun s => (s.getD none).getD 0).foldl (· + ·) 0
    let least := if sizes.any (· == some none) then 7 else 1
    max least (Octets.ofNat total).length

def wcOptions : Options :=
  .of "lwcmL" "" [("lines", 'l'), ("words", 'w'), ("bytes", 'c'), ("chars", 'm'), ("max-line-length", 'L')]

def wc : Body := fun args => do
  let (opts, names) ← wcOptions.find args
  let wanted := if opts.isEmpty then ['l', 'w', 'c'] else opts.map (·.1)
  let inputs := orInput names
  let width := countWidth (← view) inputs (inputs.length = 1 && wanted.eraseDups.length = 1)
  let totals ← inputs.foldlM (fun (total : Counts) name => do
    let (n, problem) ← match ← openInput name with
      | .error e => do
        wrong (because (nameShown name) e)
        pure (⟨0, 0, 0, 0⟩, true)
      | .ok fd => do
        match ← readAll fd with
        | .ok text => do
          closeInput name fd
          pure (Counts.ofText text, false)
        | .error e => do
          closeInput name fd
          wrong (because (nameShown name) e)
          pure (⟨0, 0, 0, 0⟩, e ≠ Errno.isDirectory)
    unless problem do putLine (n.shown wanted width ++ if names.isEmpty then [] else ' ' :: name)
    return total.add n) (Counts.mk 0 0 0 0)
  if 1 < inputs.length then putLine (totals.shown wanted width ++ " total".toList)

/-! ### Order -/

def tacComplaint : Complaint := fun name e =>
  if e = Errno.isDirectory then nameShown name ++ ": read error: ".toList ++ (Errno.text e).toList
  else "failed to open ".toList ++ nameQuoted name ++ " for reading: ".toList ++ (Errno.text e).toList

def tac : Body := fun args => do
  let (_, names) ← (Options.of "br" "s" [("separator", 's')]).find args
  forEachFile names tacComplaint fun _ text => do
    let ls := pieces '\n' text
    let ended := text.getLast? = some '\n'
    for (line, i) in ls.reverse.zipIdx do
      put (line ++ if ended || i ≠ 0 then ['\n'] else [])

def rev : Body := fun args => do
  let (_, names) ← (Options.of "" "" []).find args
  forEachFile names (fun name e => "cannot open ".toList ++ because name e) fun _ text => do
    let ended := text.getLast? = some '\n'
    let ls := pieces '\n' text
    for (line, i) in ls.zipIdx do put (line.reverse ++ if ended || i + 1 < ls.length then ['\n'] else [])

/-! ### Numbers -/

def nlOptions : Options :=
  .of "p" "bdfhilnsvw" [("body-numbering", 'b'), ("number-format", 'n'), ("number-separator", 's'), ("starting-line-number", 'v'),
    ("number-width", 'w'), ("line-increment", 'i')]

def nl : Body := fun args => do
  let (opts, names) ← nlOptions.find args
  let value (c : Char) (otherwise : Nat) : Nat := ((Options.last? opts c).bind Octets.decimal?).getD otherwise
  let width := value 'w' 6
  let separator := (Options.last? opts 's').getD ['\t']
  let style := (Options.last? opts 'b').getD ['t']
  let form := (Options.last? opts 'n').getD "rn".toList
  let text ← allContents plainComplaint (orInput names)
  let _ ← (pieces '\n' text).foldlM (fun (n : Nat) line => do
    let numbered := style == ['a'] || (style == ['t'] && !line.isEmpty)
    if numbered then
      let ds := Octets.ofNat n
      let fill (c : Char) : Octets := List.replicate (width - ds.length) c
      let shown := if form == "ln".toList then ds ++ fill ' ' else if form == "rz".toList then fill '0' ++ ds else fill ' ' ++ ds
      putLine (shown ++ separator ++ line)
      return n + value 'i' 1
    else
      putLine (List.replicate (width + separator.length) ' ' ++ line)
      return n) (value 'v' 1)

/-! ### Lines side by side -/

/-- The separators of a list, with its escapes. -/
def separators : Octets → List Octets
  | [] => []
  | '\\' :: c :: rest =>
    (match c with
      | 'n' => ['\n']
      | 't' => ['\t']
      | '\\' => ['\\']
      | '0' => []
      | c => [c]) :: separators rest
  | c :: rest => [c] :: separators rest

/-- Joins texts with separators in turn. -/
def joinWith (seps : List Octets) (texts : List Octets) : Octets :=
  (texts.zipIdx.map fun (t, i) =>
    if i = 0 then t else (if seps.isEmpty then [] else (seps[(i - 1) % seps.length]?).getD []) ++ t).flatten

def paste : Body := fun args => do
  let (opts, names) ← (Options.of "sz" "d" [("serial", 's'), ("delimiters", 'd')]).find args
  let seps := separators ((Options.last? opts 'd').getD ['\t'])
  let names := orInput names
  let texts ← names.eraseDups.filterMapM (fun name => do
    match ← contents name with
    | .ok text => return some (name, pieces '\n' text)
    | .error e => fail 1 (because (nameShown name) e) : Octets → Tool (Option (Octets × List Octets)))
  let share (name : Octets) (k : Nat) : List Octets :=
    let all := (texts.lookup name).getD []
    if name == ['-'] then
      let columns := (names.filter (· == name)).length
      (all.zipIdx.filter fun (_, i) => i % columns = k).map (·.1)
    else all
  let columns := names.zipIdx.map fun (name, i) => share name ((names.take i).filter (· == name)).length
  if Options.has opts 's' then
    for name in names do putLine (joinWith seps ((texts.lookup name).getD []))
  else
    let height := columns.foldl (fun n c => max n c.length) 0
    for i in List.range height do putLine (joinWith seps (columns.map fun lines => (lines[i]?).getD []))

/-- Goes through two lists side by side: which columns the lines belong to. -/
def compared : Nat → List Octets → List Octets → List (Nat × Octets)
  | 0, _, _ => []
  | _, [], bs => bs.map ((2, ·))
  | _, as, [] => as.map ((1, ·))
  | fuel + 1, a :: as, b :: bs =>
    if a == b then (3, a) :: compared fuel as bs
    else if Octets.lt a b then (1, a) :: compared fuel as (b :: bs)
    else (2, b) :: compared fuel (a :: as) bs

def comm : Body := fun args => do
  let (opts, names) ← (Options.of "123z" "" [("check-order", 'c'), ("nocheck-order", 'n'), ("total", 't')]).find args
  match names with
  | [a, b] =>
    let load (name : Octets) : Tool (List Octets) := do
      match ← contents name with
      | .ok text => return pieces '\n' text
      | .error e => fail 1 (because (nameShown name) e)
    let xs ← load a
    let ys ← load b
    for (column, line) in compared (xs.length + ys.length + 1) xs ys do
      let hides (n : Nat) : Bool := opts.any fun (c, _) => c.toNat = '0'.toNat + n
      unless hides column do
        let tabs := ((List.range (column - 1)).filter fun n => !hides (n + 1)).length
        putLine (List.replicate tabs '\t' ++ line)
  | [] => misuse 1 "missing operand".toList
  | [a] => misuse 1 ("missing operand after ".toList ++ textQuoted a)
  | _ :: _ :: extra :: _ => misuse 1 ("extra operand ".toList ++ textQuoted extra)

/-! ### Long lines -/

/-- Cuts a line into parts of a width, at blanks if asked for. -/
def folded (width : Nat) (atBlanks : Bool) : Nat → Octets → List Octets
  | 0, line => [line]
  | fuel + 1, line =>
    if line.length ≤ width then [line]
    else
      let part := line.take width
      let cut := if atBlanks && part.contains ' ' then (part.length - (part.reverse.takeWhile (· ≠ ' ')).length) else width
      line.take cut :: folded width atBlanks fuel (line.drop cut)

def fold : Body := fun args => do
  let (opts, names) ← (Options.of "bs" "w" [("width", 'w'), ("spaces", 's'), ("bytes", 'b')]).find args
  let width ← match Options.last? opts 'w' with
    | none => pure 80
    | some text => match Octets.decimal? text with
      | some n => pure n
      | none => fail 1 ("invalid number of columns: ".toList ++ textQuoted text)
  forEachFile names plainComplaint fun _ text => do
    let ended := text.getLast? = some '\n'
    let ls := pieces '\n' text
    for (line, i) in ls.zipIdx do
      put (['\n'].intercalate (folded width (Options.has opts 's') (line.length + 1) line))
      if ended || i + 1 < ls.length then put ['\n']

/-! ### Repeated lines -/

def uniqOptions : Options :=
  .of "cdDiuz" "fsw" [("count", 'c'), ("repeated", 'd'), ("all-repeated", 'D'), ("ignore-case", 'i'), ("unique", 'u'),
    ("skip-fields", 'f'), ("skip-chars", 's'), ("check-chars", 'w'), ("zero-terminated", 'z')]

/-- The line without so many fields. -/
def skipFields : Nat → Octets → Octets
  | 0, line => line
  | n + 1, line =>
    let isBlank (c : Char) : Bool := c = ' ' || c = '\t'
    skipFields n ((line.dropWhile isBlank).dropWhile (!isBlank ·))

/-- Puts neighbours with the same key together. -/
def runs (key : Octets → Octets) (ls : List Octets) : List (List Octets) :=
  (ls.foldr (fun line groups => match groups with
    | (first :: rest) :: others => if key line == key first then (line :: first :: rest) :: others else [line] :: groups
    | _ => [line] :: groups) [])

def uniq : Body := fun args => do
  let (opts, names) ← uniqOptions.find args
  let number (c : Char) (what : String) : Tool Nat := match Options.last? opts c with
    | none => pure 0
    | some text => match Octets.decimal? text with
      | some n => pure n
      | none => fail 1 (text ++ (": invalid number of " ++ what).toList)
  let fields ← number 'f' "fields to skip"
  let chars ← number 's' "bytes to skip"
  let width ← number 'w' "bytes to compare"
  match names with
  | _ :: _ :: extra :: _ => misuse 1 ("extra operand ".toList ++ textQuoted extra)
  | _ => pure ()
  let mark := if Options.has opts 'z' then '\x00' else '\n'
  let key (line : Octets) : Octets :=
    let rest := (skipFields fields line).drop chars
    let rest := if Options.has opts 'w' then rest.take width else rest
    if Options.has opts 'i' then rest.map Char.toUpper else rest
  let text ← match ← contents (names.headD ['-']) with
    | .ok text => pure text
    | .error e => fail 1 (if e = Errno.isDirectory then "error reading ".toList ++ because (nameQuoted (names.headD [])) e
      else because (nameShown (names.headD [])) e)
  let shown := (runs key (pieces mark text)).flatMap fun group =>
    let n := group.length
    let first := group.headD []
    let wanted := (!Options.has opts 'd' || 1 < n) && (!Options.has opts 'u' || n = 1)
    if Options.has opts 'D' then (if 1 < n then group.flatMap (· ++ [mark]) else [])
    else if !wanted then []
    else
      let ds := Octets.ofNat n
      (if Options.has opts 'c' then List.replicate (7 - ds.length) ' ' ++ ds ++ [' '] else []) ++ first ++ [mark]
  match names with
  | [_, target] =>
    if target == ['-'] then put shown
    else match ← open_ target .writing with
      | .error e => fail 1 (because (nameShown target) e)
      | .ok fd => writeTo fd shown
  | _ => put shown

/-! ### Columns -/

/-- The ranges of a list such as `1,3-5,7-`. -/
def rangeList (what : String) (inField : Bool) (text : Octets) : Tool (List (Nat × Option Nat)) :=
  (text.map (fun c => if c = ' ' || c = '\t' then ',' else c) |> Octets.splitOn ',').mapM fun part => do
    let zero : Tool (Nat × Option Nat) := misuse 1 (if inField then "fields are numbered from 1" else
      "byte/character positions are numbered from 1").toList
    let bad : Tool (Nat × Option Nat) := misuse 1 (("invalid " ++ what ++ " ").toList ++ textQuoted text)
    match Octets.splitOn '-' part with
    | [ds] =>
      match Octets.decimal? ds with
      | some 0 => zero
      | some n => return (n, some n)
      | none => if ds.isEmpty then zero else bad
    | [lo, hi] =>
      match lo.isEmpty, Octets.decimal? lo, hi.isEmpty, Octets.decimal? hi with
      | true, _, true, _ => misuse 1 "invalid range with no endpoint: -".toList
      | true, _, false, some n => return (1, some n)
      | false, some 0, _, _ => zero
      | false, some n, true, _ => return (n, none)
      | false, some n, false, some k => if k < n then misuse 1 "invalid decreasing range".toList else return (n, some k)
      | _, _, _, _ => bad
    | _ => bad

def cutOptions : Options :=
  .of "nsz" "bcdfO" [("bytes", 'b'), ("characters", 'c'), ("delimiter", 'd'), ("fields", 'f'), ("only-delimited", 's'),
    ("complement", 'C'), ("output-delimiter", 'O'), ("zero-terminated", 'z')]

def inRangeList (ranges : List (Nat × Option Nat)) (complement : Bool) (n : Nat) : Bool :=
  (ranges.any fun (lo, hi) => lo ≤ n && hi.all (n ≤ ·)) != complement

/-- Groups positions that follow each other within one range. -/
def cutChars (ranges : List (Nat × Option Nat)) (complement : Bool) (separator : Octets) (line : Octets) : Octets :=
  let kept := line.zipIdx.filter fun (_, i) => inRangeList ranges complement (i + 1)
  if separator.isEmpty then kept.map (·.1)
  else
    let startsRange (i : Nat) : Bool := !inRangeList ranges complement i ||
      (!complement && ranges.any fun (lo, _) => lo = i + 1 && !(ranges.any fun (l, h) => l < lo && h.all (lo ≤ ·)))
    (kept.zipIdx.map fun ((c, i), k) => if k ≠ 0 && startsRange i then separator ++ [c] else [c]).flatten

def cut : Body := fun args => do
  let (opts, names) ← cutOptions.find args
  let lists := opts.filter fun (c, _) => ['b', 'c', 'f'].contains c
  let byField := lists.any (·.1 == 'f')
  match lists with
  | [] => misuse 1 "you must specify a list of bytes, characters, or fields".toList
  | _ :: _ :: _ => misuse 1 "only one list may be specified".toList
  | [(_, text)] =>
    let delimiter := Options.last? opts 'd'
    if delimiter.any (1 < ·.length) then misuse 1 "the delimiter must be a single character".toList
    if delimiter.isSome && !byField then
      misuse 1 "an input delimiter may be specified only when operating on fields".toList
    if Options.has opts 's' && !byField then
      misuse 1 "suppressing non-delimited lines makes sense\n\tonly when operating on fields".toList
    let ranges ← rangeList (if byField then "field value" else "byte/character position") byField text
    let complement := Options.has opts 'C'
    let mark := if Options.has opts 'z' then '\x00' else '\n'
    let sep := (delimiter.getD ['\t']).head?.getD '\x00'
    forEachFile names plainComplaint fun _ text => do
      for line in pieces mark text do
        if byField then
          let fields := Octets.splitOn sep line
          if fields.length ≤ 1 then
            unless Options.has opts 's' do put (line ++ [mark])
          else
            let kept := (fields.zipIdx.filter fun (_, i) => inRangeList ranges complement (i + 1)).map (·.1)
            put (((Options.last? opts 'O').getD [sep]).intercalate kept ++ [mark])
        else put (cutChars ranges complement ((Options.last? opts 'O').getD []) line ++ [mark])

/-! ### Copies on the way -/

/-- Writes to several descriptors what comes in. -/
def teeLoop (fds : List Nat) : Nat → Tool Unit
  | 0 => return ()
  | fuel + 1 => do
    match ← ask (.read 0 65536) with
    | .ok [] => return ()
    | .error e => wrong ("read error: ".toList ++ (Errno.text e).toList)
    | .ok piece =>
      put piece
      flush
      for fd in fds do writeTo fd piece
      teeLoop fds fuel

def tee : Body := fun args => do
  let (opts, names) ← (Options.of "aip" "" [("append", 'a'), ("ignore-interrupts", 'i')]).find args
  let fds ← names.foldlM (fun (fds : List Nat) name => do
    match ← open_ name (if Options.has opts 'a' then .appending else .writing) with
    | .ok fd => return fds ++ [fd]
    | .error e =>
      wrong (because (nameShown name) e)
      return fds) []
  teeLoop fds patience

end AlloyGrade.Utility
