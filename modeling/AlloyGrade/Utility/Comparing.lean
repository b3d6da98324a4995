import AlloyGrade.Utility.Input
import AlloyGrade.Utility.Tree

/-! The utilities that compare files: octet by octet, and line by line. -/

namespace AlloyGrade.Utility

open Process Tool

/-- Points to the help behind the name. -/
def comparingMisuse {α : Type} (message : Octets) : Tool α := do
  warn message
  let name := (← get).name
  warn ("Try '".toList ++ name ++ " --help' for more information.".toList)
  exit 2

/-- Separates options from operands; a misuse is reported in the manner of these utilities. -/
def comparingOptions (o : Options) (args : List Octets) : Tool Options.Found := do
  let known (c : Char) : Option Switch := o.known.find? (·.letter == c)
  let shortFault? (a : Octets) : Option Char := match a with
    | '-' :: '-' :: _ => none
    | '-' :: cs =>
      let flags := cs.takeWhile fun c => (known c).any (!·.takesValue)
      match cs.drop flags.length with
      | c :: _ => if (known c).isNone then some c else none
      | [] => none
    | _ => none
  match args.findSome? shortFault? with
  | some c => comparingMisuse ("invalid option -- '".toList ++ [c, '\''])
  | none => ({ o with misuse := 2 } : Options).find args

/-! ### Octets -/

/-- How two texts differ first: at which octet and line, or where one ends. -/
inductive Difference where
  | none
  | octet (position line : Nat) (a b : Char)
  /-- The first, or else the second, ends after so many octets. -/
  | ends (first : Bool) (position line : Nat) (atLineStart : Bool)

def firstDifference : Octets → Octets → Nat → Nat → Bool → Difference
  | [], [], _, _, _ => .none
  | [], _ :: _, p, line, fresh => .ends true (p - 1) line fresh
  | _ :: _, [], p, line, fresh => .ends false (p - 1) line fresh
  | a :: as, b :: bs, p, line, _ =>
    if a = b then firstDifference as bs (p + 1) (if a = '\n' then line + 1 else line) (a = '\n') else .octet p line a b

def octal3 (c : Char) : Octets :=
  let ds := Nat.toDigits 8 c.toNat
  List.replicate (3 - ds.length) ' ' ++ ds

def cmpOptions : Options :=
  .of "bls" "in" [("print-bytes", 'b'), ("verbose", 'l'), ("silent", 's'), ("quiet", 's'), ("ignore-initial", 'i'), ("bytes", 'n')]

def cmp : Body := fun args => do
  let (opts, names) ← comparingOptions cmpOptions args
  let has := Options.has opts
  if has 'l' && has 's' then comparingMisuse "options -l and -s are incompatible".toList
  match names with
  | [] => comparingMisuse ("missing operand after ".toList ++ quoted (← get).name)
  | _ :: _ :: skip :: _ =>
    if (count? skip).isNone then comparingMisuse ("invalid --ignore-initial value ".toList ++ quoted skip)
  | _ => pure ()
  let nameA := names.headD []
  let nameB := (names[1]?).getD ['-']
  let load (name : Octets) : Tool Octets := do
    match ← contents name with
    | .ok text => return text
    | .error e =>
      unless has 's' do warn (because name e)
      exit 2
  let skips := match Options.last? opts 'i' with
    | some text => (Octets.splitOn ':' text).map fun t => (count? t).getD 0
    | none => (names.drop 2).map fun t => (count? t).getD 0
  let skipA := skips.headD 0
  let skipB := (skips[1]?).getD (if (Options.last? opts 'i').isSome then skipA else 0)
  let whole ← load nameA
  let other ← load nameB
  let limit := (Options.last? opts 'n').bind count?
  let cutTo (text : Octets) : Octets := match limit with
    | some n => text.take n
    | none => text
  let a := cutTo (whole.drop skipA)
  let b := cutTo (other.drop skipB)
  match firstDifference a b 1 1 true with
  | .none => exit 0
  | d =>
    if has 's' then exit 1
    if has 'l' then
      let width := (Octets.ofNat (max a.length b.length)).length
      for ((x, y), i) in (a.zip b).zipIdx do
        if x ≠ y then
          let ds := Octets.ofNat (i + 1)
          putLine (List.replicate (width - ds.length) ' ' ++ ds ++ [' '] ++ octal3 x ++ [' '] ++ octal3 y)
      if a.length ≠ b.length then
        let short := if a.length < b.length then nameA else nameB
        let size := min a.length b.length
        warn ("EOF on ".toList ++ short ++ (if size = 0 then " which is empty".toList else " after byte ".toList ++ Octets.ofNat size))
      exit 1
    match d with
    | .octet p line x y =>
      if has 'b' then
        putLine (nameA ++ [' '] ++ nameB ++ " differ: byte ".toList ++ Octets.ofNat p ++ ", line ".toList ++ Octets.ofNat line ++
          " is ".toList ++ octal3 x ++ [' '] ++ [x] ++ [' '] ++ octal3 y ++ [' '] ++ [y])
      else
        putLine (nameA ++ [' '] ++ nameB ++ " differ: char ".toList ++ Octets.ofNat p ++ ", line ".toList ++ Octets.ofNat line)
    | .ends first p line fresh =>
      let name := if first then nameA else nameB
      warn ("EOF on ".toList ++ name ++ (if p = 0 then " which is empty".toList else
        " after byte ".toList ++ Octets.ofNat p ++ ", ".toList ++ (if fresh then "line ".toList ++ Octets.ofNat (line - 1) else
          "in line ".toList ++ Octets.ofNat line)))
    | .none => pure ()
    exit 1

/-! ### Lines -/

/-- One row of the table of longest common parts: for every rest of `bs`, how much it shares with a rest that starts
with `a`. -/
def commonRow (same : Octets → Octets → Bool) (a : Octets) : List Octets → List Nat → List Nat
  | [], _ => [0]
  | b :: bs, below =>
    let rest := commonRow same a bs (below.drop 1)
    let here := if same a b then (below[1]?).getD 0 + 1 else max (below.headD 0) (rest.headD 0)
    here :: rest

/-- The table of longest common parts, the row for all of `as` first. -/
def commonTable (same : Octets → Octets → Bool) (bs : List Octets) : List Octets → List (List Nat)
  | [] => [List.replicate (bs.length + 1) 0]
  | a :: as =>
    let rows := commonTable same bs as
    commonRow same a bs (rows.headD []) :: rows

/-- One step from the old lines to the new ones. -/
inductive Edit where
  | keep (line : Octets)
  | remove (line : Octets)
  | add (line : Octets)

/-- The shortest way from the old lines to the new ones; removals come first. The rows say how much the rests have in
common. -/
def edits (same : Octets → Octets → Bool) : Nat → List (List Nat) → List Octets → List Octets → List Edit
  | 0, _, as, bs => as.map .remove ++ bs.map .add
  | _, _, [], bs => bs.map .add
  | _, _, as, [] => as.map .remove
  | fuel + 1, rows, a :: as, b :: bs =>
    let ofRest (row : List Nat) (size : Nat) : Nat := (row[row.length - 1 - size]?).getD 0
    let below := ofRest ((rows[1]?).getD []) (bs.length + 1)
    let beside := ofRest (rows.headD []) bs.length
    if same a b then .keep a :: edits same fuel (rows.drop 1) as bs
    else if beside ≤ below then .remove a :: edits same fuel (rows.drop 1) as (b :: bs)
    else .add b :: edits same fuel rows (a :: as) bs

/-- A change: where it stands in both texts, what goes and what comes. -/
structure Hunk where
  oldStart : Nat
  newStart : Nat
  removed : List Octets
  added : List Octets

/-- Collects neighbouring changes. -/
def hunksFrom : List Edit → Nat → Nat → Option Hunk → List Hunk
  | [], _, _, open_ => open_.toList
  | .keep _ :: rest, m, n, open_ => open_.toList ++ hunksFrom rest (m + 1) (n + 1) none
  | .remove line :: rest, m, n, open_ =>
    let h := open_.getD ⟨m, n, [], []⟩
    hunksFrom rest (m + 1) n (some { h with removed := h.removed ++ [line] })
  | .add line :: rest, m, n, open_ =>
    let h := open_.getD ⟨m, n, [], []⟩
    hunksFrom rest m (n + 1) (some { h with added := h.added ++ [line] })

def lineRange (start size : Nat) : Octets :=
  if size ≤ 1 then Octets.ofNat (start + size) else Octets.ofNat (start + 1) ++ [','] ++ Octets.ofNat (start + size)

/-- A text as lines that keep their ends, so that a missing last one shows. -/
def endedLines (text : Octets) : List Octets :=
  let ls := pieces '\n' text
  if text.getLast? = some '\n' || text.isEmpty then ls.map (· ++ ['\n'])
  else ls.dropLast.map (· ++ ['\n']) ++ [ls.getLast?.getD []]

def shownLine (mark : String) (line : Octets) : Octets :=
  mark.toList ++ if line.getLast? = some '\n' then line else line ++ "\n\\ No newline at end of file\n".toList

def shownHunk (h : Hunk) : Octets :=
  let letter := match h.removed.isEmpty, h.added.isEmpty with
    | true, _ => 'a'
    | _, true => 'd'
    | _, _ => 'c'
  lineRange h.oldStart h.removed.length ++ [letter] ++ lineRange h.newStart h.added.length ++ ['\n'] ++
    h.removed.flatMap (shownLine "< ") ++ (if letter = 'c' then "---\n".toList else []) ++ h.added.flatMap (shownLine "> ")

/-- The line as it counts for the comparison. -/
def lineKey (opts : List (Char × Octets)) (line : Octets) : Octets :=
  let isBlank (c : Char) : Bool := c = ' ' || c = '\t' || c = '\r'
  let line := if Options.has opts 'w' then line.filter (!isBlank ·)
    else if Options.has opts 'b' then
      let body := (if line.getLast? = some '\n' then line.dropLast else line)
      let trimmed := (body.reverse.dropWhile isBlank).reverse
      (trimmed.zipIdx.filterMap fun (c, i) =>
        if isBlank c then (if i ≠ 0 && (trimmed[i - 1]?).any isBlank then none else some ' ') else some c) ++ ['\n']
    else line
  if Options.has opts 'i' then line.map Char.toLower else line

def diffOptions : Options :=
  .of "abBcdeEiNnqrstTuwy" "CFIUWxX" [("brief", 'q'), ("recursive", 'r'), ("report-identical-files", 's'), ("new-file", 'N'),
    ("ignore-case", 'i'), ("ignore-all-space", 'w'), ("ignore-space-change", 'b'), ("text", 'a'), ("unified", 'u'), ("minimal", 'd')]

/-- Unified output: hunks with three lines around them. -/
structure Window where
  oldStart : Nat
  oldSize : Nat
  newStart : Nat
  newSize : Nat
  lines : List Octets

/-- The steps with their places in both texts. -/
def placed : List Edit → Nat → Nat → List (Edit × Nat × Nat)
  | [], _, _ => []
  | .keep l :: rest, m, n => (.keep l, m, n) :: placed rest (m + 1) (n + 1)
  | .remove l :: rest, m, n => (.remove l, m, n) :: placed rest (m + 1) n
  | .add l :: rest, m, n => (.add l, m, n) :: placed rest m (n + 1)

def isKept : Edit → Bool
  | .keep _ => true
  | _ => false

/-- The places that are within so many steps of a change. -/
def nearChange (steps : Array (Edit × Nat × Nat)) (around i : Nat) : Bool :=
  (List.range (2 * around + 1)).any fun k =>
    around ≤ i + k && ((steps[i + k - around]?).any fun s => !isKept s.1)

/-- Puts steps that are near changes into windows. -/
def windows (steps : Array (Edit × Nat × Nat)) : List Window :=
  let near := (List.range steps.size).filter (nearChange steps 3)
  let groups := near.foldl (fun (gs : List (List Nat)) i => match gs with
    | (j :: js) :: rest => if j + 1 = i then (i :: j :: js) :: rest else [i] :: gs
    | _ => [i] :: gs) []
  (groups.map List.reverse).reverse.map fun group =>
    let items := group.filterMap (steps[·]?)
    let first := items.head?.map (·.2)
    let old := items.filter fun s => match s.1 with
      | .add _ => false
      | _ => true
    let new := items.filter fun s => match s.1 with
      | .remove _ => false
      | _ => true
    { oldStart := (first.map (·.1)).getD 0
      oldSize := old.length
      newStart := (first.map (·.2)).getD 0
      newSize := new.length
      lines := items.map fun s => match s.1 with
        | .keep l => shownLine " " l
        | .remove l => shownLine "-" l
        | .add l => shownLine "+" l }

def unifiedRange (start size : Nat) : Octets :=
  if size = 1 then Octets.ofNat (start + 1)
  else Octets.ofNat (if size = 0 then start else start + 1) ++ [','] ++ Octets.ofNat size

def shownWindow (w : Window) : Octets :=
  "@@ -".toList ++ unifiedRange w.oldStart w.oldSize ++ " +".toList ++ unifiedRange w.newStart w.newSize ++ " @@\n".toList ++
    w.lines.flatten

/-- Compares two texts; says whether they differ. -/
def diffTexts (opts : List (Char × Octets)) (title nameA nameB : Octets) (a b : Octets) : Tool Bool := do
  let same (x y : Octets) : Bool := lineKey opts x == lineKey opts y
  let xs := endedLines a
  let ys := endedLines b
  if a == b || (xs.length = ys.length && (xs.zip ys).all fun (x, y) => same x y) then
    if Options.has opts 's' then putLine ("Files ".toList ++ nameA ++ " and ".toList ++ nameB ++ " are identical".toList)
    return false
  if Options.has opts 'q' then
    putLine ("Files ".toList ++ nameA ++ " and ".toList ++ nameB ++ " differ".toList)
    return true
  if (a ++ b).contains '\x00' && !Options.has opts 'a' then
    putLine ("Binary files ".toList ++ nameA ++ " and ".toList ++ nameB ++ " differ".toList)
    return true
  put title
  let start := ((xs.zip ys).takeWhile fun (x, y) => same x y).length
  let steps := (xs.take start).map Edit.keep ++
    edits same (xs.length + ys.length + 1) (commonTable same (ys.drop start) (xs.drop start)) (xs.drop start) (ys.drop start)
  if Options.has opts 'u' || Options.has opts 'U' then
    put ("--- ".toList ++ nameA ++ "\n+++ ".toList ++ nameB ++ ['\n'])
    for w in windows (placed steps 0 0).toArray do put (shownWindow w)
  else
    for h in hunksFrom steps 0 0 none do put (shownHunk h)
  return true

/-- Compares what stands under two names; says whether there was a difference, or trouble. -/
def diffNames (opts : List (Char × Octets)) (flags : Octets) : Nat → Bool → Octets → Octets → Tool Nat
  | 0, _, _, _ => return 0
  | fuel + 1, atTop, a, b => do
    let dirA ← isDirectory a
    let dirB ← isDirectory b
    match dirA && a != ['-'], dirB && b != ['-'] with
    | true, true =>
      if !atTop && !Options.has opts 'r' then
        putLine ("Common subdirectories: ".toList ++ a ++ " and ".toList ++ b)
        return 0
      let as ← childrenOf a
      let bs ← childrenOf b
      let all := (as ++ bs).eraseDups.mergeSort fun x y => !Octets.lt y x
      all.foldlM (fun (worst : Nat) name => do
        if !as.contains name && !Options.has opts 'N' then
          putLine ("Only in ".toList ++ b ++ ": ".toList ++ name)
          return max worst 1
        else if !bs.contains name && !Options.has opts 'N' then
          putLine ("Only in ".toList ++ a ++ ": ".toList ++ name)
          return max worst 1
        else return max worst (← diffNames opts flags fuel false (within a name) (within b name))) 0
    | isDirA, isDirB =>
      if !atTop && isDirA != isDirB then
        let kind (d : Bool) : Octets := (if d then "directory" else "regular file").toList
        putLine ("File ".toList ++ a ++ " is a ".toList ++ kind isDirA ++ " while file ".toList ++ b ++ " is a ".toList ++ kind isDirB)
        return 1
      let a := if isDirA then within a (lastPart b) else a
      let b := if isDirB then within b (lastPart a) else b
      let load (name : Octets) : Tool (Option Octets) := do
        match ← contents name with
        | .ok text => return some text
        | .error e =>
          if e = Errno.noEntry && Options.has opts 'N' then return some []
          warn (because name e)
          return none
      match ← load a, ← load b with
      | some x, some y =>
        let title := if atTop then [] else "diff ".toList ++ flags ++ a ++ [' '] ++ b ++ ['\n']
        return if ← diffTexts opts title a b x y then 1 else 0
      | _, _ => return 2

def diff : Body := fun args => do
  let (opts, names) ← comparingOptions diffOptions args
  let flags := (args.filter fun a => a.head? = some '-' && a != ['-']).flatMap (· ++ [' '])
  match names with
  | [] => comparingMisuse ("missing operand after ".toList ++ quoted (← get).name)
  | [a] => comparingMisuse ("missing operand after ".toList ++ quoted a)
  | [a, b] => exit (← diffNames opts flags 200 true a b)
  | _ :: _ :: extra :: _ => comparingMisuse ("extra operand ".toList ++ quoted extra)

end AlloyGrade.Utility
