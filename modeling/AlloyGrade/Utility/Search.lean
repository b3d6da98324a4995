import AlloyGrade.Shell.Pattern
import AlloyGrade.Text.RegexPerl
import AlloyGrade.Utility.Input
import AlloyGrade.Utility.Tree

/-! The utility that looks for lines with a match. -/

namespace AlloyGrade.Utility

open Process Tool

namespace Search

structure Settings where
  patterns : List Regex
  /-- Of several matches at a place the preferred one counts, not the longest. -/
  prefers : Bool
  mode : Regex.Mode
  invert : Bool
  words : Bool
  whole : Bool
  counts : Bool
  /-- Only names are shown: of files with a match, or of those without. -/
  names : Option Bool
  quiet : Bool
  silent : Bool
  numbers : Bool
  offsets : Bool
  onlyMatches : Bool
  limit : Option Nat
  before : Nat
  after : Nat
  withName : Bool
  text : Bool
  mark : Char
  hasContext : Bool

/-- The longest way of some patterns from a place on that respects the borders asked for. -/
def longestAt (s : Settings) (line : Array Char) (p : Nat) : Option Nat :=
  if s.words && Regex.isWordBefore line p then none
  else if s.whole && p ≠ 0 then none
  else
    let stops := s.patterns.flatMap fun r => (Regex.ends s.mode line r.refersBack r p []).map (·.1)
    let stops := if s.words then stops.filter (!Regex.isWordAt line ·) else stops
    let stops := if s.whole then stops.filter (· == line.size) else stops
    stops.foldl (fun best q => some (max q (best.getD q))) none

/-- A match at a place: where it starts and ends. -/
def matchAt (s : Settings) (line : Array Char) (p : Nat) : Option (Nat × Nat) :=
  if s.prefers then s.patterns.findSome? fun r => Regex.Perl.preferredAt r line p
  else (longestAt s line p).map (p, ·)

/-- The first match from a place on. -/
def matchFrom (s : Settings) (line : Array Char) : Nat → Nat → Option (Nat × Nat)
  | 0, _ => none
  | fuel + 1, p =>
    match matchAt s line p with
    | some found => some found
    | none => matchFrom s line fuel (p + 1)

def firstMatch (s : Settings) (line : Array Char) (p : Nat) : Option (Nat × Nat) := matchFrom s line (line.size + 1 - p) p

/-- All matches that are not empty, one behind the other. -/
def allMatches (s : Settings) (line : Array Char) : Nat → Nat → List (Nat × Nat)
  | 0, _ => []
  | fuel + 1, p =>
    match firstMatch s line p with
    | none => []
    | some (a, b) => if a = b then allMatches s line fuel (a + 1) else (a, b) :: allMatches s line fuel b

/-- Where the search in a file stands. -/
structure Progress where
  line : Nat
  offset : Nat
  selected : Nat
  /-- Lines that could be shown as context, last first. -/
  kept : List (Nat × Nat × Octets)
  /-- How many lines behind a match are still to be shown. -/
  pending : Nat
  /-- The last line that was shown. -/
  shown : Nat

/-- What stands in front of a line. -/
def heading (s : Settings) (name : Octets) (mark : Char) (line offset : Nat) : Octets :=
  (if s.withName then name ++ [mark] else []) ++ (if s.numbers then Octets.ofNat line ++ [mark] else []) ++
    if s.offsets then Octets.ofNat offset ++ [mark] else []

def showLine (s : Settings) (name : Octets) (mark : Char) (line offset : Nat) (text : Octets) : Tool Unit :=
  put (heading s name mark line offset ++ text ++ [s.mark])

/-- Shows a line with a match. -/
def showSelected (s : Settings) (name : Octets) (p : Progress) (text : Octets) : Tool Unit := do
  if s.onlyMatches then
    unless s.invert do
      let line := text.toArray
      for (a, b) in allMatches s line (line.size + 1) 0 do
        showLine s name ':' p.line (p.offset + a) (line.extract a b).toList
  else
    let first := ((p.kept.getLast?).map (·.1)).getD p.line
    if s.hasContext && p.shown ≠ 0 && p.shown + 1 < first then put "--\n".toList
    for (n, offset, old) in p.kept.reverse do showLine s name '-' n offset old
    showLine s name ':' p.line p.offset text

/-- Goes through the lines of a file. -/
def scan (s : Settings) (name : Octets) (binary : Bool) : Nat → Source → Progress → Tool (Except Errno Progress)
  | 0, _, p => return .ok p
  | fuel + 1, source, p => do
    let full := s.limit.any (· ≤ p.selected)
    if full && p.pending = 0 then
      source.giveBack
      return .ok p
    match ← source.nextLine s.mark patience with
    | .error e => return .error e
    | .ok (none, _) => return .ok p
    | .ok (some (text, _), source) =>
      let size := text.length + 1
      let found := (firstMatch s text.toArray 0).isSome != s.invert
      if found && !full then
        let p := { p with selected := p.selected + 1 }
        if s.quiet || s.names.isSome then return .ok p
        else if s.counts then scan s name binary fuel source { p with line := p.line + 1, offset := p.offset + size }
        else if binary && !s.text then
          put ("grep: ".toList ++ name ++ ": binary file matches\n".toList)
          return .ok p
        else
          showSelected s name p text
          scan s name binary fuel source
            { p with line := p.line + 1, offset := p.offset + size, kept := [], pending := s.after, shown := p.line }
      else if 0 < p.pending then
        if found then return .ok p
        unless s.counts || s.quiet || s.onlyMatches do showLine s name '-' p.line p.offset text
        scan s name binary fuel source
          { p with line := p.line + 1, offset := p.offset + size, pending := p.pending - 1, shown := p.line }
      else
        scan s name binary fuel source
          { p with line := p.line + 1, offset := p.offset + size, kept := ((p.line, p.offset, text) :: p.kept).take s.before }

/-- Searches one file; says whether a line was selected. -/
def searchFile (s : Settings) (name : Octets) : Tool Bool := do
  let shownName := if name == ['-'] then "(standard input)".toList else name
  match ← openInput name with
  | .error e =>
    unless s.silent do warn (because name e)
    modify ({ · with failed := true })
    return false
  | .ok fd =>
    let fault (e : Errno) : Tool Bool := do
      unless s.silent do warn (because name e)
      modify ({ · with failed := true })
      closeInput name fd
      return false
    match ← ask (.read fd 65536) with
    | .error e => fault e
    | .ok piece =>
      let binary := piece.contains '\x00' && s.mark ≠ '\x00'
      match ← scan s shownName binary patience ⟨fd, piece, piece.isEmpty⟩ ⟨1, 0, 0, [], 0, 0⟩ with
      | .error e => fault e
      | .ok p =>
        closeInput name fd
        let found := p.selected ≠ 0
        if s.quiet then return found
        match s.names with
        | some wanted => if found == wanted then putLine shownName
        | none =>
          if s.counts then putLine ((if s.withName then shownName ++ [':'] else []) ++ Octets.ofNat p.selected)
        return found

/-- Whether a name has the shape of a pattern. -/
def nameFits (pattern name : Octets) : Bool := Shell.Pattern.fits (pattern.map (·, false)) name

/-- The files below a name that are looked through; names below the present directory can be `bare`. -/
def filesBelow (bare : Bool) (include_ exclude : List Octets) : Nat → Octets → Tool (List Octets)
  | 0, _ => return []
  | fuel + 1, name => do
    match ← lookUp true name with
    | .ok (_, .dir) =>
      let children ← childrenOf name
      let lists ← children.mapM fun child => do
        let path := if bare && name == ['.'] then child else within name child
        match ← lookUp false path with
        | .ok (_, .link _) => return []
        | .ok (_, .dir) => filesBelow bare include_ exclude fuel path
        | _ =>
          let fits (patterns : List Octets) : Bool := patterns.any (nameFits · child)
          return if (include_.isEmpty || fits include_) && !fits exclude then [path] else []
      return lists.flatten
    | _ => return [name]

def options : Options :=
  { Options.of "EFGPivywxcLlqsnHhobrRaZzUIT" "efmABC" [("extended-regexp", 'E'), ("fixed-strings", 'F'), ("basic-regexp", 'G'),
      ("ignore-case", 'i'), ("invert-match", 'v'), ("word-regexp", 'w'), ("line-regexp", 'x'), ("count", 'c'),
      ("files-with-matches", 'l'), ("files-without-match", 'L'), ("quiet", 'q'), ("silent", 'q'), ("no-messages", 's'),
      ("line-number", 'n'), ("with-filename", 'H'), ("no-filename", 'h'), ("only-matching", 'o'), ("byte-offset", 'b'),
      ("recursive", 'r'), ("text", 'a'), ("null-data", 'z'), ("regexp", 'e'), ("file", 'f'), ("max-count", 'm'),
      ("after-context", 'A'), ("before-context", 'B'), ("context", 'C')] with
    misuse := 2, synopsis := "Usage: grep [OPTION]... PATTERNS [FILE]...\n" }

/-- Options that are written only in long form and take a value. -/
def longValues : List (String × Char) := [("include", '1'), ("exclude", '2'), ("color", '3'), ("colour", '3'), ("exclude-dir", '4')]

def allOptions : Options :=
  { options with known := options.known ++ longValues.map fun (name, c) => ⟨c, name, true⟩ }

/-- An old form of context such as `-2`. -/
def withNumbers (args : List Octets) : List Octets :=
  args.flatMap fun a => match a with
    | '-' :: d :: ds => if (d :: ds).all Char.isDigit then [['-', 'C'], d :: ds] else [a]
    | _ => [a]

def misused {α : Type} : Tool α := do
  complain "Usage: grep [OPTION]... PATTERNS [FILE]...\nTry 'grep --help' for more information.\n".toList
  exit 2

/-- The expression for one pattern. -/
def compile (extended fixed : Bool) (pattern : Octets) : Tool Regex := do
  if fixed then return pattern.foldr (fun c r => .seq (.literal c) r) .empty
  match pattern with
  | '[' :: ':' :: rest =>
    if rest.length ≥ 2 && Octets.endsWith rest [':', ']'] then
      fail 2 "character class syntax is [[:space:]], not [:space:]".toList
  | _ => pure ()
  if extended && (pattern.head?.any fun c => ['*', '+', '?'].contains c) then
    warn ("warning: ".toList ++ pattern.take 1 ++ " at start of expression".toList)
  match Regex.ofOctets ⟨extended, false, false⟩ pattern with
  | .ok (r, _, _) => return r
  | .error e => fail 2 (if e = .unmatchedBracket then "Invalid regular expression" else e.message).toList

/-- The expression for a pattern of the richest dialect. -/
def compilePerl (ignoreCase words whole : Bool) (pattern : Octets) : Tool Regex := do
  match Regex.Perl.ofOctets ignoreCase pattern with
  | .ok r => return if whole then Regex.Perl.asLine r else if words then Regex.Perl.asWord r else r
  | .error message => fail 2 message.toList

def number (opts : List (Char × Octets)) (c : Char) : Tool (Option Nat) :=
  match Options.last? opts c with
  | none => return none
  | some text =>
    match Octets.decimal? text with
    | some n => return some n
    | none =>
      if c = 'm' then fail 2 "invalid max count".toList else fail 2 (text ++ ": invalid context length argument".toList)

end Search

open Search in
def grepWith (extended fixed : Bool) : Body := fun args => do
  let (opts, operands) ← allOptions.find (withNumbers args)
  let has := Options.has opts
  let explicit := has 'e' || has 'f'
  let fromFiles ← (opts.filter (·.1 == 'f')).mapM fun (_, name) => do
    match ← contents name with
    | .ok text => return pieces '\n' text
    | .error e => fail 2 (because name e)
  let given := (opts.filter (·.1 == 'e')).flatMap fun (_, text) => Octets.splitOn '\n' text
  let (patterns, names) ← match explicit, operands with
    | true, names => pure (given ++ fromFiles.flatten, names)
    | false, pattern :: names => pure (Octets.splitOn '\n' pattern, names)
    | false, [] => misused
  let after ← number opts 'A'
  let before ← number opts 'B'
  let around ← number opts 'C'
  let limit ← number opts 'm'
  let kind := (opts.filterMap fun (c, _) => if ['E', 'F', 'G', 'P'].contains c then some c else none).getLast?
  let extended := match kind with
    | some c => c = 'E' || c = 'P'
    | none => extended
  let fixed := match kind with
    | some c => c = 'F'
    | none => fixed
  let isPerl := kind = some 'P'
  let regexes ← if isPerl then do
      if 1 < patterns.length then fail 2 "the -P option only supports a single pattern".toList
      patterns.mapM (compilePerl (has 'i' || has 'y') (has 'w') (has 'x'))
    else patterns.mapM (compile extended fixed)
  let deep := has 'r' || has 'R'
  let bare := names.isEmpty
  let names := if bare && deep then [['.']] else orInput names
  let values (c : Char) : List Octets := (opts.filter (·.1 == c)).map (·.2)
  let lists ← names.mapM fun name => if deep then filesBelow bare (values '1') (values '2') 100 name else return [name]
  let files := lists.flatten
  let named := match (opts.filterMap fun (c, _) => if c = 'H' || c = 'h' then some c else none).getLast? with
    | some c => c = 'H'
    | none => 1 < names.length || deep
  let s : Settings := {
    patterns := regexes
    prefers := isPerl
    mode := ⟨has 'i' || has 'y', false⟩
    invert := has 'v'
    words := has 'w'
    whole := has 'x'
    counts := has 'c'
    names := if has 'l' then some true else if has 'L' then some false else none
    quiet := has 'q'
    silent := has 's'
    numbers := has 'n'
    offsets := has 'b'
    onlyMatches := has 'o'
    limit
    before := (before.orElse fun _ => around).getD 0
    after := (after.orElse fun _ => around).getD 0
    withName := named
    text := has 'a'
    mark := if has 'z' then '\x00' else '\n'
    hasContext := before.isSome || after.isSome || around.isSome }
  let found ← files.foldlM (fun (found : Bool) name => do
    if found && s.quiet then return true
    let here ← searchFile s name
    return found || here) false
  let failed := (← get).failed
  exit (if found && (s.quiet || !failed) then 0 else if failed then 2 else 1)

def grep : Body := grepWith false false

def egrep : Body := grepWith true false

def fgrep : Body := grepWith false true

end AlloyGrade.Utility
