import AlloyGrade.Files.Change
import AlloyGrade.Shell.Pattern

/-! Fields. An expansion leaves a line of glyphs, some stretches of which may be split; the fields that come out are
patterns for names of files. -/

namespace AlloyGrade.Shell

/-- A character after expansion. -/
inductive Glyph where
  | plain (c : Char)
  /-- It stands for itself only. -/
  | quoted (c : Char)
  /-- A place where a quotation mark stood, which keeps an empty field. -/
  | mark
deriving DecidableEq, Repr

namespace Glyph

def char? : Glyph → Option Char
  | .plain c | .quoted c => some c
  | .mark => none

/-- The text that glyphs stand for. -/
def text (gs : List Glyph) : Octets := gs.filterMap char?

def pattern (gs : List Glyph) : Pattern :=
  gs.filterMap fun
    | .plain c => some (c, false)
    | .quoted c => some (c, true)
    | .mark => none

end Glyph

/-- A stretch that may be split: at separators, or only where parameters meet. -/
structure Region where
  start : Nat
  stop : Nat
  atJointsOnly : Bool
deriving DecidableEq, Repr

/-- A line of glyphs with its regions, in order. -/
structure Line where
  glyphs : Array Glyph
  regions : Array Region

namespace Line

def empty : Line := ⟨#[], #[]⟩

def size (l : Line) : Nat := l.glyphs.size

def push (l : Line) (g : Glyph) : Line := { l with glyphs := l.glyphs.push g }

def append (l : Line) (gs : List Glyph) : Line := { l with glyphs := gs.foldl Array.push l.glyphs }

def mark (l : Line) (start : Nat) (atJointsOnly : Bool) : Line :=
  { l with regions := l.regions.push ⟨start, l.size, atJointsOnly⟩ }

/-- Takes back everything from a place on. -/
def cutAt (l : Line) (start : Nat) : Line := ⟨l.glyphs.take start, l.regions.filter (·.start < start)⟩

/-- The glyphs from a place on. -/
def since (l : Line) (start : Nat) : List Glyph := l.glyphs.toList.drop start

end Line

/-! ### Splitting -/

/-- How far splitting has come. -/
structure Splitting where
  /-- Where the current field starts. -/
  start : Nat
  done : List (List Glyph)
  /-- The last separator was a blank. -/
  blank : Bool
  /-- How many fields may still come, if that is limited. -/
  left : Option Nat
  /-- Where the last field ends early. -/
  trim : Option Nat

/-- The separators that can be repeated without making empty fields. -/
def isBlankSeparator (c : Char) : Bool := c = ' ' || c = '\t' || c = '\n' || c = joint

/-- Passes over blanks, and over one other separator among them. -/
def passBlanks (separates : Char → Bool) (glyphs : Array Glyph) (stop : Nat) : Nat → Nat → Bool → Nat × Bool
  | 0, p, blank => (p, blank)
  | fuel + 1, p, blank =>
    if stop ≤ p then (p, blank)
    else match (glyphs[p]?).bind Glyph.char? with
      | none => (p, blank)
      | some c =>
        if !separates c then (p, blank)
        else if isBlankSeparator c then passBlanks separates glyphs stop fuel (p + 1) blank
        else if blank then passBlanks separates glyphs stop fuel (p + 1) false
        else (p, blank)

/-- Splits one region from `p` on. -/
def splitRegion (separates : Char → Bool) (glyphs : Array Glyph) (stop : Nat) (strict : Bool) :
    Nat → Nat → Splitting → Splitting
  | 0, _, s => s
  | fuel + 1, p, s =>
    if stop ≤ p then s
    else
      let c := ((glyphs[p]?).bind Glyph.char?).getD 'x'
      let isMark := (glyphs[p]?).all (· == .mark)
      let isSeparator := !isMark && separates c
      let isBlank := isSeparator && isBlankSeparator c
      if s.left = some 0 then
        let s := if isBlank then { s with trim := some (s.trim.getD p) }
          else { s with trim := if isSeparator && s.blank then s.trim else none, blank := false }
        splitRegion separates glyphs stop strict fuel (p + 1) s
      else if !isSeparator then splitRegion separates glyphs stop strict fuel (p + 1) s
      else
        let s := if strict then s else { s with blank := isBlank }
        if p = s.start && s.blank then
          splitRegion separates glyphs stop strict fuel (p + 1) { s with start := p + 1, blank := false }
        else if s.left = some 1 then
          splitRegion separates glyphs stop strict fuel (p + 1) { s with left := some 0, trim := some p }
        else
          let field := (glyphs.extract s.start p).toList
          let (next, blank) := if s.blank then passBlanks separates glyphs stop (stop - p) (p + 1) true else (p + 1, false)
          splitRegion separates glyphs stop strict fuel next
            { s with start := next, done := field :: s.done, blank, left := s.left.map (· - 1) }

/-- Splits regions one after another; blanks are not passed over behind a region that is split at joints only. -/
def splitRegions (separators : Octets) (glyphs : Array Glyph) : List Region → Bool → Splitting → Splitting × Bool
  | [], atJoints, s => (s, atJoints)
  | r :: rest, afterJoints, s =>
    let separates (c : Char) : Bool := c = joint || (!r.atJointsOnly && separators.contains c)
    let s := splitRegion separates glyphs r.stop (afterJoints || r.atJointsOnly) (r.stop - r.start + 1) r.start
      { s with blank := false }
    splitRegions separators glyphs rest r.atJointsOnly s

/-- The fields of a line, at most `limit` of them if there is a limit. -/
def Line.split (l : Line) (separators : Octets) (limit : Option Nat) : List (List Glyph) :=
  let (s, atJoints) := splitRegions separators l.glyphs l.regions.toList false ⟨0, [], false, limit, none⟩
  let last := (l.glyphs.extract s.start (if atJoints then l.size else s.trim.getD l.size)).toList
  (if atJoints || !last.isEmpty then last :: s.done else s.done).reverse

/-! ### Names of files -/

/-- Cuts a pattern at its slashes. -/
def Pattern.components (p : Pattern) : List Pattern :=
  let (piece, pieces) := p.foldr (fun pc (piece, pieces) =>
    if pc.1 = '/' then ([], piece :: pieces) else (pc :: piece, pieces)) ([], [])
  piece :: pieces

/-- The names that a component can stand for in a directory. -/
def candidates (fs : FileSystem) (dir : Location) (p : Pattern) : List Octets :=
  let names := [".".toList, "..".toList] ++ (fs.names dir).map Octets.ofBytes
  let wantsDot := (p.head?.map (·.1)) = some '.'
  names.filter fun n => (n.head? ≠ some '.' || wantsDot) && p.fits n

/-- The paths that fit a list of components, below what has been fitted already. -/
def globFrom (fs : FileSystem) (cwd : Location) : List Pattern → Octets → List Octets
  | [], _ => []
  | p :: rest, done =>
    let plain := done ++ (p.unescape.map (·.1))
    if p.isSpecial then
      match fs.stat cwd (Octets.toPath (if done.isEmpty then ['.'] else done)) with
      | .ok (dir, .dir) =>
        (candidates fs dir p.unescape).flatMap fun n =>
          if rest.isEmpty then [done ++ n] else globFrom fs cwd rest (done ++ n ++ ['/'])
      | _ => []
    else if rest.isEmpty then
      match fs.find cwd false (Octets.toPath plain) with
      | .ok _ => [plain]
      | .error _ => []
    else globFrom fs cwd rest (plain ++ ['/'])

/-- The names of files that a field stands for, in order; the field's own text if there is none. -/
def glob (fs : FileSystem) (cwd : Location) (field : List Glyph) : List Octets :=
  let components := (Glyph.pattern field).components
  let found := if components.any Pattern.isSpecial then globFrom fs cwd components [] else []
  if found.isEmpty then [Glyph.text field] else found.mergeSort fun a b => !Octets.lt b a

end AlloyGrade.Shell
