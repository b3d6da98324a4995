import AlloyGrade.Text.Octets

/-! Regular expressions with groups and references back to them. The leftmost match counts, and of those that start
there the longest, or the one that the expression prefers. -/

namespace AlloyGrade

inductive Regex where
  | empty
  | literal (c : Char)
  | any
  /-- An octet within, or outside, some ranges. -/
  | among (negated : Bool) (ranges : List (Char × Char))
  | lineStart
  | lineEnd
  | textStart
  | textEnd
  | wordStart
  | wordEnd
  | wordEdge
  | insideWord
  | seq (a b : Regex)
  | alt (a b : Regex)
  | many (r : Regex) (least : Nat) (most : Option Nat)
  /-- A repetition that prefers fewer rounds. -/
  | few (r : Regex) (least : Nat) (most : Option Nat)
  | group (n : Nat) (r : Regex)
  | back (n : Nat)
  /-- Only the preferred way. -/
  | atomic (r : Regex)
  /-- A condition on what follows, or on what stands before. -/
  | look (ahead negated : Bool) (r : Regex)
  /-- The match is taken to start here. -/
  | keep
  /-- One of two expressions, according to whether a group has matched. -/
  | given (n : Nat) (yes no : Regex)
deriving DecidableEq, Repr

namespace Regex

structure Mode where
  ignoreCase : Bool
  /-- Line ends within the text count for the anchors. -/
  multiline : Bool

/-- What each group has matched: from where, and up to where. The group 0 is there if the match starts late. -/
abbrev Captures := List (Nat × Nat × Nat)

/-- A way through: its end and its groups. -/
abbrev Way := Nat × Captures

def isWordChar (c : Char) : Bool := c.isAlphanum || c = '_'

def sameChar (m : Mode) (a b : Char) : Bool := a = b || (m.ignoreCase && a.toLower = b.toLower)

def inRanges (m : Mode) (ranges : List (Char × Char)) (c : Char) : Bool :=
  let within (c : Char) : Bool := ranges.any fun (lo, hi) => lo ≤ c && c ≤ hi
  within c || (m.ignoreCase && (within c.toLower || within c.toUpper))

/-- Keeps the first of several ways with the same end; ways that differ in their groups may matter to references. -/
def distinct (keepGroups : Bool) (ways : List Way) : List Way :=
  (ways.foldl (fun kept way =>
    if kept.any fun k => k.1 = way.1 && (!keepGroups || k.2 = way.2) then kept else way :: kept) []).reverse

/-- Repeats a step; a round that matches nothing ends the repetition. More rounds come before fewer, unless fewer are
preferred. -/
def iterate (keepGroups fewer : Bool) (step : Nat → Captures → List Way) :
    Nat → Nat → Option Nat → Nat → Captures → List Way
  | 0, least, _, p, groups => if least = 0 then [(p, groups)] else []
  | fuel + 1, least, most, p, groups =>
    let here := if least = 0 then [(p, groups)] else []
    if most = some 0 then here
    else
      let more := (step p groups).flatMap fun (q, groups) =>
        if q = p && least = 0 then [] else iterate keepGroups fewer step fuel (least - 1) (most.map (· - 1)) q groups
      distinct keepGroups (if fewer then here ++ more else more ++ here)

def charAt? (text : Array Char) (p : Nat) : Option Char := text[p]?

def isWordAt (text : Array Char) (p : Nat) : Bool := (charAt? text p).any isWordChar

def isWordBefore (text : Array Char) (p : Nat) : Bool := p != 0 && isWordAt text (p - 1)

/-- Whether a text stands at a place. -/
def standsAt (m : Mode) (text : Array Char) (p : Nat) (part : List Char) : Bool :=
  part.zipIdx.all fun (c, i) => (charAt? text (p + i)).any (sameChar m c)

/-- The ways to match from a place on, the preferred ones first. -/
def ends (m : Mode) (text : Array Char) (keepGroups : Bool) : Regex → Nat → Captures → List Way
  | .empty, p, groups => [(p, groups)]
  | .literal c, p, groups => if (charAt? text p).any (sameChar m c) then [(p + 1, groups)] else []
  | .any, p, groups => if p < text.size then [(p + 1, groups)] else []
  | .among negated ranges, p, groups =>
    if (charAt? text p).any fun c => inRanges m ranges c != negated then [(p + 1, groups)] else []
  | .lineStart, p, groups =>
    if p = 0 || (m.multiline && charAt? text (p - 1) = some '\n') then [(p, groups)] else []
  | .lineEnd, p, groups =>
    if p = text.size || (m.multiline && charAt? text p = some '\n') then [(p, groups)] else []
  | .textStart, p, groups => if p = 0 then [(p, groups)] else []
  | .textEnd, p, groups => if p = text.size then [(p, groups)] else []
  | .wordStart, p, groups => if !isWordBefore text p && isWordAt text p then [(p, groups)] else []
  | .wordEnd, p, groups => if isWordBefore text p && !isWordAt text p then [(p, groups)] else []
  | .wordEdge, p, groups => if isWordBefore text p != isWordAt text p then [(p, groups)] else []
  | .insideWord, p, groups => if isWordBefore text p == isWordAt text p then [(p, groups)] else []
  | .seq a b, p, groups =>
    distinct keepGroups ((ends m text keepGroups a p groups).flatMap fun (q, groups) => ends m text keepGroups b q groups)
  | .alt a b, p, groups => distinct keepGroups (ends m text keepGroups a p groups ++ ends m text keepGroups b p groups)
  | .many r least most, p, groups =>
    iterate keepGroups false (ends m text keepGroups r) (text.size - p + least + 1) least most p groups
  | .few r least most, p, groups =>
    iterate keepGroups true (ends m text keepGroups r) (text.size - p + least + 1) least most p groups
  | .group n r, p, groups =>
    (ends m text keepGroups r p groups).map fun (q, inner) => (q, (n, p, q) :: inner.filter (·.1 != n))
  | .back n, p, groups =>
    match groups.lookup n with
    | none => []
    | some (a, b) =>
      if standsAt m text p (text.toList.drop a |>.take (b - a)) then [(p + (b - a), groups)] else []
  | .atomic r, p, groups => (ends m text keepGroups r p groups).take 1
  | .look true negated r, p, groups =>
    match (ends m text keepGroups r p groups).head?, negated with
    | some (_, inner), false => [(p, inner)]
    | none, true => [(p, groups)]
    | _, _ => []
  | .look false negated r, p, groups =>
    let found := (List.range (p + 1)).findSome? fun n =>
      (ends m text keepGroups r (p - n) groups).find? (·.1 = p)
    match found, negated with
    | some (_, inner), false => [(p, inner)]
    | none, true => [(p, groups)]
    | _, _ => []
  | .keep, p, groups => [(p, (0, p, p) :: groups.filter (·.1 != 0))]
  | .given n yes no, p, groups =>
    if (groups.lookup n).isSome then ends m text keepGroups yes p groups else ends m text keepGroups no p groups

/-- Whether it matters for an expression what its groups have matched. -/
def refersBack : Regex → Bool
  | .back _ | .given .. | .keep => true
  | .seq a b | .alt a b => a.refersBack || b.refersBack
  | .many r _ _ | .few r _ _ | .group _ r | .atomic r | .look _ _ r => r.refersBack
  | _ => false

/-- The longest way from a place on. -/
def longest? (r : Regex) (m : Mode) (text : Array Char) (p : Nat) : Option Way :=
  (ends m text r.refersBack r p []).foldl (fun best way =>
    match best with
    | some b => if b.1 < way.1 then some way else best
    | none => some way) none

structure Match where
  start : Nat
  stop : Nat
  groups : Captures

/-- The first match that starts at one of so many places from `p` on. -/
def searchFrom (r : Regex) (m : Mode) (text : Array Char) : Nat → Nat → Option Match
  | 0, _ => none
  | fuel + 1, p =>
    match r.longest? m text p with
    | some (q, groups) => some ⟨p, q, groups⟩
    | none => searchFrom r m text fuel (p + 1)

/-- The leftmost longest match from a place on. -/
def search (r : Regex) (m : Mode) (text : Array Char) (p : Nat) : Option Match :=
  r.searchFrom m text (text.size + 1 - p) p

/-- The part of a text that a group has matched. -/
def Match.part (found : Match) (text : Array Char) (n : Nat) : Octets :=
  let (a, b) := if n = 0 then (found.start, found.stop) else (found.groups.lookup n).getD (0, 0)
  (text.extract a b).toList

end Regex

end AlloyGrade
