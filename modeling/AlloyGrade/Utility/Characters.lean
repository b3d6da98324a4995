import AlloyGrade.Text.RegexSyntax
import AlloyGrade.Utility.Input
import AlloyGrade.Utility.Write

/-! The utility that exchanges, removes and squeezes characters. -/

namespace AlloyGrade.Utility

open Process Tool

namespace Characters

/-- A part of a set as it is written. -/
inductive Part where
  | chars (cs : Octets)
  /-- A character as often as it takes. -/
  | filling (c : Char)

def allOctets : Octets := (List.range 256).map Char.ofNat

/-- The characters of a text with its escapes replaced; a flag marks those that were escaped. -/
def unescaped : Nat → Octets → List (Char × Bool)
  | 0, _ => []
  | _, [] => []
  | fuel + 1, '\\' :: c :: rest =>
    if isOctalDigit c then
      let ds := ((c :: rest).take 3).takeWhile isOctalDigit
      let ds := if 255 < numberIn 8 ds then ds.take 2 else ds
      (Octets.octet (numberIn 8 ds), true) :: unescaped fuel ((c :: rest).drop ds.length)
    else match controlLetter? c with
      | some meant => (if c = 'e' then 'e' else meant, true) :: unescaped fuel rest
      | none => (c, true) :: unescaped fuel rest
  | fuel + 1, c :: rest => (c, false) :: unescaped fuel rest

/-- The text up to a mark and a bracket. -/
def closing (mark : Char) : List (Char × Bool) → Octets → Option (Octets × List (Char × Bool))
  | (c, false) :: (']', false) :: rest, acc => if c = mark then some (acc.reverse, rest) else closing mark ((']', false) :: rest) (c :: acc)
  | (c, _) :: rest, acc => closing mark rest (c :: acc)
  | [], _ => none

def classOctets (name : Octets) : Option Octets :=
  (Regex.className? (String.ofList name)).map fun ranges =>
    allOctets.filter fun c => ranges.any fun (lo, hi) => lo ≤ c && c ≤ hi

/-- The parts of a set. -/
def parts : Nat → List (Char × Bool) → Tool (List Part)
  | 0, _ => return []
  | _, [] => return []
  | fuel + 1, ('[', false) :: (':', false) :: rest => do
    match closing ':' rest [] with
    | some (name, rest) =>
      match classOctets name with
      | some cs => return .chars cs :: (← parts fuel rest)
      | none => fail 1 ("invalid character class ".toList ++ textQuoted name)
    | none => return .chars ['['] :: (← parts fuel ((':', false) :: rest))
  | fuel + 1, ('[', false) :: ('=', false) :: (c, _) :: ('=', false) :: (']', false) :: rest => do
    return .chars [c] :: (← parts fuel rest)
  | fuel + 1, ('[', false) :: (c, _) :: ('*', false) :: rest => do
    let ds := (rest.takeWhile fun (d, e) => d.isDigit && !e).map (·.1)
    match rest.drop ds.length with
    | (']', false) :: rest =>
      let n := if ds.head? = some '0' then numberIn 8 ds else Octets.decimal ds
      return (if n = 0 then .filling c else .chars (List.replicate n c)) :: (← parts fuel rest)
    | _ => return .chars ['['] :: (← parts fuel ((c, false) :: ('*', false) :: rest))
  | fuel + 1, (lo, _) :: ('-', false) :: (hi, e) :: rest => do
    if hi < lo then
      fail 1 ("range-endpoints of ".toList ++ textQuoted [lo, '-', hi] ++ " are in reverse collating sequence order".toList)
    let _ := e
    return .chars (allOctets.filter fun c => lo ≤ c && c ≤ hi) :: (← parts fuel rest)
  | fuel + 1, (c, _) :: rest => do return .chars [c] :: (← parts fuel rest)

def setParts (text : Octets) : Tool (List Part) :=
  let cs := unescaped (text.length + 1) text
  parts (cs.length + 1) cs

/-- The characters of a set that has to reach a length. -/
def expanded (ps : List Part) (length : Nat) : Octets :=
  let fixed := (ps.map fun p => match p with
    | .chars cs => cs.length
    | .filling _ => 0).foldl (· + ·) 0
  ps.flatMap fun p => match p with
    | .chars cs => cs
    | .filling c => List.replicate (length - fixed) c

/-- Leaves out characters of a set that repeat the one before. -/
def squeezed (set : Octets) : Octets → Option Char → Octets
  | [], _ => []
  | c :: rest, last => if last = some c && set.contains c then squeezed set rest last else c :: squeezed set rest (some c)

/-- Passes what comes in through a change that remembers the last character. -/
def filter (change : Octets → Octets) (squeeze : Option Octets) : Nat → Option Char → Tool Unit
  | 0, _ => return ()
  | fuel + 1, last => do
    match ← ask (.read 0 65536) with
    | .ok [] => return ()
    | .error e => fail 1 ("read error: ".toList ++ (Errno.text e).toList)
    | .ok piece =>
      let changed := change piece
      let shown := match squeeze with
        | some set => squeezed set changed last
        | none => changed
      put shown
      flush
      if (← get).lost.isSome then finish
      filter change squeeze fuel (if changed.isEmpty then last else changed.getLast?)

end Characters

open Characters in
def tr : Body := fun args => do
  let (opts, sets) ← { Options.of "cCdst" "" [("complement", 'c'), ("delete", 'd'), ("squeeze-repeats", 's'), ("truncate-set1", 't')] with
    inOrder := true }.find args
  let has := Options.has opts
  let complement := has 'c' || has 'C'
  let both := has 'd' == has 's'
  let least := if both then 2 else 1
  let most := if has 'd' && !has 's' then 1 else 2
  match sets with
  | [] => misuse 1 "missing operand".toList
  | [one] =>
    if 1 < least then
      warn ("missing operand after ".toList ++ textQuoted one)
      complain (if has 's' then "Two strings must be given when both deleting and squeezing repeats.\n"
        else "Two strings must be given when translating.\n").toList
      usage 1
  | _ => pure ()
  if most < sets.length then
    warn ("extra operand ".toList ++ textQuoted ((sets.drop most).headD []))
    if sets.length = 2 then complain "Only one string may be given when deleting without squeezing repeats.\n".toList
    usage 1
  let first ← setParts (sets.headD [])
  let set1 := expanded first 0
  let set1 := if complement then allOctets.filter (!set1.contains ·) else set1
  match sets[1]? with
  | none =>
    if has 'd' then filter (fun cs => cs.filter (!set1.contains ·)) none patience none
    else filter (fun cs => cs) (some set1) patience none
  | some text =>
    let set2 := expanded (← setParts text) set1.length
    if has 'd' then filter (fun cs => cs.filter (!set1.contains ·)) (some set2) patience none
    else
      if set2.isEmpty && !has 't' then fail 1 "when not truncating set1, string2 must be non-empty".toList
      let set1 := if has 't' then set1.take set2.length else set1
      let fill := set2.getLast?.getD '\x00'
      let table : Array Char := (set1.zipIdx.foldl (fun (t : Array Char) (c, i) =>
        t.setIfInBounds c.toNat ((set2[i]?).getD fill)) allOctets.toArray)
      filter (fun cs => cs.map fun c => (table[c.toNat]?).getD c) (if has 's' then some set2 else none) patience none

end AlloyGrade.Utility
