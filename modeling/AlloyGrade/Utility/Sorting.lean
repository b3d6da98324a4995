import AlloyGrade.Decimal.Dyadic
import AlloyGrade.Utility.Input

/-! The utility that sorts lines, by the whole line or by keys within it. -/

namespace AlloyGrade.Utility

open Process Tool

namespace Sorting

/-- How two texts are compared. -/
structure Manner where
  blanks : Bool
  dictionary : Bool
  foldCase : Bool
  printable : Bool
  numeric : Bool
  general : Bool
  human : Bool
  month : Bool
  version : Bool
  reverse : Bool
deriving DecidableEq

namespace Manner

def plain : Manner := ⟨false, false, false, false, false, false, false, false, false, false⟩

def withLetter (m : Manner) : Char → Manner
  | 'b' => { m with blanks := true }
  | 'd' => { m with dictionary := true }
  | 'f' => { m with foldCase := true }
  | 'i' => { m with printable := true }
  | 'n' => { m with numeric := true }
  | 'g' => { m with general := true }
  | 'h' => { m with human := true }
  | 'M' => { m with month := true }
  | 'V' => { m with version := true }
  | 'r' => { m with reverse := true }
  | _ => m

def letters : List Char := ['b', 'd', 'f', 'i', 'n', 'g', 'h', 'M', 'V', 'r']

end Manner

def isBlank (c : Char) : Bool := c = ' ' || c = '\t' || c = '\n'

/-- A decimal number at the start of a text, as a sign, its whole digits without zeros in front, and its fraction
without zeros behind. -/
def leadingNumber (text : Octets) : Bool × Octets × Octets × Octets :=
  let text := text.dropWhile isBlank
  let (negative, rest) := match text with
    | '-' :: rest => (true, rest)
    | _ => (false, text)
  let whole := rest.takeWhile Char.isDigit
  let rest := rest.drop whole.length
  let (fraction, rest) := match rest with
    | '.' :: more =>
      let ds := more.takeWhile Char.isDigit
      (ds, more.drop ds.length)
    | _ => ([], rest)
  let whole := whole.dropWhile (· == '0')
  let fraction := (fraction.reverse.dropWhile (· == '0')).reverse
  (negative && !(whole.isEmpty && fraction.isEmpty), whole, fraction, rest)

def order (a b : Octets) : Ordering := if a == b then .eq else if Octets.lt a b then .lt else .gt

def unsignedOrder (a b : Octets × Octets) : Ordering :=
  (compare a.1.length b.1.length).then ((order a.1 b.1).then (order a.2 b.2))

def numericOrder (x y : Octets) : Ordering :=
  let (na, wa, fa, _) := leadingNumber x
  let (nb, wb, fb, _) := leadingNumber y
  match na, nb with
  | true, false => .lt
  | false, true => .gt
  | false, false => unsignedOrder (wa, fa) (wb, fb)
  | true, true => (unsignedOrder (wa, fa) (wb, fb)).swap

/-- The rank of a unit behind a number. -/
def unitRank (rest : Octets) : Nat :=
  match rest.head? with
  | some c => ((['K', 'M', 'G', 'T', 'P', 'E', 'Z', 'Y'].findIdx? (· == (if c = 'k' then 'K' else c))).map (· + 1)).getD 0
  | none => 0

def humanOrder (x y : Octets) : Ordering :=
  let rank (t : Octets) : Int :=
    let (negative, whole, fraction, rest) := leadingNumber t
    let r : Int := if whole.isEmpty && fraction.isEmpty then 0 else unitRank rest
    if negative then -r else r
  (compare (rank x) (rank y)).then (numericOrder x y)

def generalValue (text : Octets) : Option (Int × Int) :=
  match Dyadic.leading Dyadic.extended text with
  | some (.finite negative m e, _, _) => some (if negative then -(m : Int) else m, e)
  | some (.infinite negative, _, _) => some (if negative then -1 else 1, 20000)
  | _ => none

def generalOrder (x y : Octets) : Ordering :=
  match generalValue x, generalValue y with
  | none, none => .eq
  | none, some _ => .lt
  | some _, none => .gt
  | some (m, e), some (n, f) =>
    let low := min e f
    compare (m * Nat.pow 2 (e - low).toNat) (n * Nat.pow 2 (f - low).toNat)

def months : List String := ["JAN", "FEB", "MAR", "APR", "MAY", "JUN", "JUL", "AUG", "SEP", "OCT", "NOV", "DEC"]

def monthRank (text : Octets) : Nat :=
  let name := ((text.dropWhile isBlank).take 3).map Char.toUpper
  ((months.findIdx? (·.toList == name)).map (· + 1)).getD 0

/-- The rank of a character among version texts: a tilde first, then the end, then letters, then all others. -/
def versionRank (c : Option Char) : Int :=
  match c with
  | none => 0
  | some c => if c = '~' then -1 else if c.isDigit then 0 else if c.isAlpha then c.toNat else c.toNat + 256

/-- Compares texts with numbers in them: digits by their number, all else by rank. -/
def versionOrder : Nat → Octets → Octets → Ordering
  | 0, _, _ => .eq
  | fuel + 1, a, b =>
    if a.isEmpty && b.isEmpty then .eq
    else
      let notDigit (c : Char) : Bool := !c.isDigit
      let ta := a.takeWhile notDigit
      let tb := b.takeWhile notDigit
      let size := max ta.length tb.length
      let ranks (t : Octets) : List Int := (List.range size).map fun i => versionRank (t[i]?)
      let first := ((ranks ta).zip (ranks tb)).foldl (fun o (x, y) => o.then (compare x y)) Ordering.eq
      if first != .eq then first
      else
        let ra := a.drop ta.length
        let rb := b.drop tb.length
        let da := ra.takeWhile Char.isDigit
        let db := rb.takeWhile Char.isDigit
        (compare (Octets.decimal da) (Octets.decimal db)).then
          (versionOrder fuel (ra.drop da.length) (rb.drop db.length))

def textOrder (m : Manner) (x y : Octets) : Ordering :=
  let seen (t : Octets) : Octets :=
    let t := if m.dictionary then t.filter fun c => c.isAlphanum || c = ' ' || c = '\t' else t
    let t := if m.printable then t.filter isPrintable else t
    if m.foldCase then t.map Char.toUpper else t
  order (seen x) (seen y)

def Manner.compare (m : Manner) (x y : Octets) : Ordering :=
  let o :=
    if m.numeric then numericOrder x y
    else if m.general then generalOrder x y
    else if m.human then humanOrder x y
    else if m.month then Ord.compare (monthRank x) (monthRank y)
    else if m.version then versionOrder (x.length + y.length + 1) x y
    else textOrder m x y
  if m.reverse then o.swap else o

/-! ### Keys -/

/-- A part of the line: from a character of a field up to a character of a field. -/
structure Key where
  field : Nat
  char : Nat
  skipsStart : Bool
  stop : Option (Nat × Nat)
  skipsStop : Bool
  manner : Manner
  ownManner : Bool

/-- The place where a field begins. -/
def fieldStart (separator : Option Char) : Nat → Octets → Nat → Nat
  | 0, _, p => p
  | n + 1, line, p =>
    let rest := line.drop p
    match separator with
    | some c =>
      let size := (rest.takeWhile (· ≠ c)).length
      if size = rest.length then line.length else fieldStart separator n line (p + size + 1)
    | none =>
      let blanks := (rest.takeWhile isBlank).length
      let word := ((rest.drop blanks).takeWhile (!isBlank ·)).length
      fieldStart separator n line (p + blanks + word)

/-- The place where a field ends. -/
def fieldEnd (separator : Option Char) (field : Nat) (line : Octets) : Nat :=
  let p := fieldStart separator (field - 1) line 0
  let rest := line.drop p
  match separator with
  | some c => p + (rest.takeWhile (· ≠ c)).length
  | none =>
    let blanks := (rest.takeWhile isBlank).length
    p + blanks + ((rest.drop blanks).takeWhile (!isBlank ·)).length

def Key.part (k : Key) (separator : Option Char) (line : Octets) : Octets :=
  let p := fieldStart separator (k.field - 1) line 0
  let p := if k.skipsStart then p + ((line.drop p).takeWhile isBlank).length else p
  let start := min line.length (p + k.char - 1)
  let stop := match k.stop with
    | none => line.length
    | some (field, 0) => fieldEnd separator field line
    | some (field, char) =>
      let q := fieldStart separator (field - 1) line 0
      let q := if k.skipsStop then q + ((line.drop q).takeWhile isBlank).length else q
      min line.length (q + char)
  (line.drop start).take (stop - start)

/-- A number in the specification of a key. -/
def keyNumber (spec : Octets) (what : String) (text : Octets) : Tool (Nat × Octets) := do
  let ds := text.takeWhile Char.isDigit
  if ds.isEmpty then
    fail 2 (("invalid number " ++ what ++ ": invalid count at start of ").toList ++ textQuoted (if text.isEmpty then text else spec))
  return (Octets.decimal ds, text.drop ds.length)

/-- The specification of a key, such as `2.1n,3`. -/
def key (spec : Octets) : Tool Key := do
  let isLetter (c : Char) : Bool := Manner.letters.contains c || c = 'R'
  let (field, rest) ← keyNumber spec "at field start" spec
  if field = 0 then fail 2 ("field number is zero: invalid field specification ".toList ++ textQuoted spec)
  let (char, rest) ← match rest with
    | '.' :: more => do
      let (n, rest) ← keyNumber spec "after '.'" more
      if n = 0 then fail 2 ("character offset is zero: invalid field specification ".toList ++ textQuoted spec)
      pure (n, rest)
    | _ => pure (1, rest)
  let first := rest.takeWhile isLetter
  let rest := rest.drop first.length
  let (stop, second, rest) ← match rest with
    | ',' :: more => do
      let (n, rest) ← keyNumber spec "after ','" more
      if n = 0 then fail 2 ("field number is zero: invalid field specification ".toList ++ textQuoted spec)
      let (c, rest) ← match rest with
        | '.' :: more => keyNumber spec "after '.'" more
        | _ => pure (0, rest)
      let letters := rest.takeWhile isLetter
      pure (some (n, c), letters, rest.drop letters.length)
    | _ => pure (none, [], rest)
  unless rest.isEmpty do fail 2 ("stray character in field spec: invalid field specification ".toList ++ textQuoted spec)
  let letters := first ++ second
  return {
    field, char, stop
    skipsStart := first.contains 'b'
    skipsStop := second.contains 'b'
    manner := letters.foldl Manner.withLetter .plain
    ownManner := !letters.isEmpty }

/-- What is compared, in order. -/
structure Plan where
  keys : List Key
  global : Manner
  separator : Option Char
  stable : Bool
  unique : Bool

def Plan.compare (p : Plan) (a b : Octets) : Ordering :=
  let byKeys := p.keys.foldl (fun o k => match o with
    | .eq => k.manner.compare (k.part p.separator a) (k.part p.separator b)
    | o => o) Ordering.eq
  let whole : Ordering := if p.global.blanks then p.global.compare (a.dropWhile isBlank) (b.dropWhile isBlank)
    else p.global.compare a b
  let first := if p.keys.isEmpty then whole else byKeys
  if first != .eq || p.stable || p.unique then first
  else if p.global.reverse then order b a else order a b

def options : Options :=
  { Options.of "bcCdfghiMmnRrsuVz" "koStT" [("ignore-leading-blanks", 'b'), ("check", 'c'), ("dictionary-order", 'd'),
      ("ignore-case", 'f'), ("general-numeric-sort", 'g'), ("human-numeric-sort", 'h'), ("ignore-nonprinting", 'i'), ("month-sort", 'M'),
      ("merge", 'm'), ("numeric-sort", 'n'), ("reverse", 'r'), ("stable", 's'), ("unique", 'u'), ("version-sort", 'V'),
      ("zero-terminated", 'z'), ("key", 'k'), ("output", 'o'), ("field-separator", 't')] with misuse := 2 }

/-- The first line that is out of order. -/
def disorder? (bad : Octets → Octets → Bool) : List Octets → Nat → Option (Nat × Octets)
  | a :: b :: rest, n => if bad a b then some (n + 1, b) else disorder? bad (b :: rest) (n + 1)
  | _, _ => none

/-- Merges lists by taking the smallest of their first lines again and again. -/
def mergeTwo (le : Octets → Octets → Bool) : Nat → List Octets → List Octets → List Octets
  | 0, xs, ys => xs ++ ys
  | _, [], ys => ys
  | _, xs, [] => xs
  | fuel + 1, x :: xs, y :: ys =>
    if le x y then x :: mergeTwo le fuel xs (y :: ys) else y :: mergeTwo le fuel (x :: xs) ys

/-- Leaves out lines that equal the one before. -/
def firsts (same : Octets → Octets → Bool) : List Octets → List Octets
  | a :: b :: rest => if same a b then firsts same (a :: rest) else a :: firsts same (b :: rest)
  | ls => ls
termination_by ls => ls.length

end Sorting

open Sorting in
def sort : Body := fun args => do
  let (opts, names) ← Sorting.options.find args
  let global := opts.foldl (fun m (c, _) => m.withLetter c) Manner.plain
  let separator ← match Options.last? opts 't' with
    | none => pure none
    | some [c] => pure (some c)
    | some [] => fail 2 "empty tab".toList
    | some text => if text == ['\\', '0'] then pure (some '\x00') else fail 2 ("multi-character tab ".toList ++ textQuoted text)
  let keys ← (opts.filter (·.1 == 'k')).mapM fun (_, spec) => key spec
  let keys := keys.map fun k =>
    if k.ownManner then k else { k with manner := global, skipsStart := k.skipsStart || global.blanks, skipsStop := k.skipsStop || global.blanks }
  let plan : Plan := ⟨keys, global, separator, Options.has opts 's', Options.has opts 'u'⟩
  let mark := if Options.has opts 'z' then '\x00' else '\n'
  let names := orInput names
  let lists ← names.mapM fun name => do
    match ← openInput name with
    | .error e => fail 2 ("cannot read: ".toList ++ because (nameShown name) e)
    | .ok fd =>
      match ← readAll fd with
      | .error e => fail 2 ("read failed: ".toList ++ because (nameShown name) e)
      | .ok text =>
        closeInput name fd
        return pieces mark text
  let le (a b : Octets) : Bool := plan.compare a b != .gt
  if Options.has opts 'c' || Options.has opts 'C' then
    let bad (a b : Octets) : Bool := if plan.unique then plan.compare a b != .lt else plan.compare a b == .gt
    match disorder? bad lists.flatten 1 with
    | none => exit 0
    | some (n, line) =>
      unless Options.has opts 'C' do
        warn (names.headD [] ++ ":".toList ++ Octets.ofNat n ++ ": disorder: ".toList ++ line)
      exit 1
  let sorted := if Options.has opts 'm' then
      lists.foldl (fun acc ls => mergeTwo le (acc.length + ls.length + 1) acc ls) []
    else lists.flatten.mergeSort le
  let sorted := if plan.unique then firsts (fun a b => plan.compare a b == .eq) sorted else sorted
  let text := sorted.flatMap (· ++ [mark])
  match Options.last? opts 'o' with
  | none => put text
  | some target =>
    match ← open_ target .writing with
    | .ok fd => writeTo fd text
    | .error e => fail 2 ("open failed: ".toList ++ because (nameShown target) e)

end AlloyGrade.Utility
