import AlloyGrade.Text.Conversion

/-! Values of the pattern language: numbers, texts, and texts from outside that look like numbers. -/

namespace AlloyGrade.Utility.Awk

inductive Value where
  /-- Nothing has been assigned: an empty text and a zero. -/
  | unset
  | number (x : Float)
  | text (t : Octets)
  /-- A text from outside that is a number too. -/
  | numeral (t : Octets) (x : Float)

/-! ### Numbers -/

def ofDyadic : Dyadic.Number → Float
  | .finite negative m e =>
    let x := Float.scaleB (Float.ofNat m) e
    if negative then -x else x
  | .infinite negative => if negative then -(1.0 / 0.0) else 1.0 / 0.0
  | .nan negative =>
    let x : Float := Float.ofBits 0x7ff8000000000000
    if negative then -x else x

/-- The exact value of a number; what is none counts as negative. -/
def toDyadic (x : Float) : Dyadic.Number :=
  let bits := x.toBits
  let negative := bits >>> 63 = 1
  let exponent := ((bits >>> 52) &&& 0x7ff).toNat
  let fraction := (bits &&& 0xfffffffffffff).toNat
  if exponent = 0x7ff then (if fraction = 0 then .infinite negative else .nan true)
  else if exponent = 0 then .finite negative fraction (-1074)
  else .finite negative (fraction + Nat.pow 2 52) ((exponent : Int) - 1075)

/-- A number without its fraction; nothing for one that is not finite. -/
def whole? (x : Float) : Option Int :=
  match toDyadic x with
  | .finite negative m e =>
    let n : Nat := if 0 ≤ e then m * Nat.pow 2 e.toNat else m / Nat.pow 2 (-e).toNat
    some (if negative then -n else n)
  | _ => none

/-- A number without its fraction, kept within the words of the machine. -/
def clamped (x : Float) : Int :=
  match toDyadic x with
  | .infinite negative => if negative then -(Int.pow 2 63) else Int.pow 2 64 - 1
  | .nan _ => -(Int.pow 2 63)
  | _ => max (-(Int.pow 2 63)) (min (Int.pow 2 64 - 1) ((whole? x).getD 0))

/-- The number at the start of a text, or zero. -/
def numberOf (t : Octets) : Float :=
  match Dyadic.leading Dyadic.double t with
  | some (x, _, _) => ofDyadic x
  | none => 0

def isBlank (c : Char) : Bool := c = ' ' || (9 ≤ c.toNat && c.toNat ≤ 13)

/-- The value of a text from outside, which counts as a number if all of it is one. -/
def Value.fromOutside (t : Octets) : Value :=
  match Dyadic.leading Dyadic.double t with
  | some (x, _, rest) => if rest.all isBlank then .numeral t (ofDyadic x) else .text t
  | none => .text t

/-! ### Formats -/

/-- A number in the form of a conversion such as `%.6g`; other formats do nothing. -/
def formatted (format : Octets) (x : Float) : Octets :=
  match format with
  | '%' :: rest =>
    let flags := rest.takeWhile fun c => ['-', '+', ' ', '#', '0'].contains c
    let width := (rest.drop flags.length).takeWhile Char.isDigit
    let more := rest.drop (flags.length + width.length)
    let (precision, more) : Option Nat × Octets := match more with
      | '.' :: r =>
        let ds := r.takeWhile Char.isDigit
        (some (Octets.decimal ds), r.drop ds.length)
      | r => (none, r)
    match more with
    | letter :: after =>
      let d := { flags.foldl Conversion.withFlag Conversion.plain with width := Octets.decimal width, precision }
      if ['e', 'f', 'g', 'E', 'F', 'G'].contains letter then d.float Dyadic.double letter (toDyadic x) ++ after
      else if letter = 'd' || letter = 'i' then d.signed (clamped x) ++ after
      else format
    | [] => format
  | _ => format

/-- The text of a number: whole ones without a point, others by a format. -/
def numberText (format : Octets) (x : Float) : Octets :=
  let n := clamped x
  if Float.ofInt n == x then Octets.ofInt n else formatted format x

namespace Value

def toNumber : Value → Float
  | .unset => 0
  | .number x | .numeral _ x => x
  | .text t => numberOf t

/-- The text of a value; numbers by a format. -/
def toText (format : Octets) : Value → Octets
  | .unset => []
  | .number x => numberText format x
  | .text t | .numeral t _ => t

def holds : Value → Bool
  | .unset => false
  | .number x | .numeral _ x => x != 0
  | .text t => !t.isEmpty

def ofBool (b : Bool) : Value := .number (if b then 1 else 0)

def ofNat (n : Nat) : Value := .number (Float.ofNat n)

/-- Whether two values compare as numbers. -/
def comparesAsNumber : Value → Bool
  | .text _ => false
  | _ => true

/-- How two values compare: below, the same, above; nothing if one is no number at all. -/
def compare (format : Octets) (a b : Value) : Option Ordering :=
  if a.comparesAsNumber && b.comparesAsNumber then
    let x := a.toNumber
    let y := b.toNumber
    if x < y then some .lt else if x == y then some .eq else if y < x then some .gt else none
  else
    let s := a.toText format
    let t := b.toText format
    some (if Octets.lt s t then .lt else if s == t then .eq else .gt)

end Value

/-! ### Arrays -/

/-- A table from texts to values. The order in which its keys are listed is that of its buckets, and within one of them
what was used last comes first. -/
structure Table where
  size : Nat
  buckets : Array (List (Octets × Value))

namespace Table

def empty : Table := ⟨0, Array.replicate 64 []⟩

/-- The number that decides about the bucket of a key. -/
def hash (key : Octets) : Nat :=
  key.foldl (fun h c => (Nat.xor h c.toNat * 16777619) % Nat.pow 2 32) 2166136261

def place (t : Table) (key : Octets) : Nat := hash key % t.buckets.size

def find? (t : Table) (key : Octets) : Option Value := (t.buckets.getD (t.place key) []).lookup key

/-- Moves a key to the front of its bucket. -/
def touched (t : Table) (key : Octets) : Table :=
  let i := t.place key
  match t.buckets.getD i [] with
  | (first, v) :: rest =>
    if first == key then t
    else match rest.lookup key with
      | some found => { t with buckets := t.buckets.set! i ((key, found) :: (first, v) :: rest.filter (·.1 != key)) }
      | none => t
  | [] => t

/-- How long the buckets may become on average. -/
def crowded : Nat := 12

/-- Twice as many buckets, each key in the order that it had. -/
def doubled (t : Table) : Table :=
  let n := t.buckets.size
  let keep (high : Bool) (bucket : List (Octets × Value)) : List (Octets × Value) :=
    bucket.filter fun (key, _) => decide (n ≤ hash key % (2 * n)) == high
  { t with buckets := t.buckets.map (keep false) ++ t.buckets.map (keep true) }

def insert (t : Table) (key : Octets) (v : Value) : Table :=
  let i := t.place key
  let bucket := t.buckets.getD i []
  if (bucket.lookup key).isSome then
    { t with buckets := t.buckets.set! i ((key, v) :: bucket.filter (·.1 != key)) }
  else
    let t : Table := ⟨t.size + 1, t.buckets.set! i ((key, v) :: bucket)⟩
    if crowded * t.buckets.size < t.size then t.doubled else t

def erase (t : Table) (key : Octets) : Table :=
  let i := t.place key
  let bucket := t.buckets.getD i []
  if (bucket.lookup key).isSome then ⟨t.size - 1, t.buckets.set! i (bucket.filter (·.1 != key))⟩ else t

def keys (t : Table) : List Octets := t.buckets.toList.flatMap fun bucket => bucket.map (·.1)

end Table

end AlloyGrade.Utility.Awk
