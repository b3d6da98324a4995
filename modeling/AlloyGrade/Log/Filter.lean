import AlloyGrade.Log.Event
import AlloyGrade.Log.Expression
import AlloyGrade.Text.Alphanumeric

/-! Which events are logged. A filter is a list of directives, each of which names a threshold for the events
whose target starts with a given text and that have given fields. The most specific directive that fits decides. -/

namespace AlloyGrade

/-- Events up to a level, or none at all. -/
abbrev Threshold := Option Level

namespace Threshold

def rank : Level → Nat
  | .error => 1
  | .warn => 2
  | .info => 3
  | .debug => 4
  | .trace => 5

def admits (t : Threshold) (level : Level) : Bool :=
  match t with
  | none => false
  | some highest => rank level ≤ rank highest

def named : List (String × Threshold) :=
  [("off", none), ("error", some .error), ("warn", some .warn), ("info", some .info), ("debug", some .debug),
    ("trace", some .trace)]

/-- The number that decimal digits spell, perhaps after a plus sign. -/
def number? (cs : List Char) : Option Nat :=
  let digits := match cs with
    | '+' :: rest => rest
    | _ => cs
  if !digits.isEmpty && digits.all Char.isDigit then
    some (digits.foldl (fun n c => 10 * n + (c.toNat - '0'.toNat)) 0)
  else none

/-- A threshold by name, in any case, or by number. -/
def read? (cs : List Char) : Option Threshold :=
  match number? cs with
  | some n => (named[n]?).map (·.2)
  | none => named.lookup (String.ofList (cs.map Char.toLower))

/-- The threshold behind an equals sign; nothing there means everything. -/
def readOrAll? (cs : List Char) : Option Threshold := if cs.isEmpty then some (some .trace) else read? cs

end Threshold

/-- A threshold for the events whose target starts with `target`, if there is one, and that have all the
`fields`. -/
structure Directive where
  target : Option (List Char)
  fields : List (List Char)
  threshold : Threshold
deriving DecidableEq, Repr

namespace Directive

/-! ### Reading -/

/-- The characters that a directive may start with. -/
def opens (c : Char) : Bool := c == '-' || c == ':' || c == '_' || Text.Alphanumeric.holds c

/-- Digits with at most one point among them, and perhaps an exponent behind. -/
def isNumber (cs : List Char) : Bool :=
  let rest := cs.dropWhile Char.isDigit
  let (fraction, rest) := match rest with
    | '.' :: more => (more.takeWhile Char.isDigit, more.dropWhile Char.isDigit)
    | _ => ([], rest)
  let digits := cs.takeWhile Char.isDigit ++ fraction
  let exponent := match rest with
    | 'e' :: '-' :: more | 'E' :: '-' :: more | 'e' :: '+' :: more | 'E' :: '+' :: more => some more
    | 'e' :: more | 'E' :: more => some more
    | _ => none
  !digits.isEmpty && match exponent with
    | some more => !more.isEmpty && more.all Char.isDigit
    | none => rest.isEmpty

/-- A number with a plus sign in front, which no expression has there. -/
def isSignedNumber : List Char → Bool
  | '+' :: cs => isNumber cs || ["inf", "infinity", "nan"].contains (String.ofList (cs.map Char.toLower))
  | _ => false

/-- The name of a field, and whether a value is asked of it; a value has to be a number or an expression. -/
def field? (cs : List Char) : Option (List Char × Bool) :=
  let name := cs.takeWhile (· != '=')
  match cs.drop name.length with
  | [] => if name.isEmpty then none else some (name, false)
  | _ :: rest =>
    let value := rest.takeWhile (· != '=')
    if isSignedNumber value || Log.Expression.isWellFormed value then some (name, true) else none

/-- The number of octets of a text. -/
def size (cs : List Char) : Nat := (cs.map Char.utf8Size).foldl (· + ·) 0

/-- The text from a place on, where places count octets; none inside a character. -/
def from? : Nat → List Char → Option (List Char)
  | 0, cs => some cs
  | _ + 1, [] => none
  | n + 1, c :: rest => if c.utf8Size ≤ n + 1 then from? (n + 1 - c.utf8Size) rest else none
termination_by _ cs => cs.length

/-- The text between two places. -/
def between? (cs : List Char) (start stop : Nat) : Option (List Char) := do
  let tail ← from? start cs
  let after ← from? (stop - start) tail
  return tail.take (tail.length - after.length)

/-- The threshold behind the closing bracket, which is in front of the given place. -/
def bracketEnd? (cs : List Char) (place : Nat) : List Char → Option Threshold
  | [] => some (some .trace)
  | '=' :: _ => (from? (place + 1) cs).bind Threshold.readOrAll?
  | _ => none

/-- What stands in brackets, from the given place on: the name of a span, and a field. No event is inside a span,
and no field's value is looked at, so that such a directive admits nothing, but it has to be well formed. -/
def bracket? (cs : List Char) (target : Option (List Char)) (place : Nat) (shown : List Char) :
    Option (List Directive) :=
  let span := shown.takeWhile fun c => c != ']' && c != '\x7b'
  let spanEnd := place + size span
  match shown.drop span.length with
  | ']' :: rest => do
    let _ ← between? cs place spanEnd
    let _ ← bracketEnd? cs (spanEnd + 1) rest
    return []
  | '\x7b' :: rest =>
    let field := rest.takeWhile (· != '\x7d')
    let fieldEnd := spanEnd + 1 + size field
    match rest.drop (field.length + 1) with
    | ']' :: rest => do
      let span ← between? cs place spanEnd
      let (name, valued) ← field? (← between? cs (spanEnd + 1) fieldEnd)
      let threshold ← bracketEnd? cs (fieldEnd + 2) rest
      return if span.isEmpty && !valued then [⟨target, [name], threshold⟩] else []
    | _ => none
  | _ => none

/-- Reads a threshold, a target, or a target with its threshold or bracket. Blanks in front are passed over to
find the parts, but the parts are cut out of the text as it stands. -/
def read? (cs : List Char) : Option (List Directive) :=
  let shown := (Text.skipBlanks (Text.skipBlanks cs).reverse).reverse
  match shown with
  | [] => none
  | first :: rest =>
    if first = '[' then bracket? cs none 1 rest
    else if !opens first then none
    else
      let target := shown.takeWhile fun c => c != '=' && c != '['
      let cut := size target
      match shown.drop target.length with
      | '=' :: _ => do
        let target ← between? cs 0 cut
        let threshold ← Threshold.readOrAll? (← from? (cut + 1) cs)
        return [⟨some target, [], threshold⟩]
      | '[' :: rest => (between? cs 0 cut).bind fun target => bracket? cs (some target) (cut + 1) rest
      | _ =>
        match Threshold.read? cs with
        | some t => some [⟨none, [], t⟩]
        | none => some [⟨some cs, [], some .trace⟩]

/-! ### Fitting -/

def fits (d : Directive) (e : Event) : Bool :=
  (d.target.getD []).isPrefixOf e.target.toList &&
    d.fields.all fun name => name = "message".toList || e.fields.any fun (n, _) => n.toList = name

/-- The order of texts by their characters. -/
def precedes : List Char → List Char → Bool
  | _, [] => false
  | [], _ :: _ => true
  | a :: as, b :: bs => a < b || (a == b && precedes as bs)

/-- A directive without a target is less specific than any with one, then the longer target counts, then the
number of fields; between equals the later target and the later field in the alphabet, and the later directive. -/
def yieldsTo (a b : Directive) : Bool :=
  let length (d : Directive) : Nat := (d.target.map fun t => (Bytes.ofString (String.ofList t)).length + 1).getD 0
  if length a ≠ length b then length a < length b
  else if a.fields.length ≠ b.fields.length then a.fields.length < b.fields.length
  else if a.target ≠ b.target then precedes (a.target.getD []) (b.target.getD [])
  else a.fields = b.fields || precedes a.fields.flatten b.fields.flatten

end Directive

structure Filter where
  directives : List Directive
deriving DecidableEq, Repr

namespace Filter

/-- Everything up to a level. -/
def upTo (level : Level) : Filter := ⟨[⟨none, [], some level⟩]⟩

/-- The parts between commas. -/
def parts : List Char → List (List Char)
  | [] => [[]]
  | c :: rest =>
    match parts rest with
    | [] => [[c]]
    | part :: more => if c = ',' then [] :: part :: more else (c :: part) :: more

/-- Reads a list of directives; one without any admits errors only, and one bad directive spoils it all. -/
def read? (s : String) : Option Filter := do
  let directives ← ((parts s.toList).filter (!·.isEmpty)).mapM Directive.read?
  if directives.isEmpty then return upTo .error else return ⟨directives.flatten⟩

/-- The directive that decides about an event. -/
def deciding (f : Filter) (e : Event) : Option Directive :=
  (f.directives.filter (·.fits e)).foldl
    (fun best d => match best with
      | none => some d
      | some b => if b.yieldsTo d then some d else some b)
    none

def admits (f : Filter) (e : Event) : Bool :=
  match f.deciding e with
  | none => false
  | some d => d.threshold.admits e.level

end Filter

end AlloyGrade
