import AlloyGrade.Json.Lexer

/-! Readers for typed values. A record is read from an object, whose members may come in any order among
others that are passed over, or from an array that lists the values in declaration order. -/

namespace AlloyGrade.Json

variable {α σ : Type}

/-- How a double that was not expected is shown. -/
def floatLayout : Decimal.Layout := ⟨-5, 15⟩

def mismatch (found expected : String) : ReadError :=
  .data ("invalid type: " ++ found ++ ", expected " ++ expected)

def Number.shown : Number → String
  | .unsigned n => "integer `" ++ toString n ++ "`"
  | .negative n => "integer `" ++ toString n ++ "`"
  | .float x => "floating point `" ++ floatLayout.render x ++ "`"

/-- The next value is not of the expected kind: what it is goes into the message. -/
def unexpected (expected : String) : Reader α := do
  let c ← peekToken
  if c = 'n' then
    letters "null".toList
    Scan.fail (mismatch "null" expected)
  else if c = 't' then
    letters "true".toList
    Scan.fail (mismatch "boolean `true`" expected)
  else if c = 'f' then
    letters "false".toList
    Scan.fail (mismatch "boolean `false`" expected)
  else if c = '-' ∨ c.isDigit then
    let n ← number
    Scan.fail (mismatch n.shown expected)
  else if c = '"' then
    let s ← string
    Scan.fail (mismatch ("string " ++ Text.Quoted.text s) expected)
  else if c = '[' then Scan.fail (mismatch "sequence" expected)
  else if c = '\x7b' then Scan.fail (mismatch "map" expected)
  else Scan.fail .malformed

/-! ### Single values -/

/-- The number itself, if it is whole and between zero and `top`. -/
def Number.upTo (top : Nat) (expected : String) : Number → Reader Nat
  | .unsigned n =>
    if n ≤ top then return n
    else Scan.fail (.data ("invalid value: " ++ (unsigned n).shown ++ ", expected " ++ expected))
  | .negative n => Scan.fail (.data ("invalid value: " ++ (negative n).shown ++ ", expected " ++ expected))
  | .float x => Scan.fail (mismatch (float x).shown expected)

/-- A whole number between zero and `top`. -/
def natural (top : Nat) (expected : String) : Reader Nat := do
  let c ← peekToken
  if c = '-' ∨ c.isDigit then (← number).upTo top expected else unexpected expected

def text (expected : String) : Reader String := do
  if (← peekToken) = '"' then string else unexpected expected

/-- A value, or `null` for none. -/
def nullable (value : Reader α) : Reader (Option α) := do
  skipSpace
  if (← Scan.peek?) = some 'n' then
    letters "null".toList
    return none
  else return some (← value)

def colon : Reader Unit := do
  if (← peekToken) = ':' then Scan.skip else Scan.fail .malformed

/-! ### Records -/

/-- A member of a record that is being collected in `σ`. -/
structure Member (σ : Type) where
  name : String
  seen : σ → Bool
  /-- Reads the value and stores it. -/
  store : σ → Reader σ
  /-- Has a default, and may be left out. -/
  optional : Bool

/-- A record type: what it is called, its members in declaration order, and how a complete collection
becomes a value. -/
structure Record (σ α : Type) where
  label : String
  members : List (Member σ)
  start : σ
  finish : σ → Option α

/-- The name of the next member, or nothing where the object closes. -/
def nextName (first : Bool) : Reader (Option String) := do
  let c ← peekToken
  if c = '\x7d' then return none
  else if c = ',' ∧ !first then
    Scan.skip
    if (← peekToken) = '"' then return some (← string) else Scan.fail .malformed
  else if c = '"' ∧ first then return some (← string)
  else Scan.fail .malformed

/-- Collects members up to the closing brace, which stays. -/
def Record.collect (r : Record σ α) : Nat → Bool → σ → Reader σ
  | 0, _, _ => Scan.fail .malformed
  | fuel + 1, first, s => do
    match ← nextName first with
    | none => return s
    | some name =>
      match r.members.find? (·.name == name) with
      | none =>
        colon
        skipValue
        r.collect fuel false s
      | some m =>
        if m.seen s then Scan.fail (.data ("duplicate field `" ++ name ++ "`"))
        else
          colon
          r.collect fuel false (← m.store s)

/-- The first member that has to be there and is not. -/
def Record.missing? (r : Record σ α) (s : σ) : Option String :=
  (r.members.find? fun m => !m.seen s && !m.optional).map (·.name)

def Record.complete (r : Record σ α) (s : σ) : Reader α :=
  match r.missing? s with
  | some name => Scan.fail (.data ("missing field `" ++ name ++ "`"))
  | none =>
    match r.finish s with
    | some a => return a
    | none => Scan.fail .malformed

/-- Another element follows in the array. -/
def nextElement (first : Bool) : Reader Bool := do
  let c ← peekToken
  if c = ']' then return false
  else if c = ',' ∧ !first then
    Scan.skip
    if (← peekToken) = ']' then Scan.fail .malformed else return true
  else if first then return true
  else Scan.fail .malformed

/-- Reads elements into the given members, `count` of which are already filled. -/
def Record.fill (r : Record σ α) : List (Member σ) → Nat → Bool → σ → Reader σ
  | [], _, _, s => return s
  | m :: ms, count, first, s => do
    if ← nextElement first then r.fill ms (count + 1) false (← m.store s)
    else if m.optional then r.fill ms (count + 1) first s
    else Scan.fail (.data ("invalid length " ++ toString count ++ ", expected " ++ r.label ++ " with " ++
      toString r.members.length ++ " elements"))

def Record.read (r : Record σ α) : Reader α := do
  let c ← peekToken
  if c = '[' then
    Scan.skip
    let a ← r.complete (← r.fill r.members 0 true r.start)
    if (← peekToken) = ']' then
      Scan.skip
      return a
    else Scan.fail .malformed
  else if c = '\x7b' then
    Scan.skip
    let s ← (fun cs => r.collect (cs.length + 1) true r.start cs : Reader σ)
    let a ← r.complete s
    Scan.skip
    return a
  else unexpected r.label

/-- The value that a whole text spells. -/
def read (value : Reader α) (s : String) : Except ReadError α :=
  match value s.toList with
  | .error e => .error e
  | .ok (a, rest) => if (rest.dropWhile isSpace).isEmpty then .ok a else .error .malformed

end AlloyGrade.Json
