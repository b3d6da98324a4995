import AlloyGrade.Utility.Awk.Machine

/-! Running programs of the pattern language. -/

namespace AlloyGrade.Utility.Awk

open Process Tool

/-! ### Formats -/

/-- A format with values filled in; `name` is the function that was called, and `partly` takes what is ready when a value
is missing. -/
def filled (name : String) (partly : Octets → Exec Unit) (whole : Octets) : Nat → Octets → List Value → Nat → List Octets → Exec Octets
  | 0, _, _, _, acc => return acc.reverse.flatten
  | _ + 1, [], _, _, acc => return acc.reverse.flatten
  | fuel + 1, '%' :: '%' :: rest, values, n, acc => filled name partly whole fuel rest values n (['%'] :: acc)
  | fuel + 1, '%' :: rest, values, n, acc => do
    let called : Octets := name.toList ++ "(\"".toList ++ whole ++ "\")".toList
    let short {α : Type} : Exec α := do
      partly acc.reverse.flatten
      crash ("not enough arguments passed to ".toList ++ called)
    let flags := rest.takeWhile fun c => ['-', '+', ' ', '#', '0'].contains c
    let d := flags.foldl Conversion.withFlag Conversion.plain
    let rest := rest.drop flags.length
    let take (values : List Value) : Exec (Value × List Value) := match values with
      | v :: more => return (v, more)
      | [] => short
    let (d, rest, values) ← match rest with
      | '*' :: r => do
        let (v, more) ← take values
        pure (d.withWidth (clamped v.toNumber), r, more)
      | r =>
        let ds := r.takeWhile Char.isDigit
        pure ({ d with width := Octets.decimal ds }, r.drop ds.length, values)
    let (d, rest, values) ← match rest with
      | '.' :: '*' :: r => do
        let (v, more) ← take values
        pure (d.withPrecision (clamped v.toNumber), r, more)
      | '.' :: r =>
        let ds := r.takeWhile Char.isDigit
        pure ({ d with precision := some (Octets.decimal ds) }, r.drop ds.length, values)
      | r => pure (d, r, values)
    let rest := rest.dropWhile fun c => c = 'l' || c = 'h'
    match rest with
    | [] => crash ("improper conversion(number ".toList ++ Octets.ofNat (n + 1) ++ ") in ".toList ++ called)
    | letter :: rest =>
      if !"cdiouxXsaefgEFGA".toList.contains letter then
        crash ("improper conversion(number ".toList ++ Octets.ofNat (n + 1) ++ ") in ".toList ++ called)
      let (v, values) ← take values
      let shown : Octets ← match letter with
        | 'c' => match v with
          | .number x | .numeral _ x => pure (d.pad [Char.ofNat ((clamped x).toNat % 256)])
          | .unset => pure (d.pad ['\x00'])
          | .text t => pure (d.pad [t.headD '\x00'])
        | 's' => do pure (d.text (← textOf v))
        | 'd' | 'i' => pure (d.signed (min (Int.pow 2 63 - 1) (clamped v.toNumber)))
        | 'o' | 'x' | 'X' | 'u' => pure (d.unsigned letter ((clamped v.toNumber) % Int.pow 2 64).toNat)
        | letter => pure (d.float Dyadic.double letter (toDyadic v.toNumber))
      filled name partly whole fuel rest values (n + 1) (shown :: acc)
  | fuel + 1, cs, values, n, acc =>
    let plain := cs.takeWhile (· ≠ '%')
    filled name partly whole fuel (cs.drop plain.length) values n (plain :: acc)

/-! ### Replacements -/

/-- What replaces a match: an ampersand stands for it, unless a backslash precedes. -/
def replacement (found : Octets) : Octets → Octets
  | '\\' :: '\\' :: '&' :: rest => '\\' :: found ++ replacement found rest
  | '\\' :: '&' :: rest => '&' :: replacement found rest
  | '&' :: rest => found ++ replacement found rest
  | c :: rest => c :: replacement found rest
  | [] => []

/-- Replaces matches from a place on: only the first, or all of them. An empty match directly behind another one does
not count. -/
def replaceFrom (r : Regex) (text : Array Char) (new : Octets) (all : Bool) :
    Nat → Nat → Option Nat → List Octets → Nat → List Octets × Nat
  | 0, p, _, acc, n => ((text.toList.drop p) :: acc, n)
  | fuel + 1, p, last, acc, n =>
    match r.search ⟨false, false⟩ text p with
    | none => ((text.toList.drop p) :: acc, n)
    | some found =>
      let before := (text.extract p found.start).toList
      let one := (text.extract found.start (found.start + 1)).toList
      if found.stop = found.start then
        let (acc, n) := if last = some found.start then (before :: acc, n) else (replacement [] new :: before :: acc, n + 1)
        if !all && n = 1 then ((text.toList.drop found.start) :: acc, n)
        else if text.size ≤ found.start then (acc, n)
        else replaceFrom r text new all fuel (found.start + 1) none (one :: acc) n
      else
        let here := (text.extract found.start found.stop).toList
        let acc := replacement here new :: before :: acc
        if all then replaceFrom r text new all fuel found.stop (some found.stop) acc (n + 1)
        else ((text.toList.drop found.stop) :: acc, n + 1)

/-! ### Arithmetic -/

/-- The remainder with the sign of the dividend. -/
def remainder (a b : Float) : Float :=
  match toDyadic a, toDyadic b with
  | .finite negative m e, .finite _ n f =>
    if n = 0 then 0.0 / 0.0
    else
      let low := min e f
      let x := m * Nat.pow 2 (e - low).toNat
      let y := n * Nat.pow 2 (f - low).toNat
      ofDyadic (Dyadic.ofFraction Dyadic.double negative ((x % y) * Nat.pow 2 low.toNat) (Nat.pow 2 (-low).toNat)).1
  | .finite .., .infinite _ => a
  | _, _ => 0.0 / 0.0

def calculate (op : Char) (a b : Float) : Float :=
  match op with
  | '+' => a + b
  | '-' => a - b
  | '*' => a * b
  | '/' => a / b
  | '%' => remainder a b
  | _ => Float.pow a b

/-- The part of a text from a place on and of a length, both rounded. -/
def part (t : Octets) (start : Float) (length : Option Float) : Octets :=
  let first := clamped (Float.round start)
  let stop : Int := match length with
    | some n => first + min (Int.pow 2 62) (clamped (Float.round n))
    | none => Int.pow 2 62
  let lower := max first 1
  let upper := min stop (t.length + 1)
  if upper ≤ lower then [] else (t.drop (lower - 1).toNat).take (upper - lower).toNat

def findText (needle : Octets) : Nat → Octets → Nat
  | n, [] => if needle.isEmpty then n else 0
  | n, c :: rest => if needle.isPrefixOf (c :: rest) then n else findText needle (n + 1) rest

/-- The expression that a value stands for. -/
def regexValue (v : Value) : Exec Regex := do
  match regexOf? (← textOf v) with
  | .ok r => return r
  | .error message => crash message

mutual

def eval : Nat → Expr → Exec Value
  | 0, _ => return .unset
  | fuel + 1, e => do
    match e with
    | .number x => return .number x
    | .text t => return .text t
    | .regex r => return .ofBool (r.search ⟨false, false⟩ (← record).toArray 0).isSome
    | .var n => variable_ n
    | .field e => field (← checkedIndex (← eval fuel e).toNumber)
    | .item array subscripts => load (← spot fuel (.item array subscripts))
    | .assign target none value =>
      let place ← spot fuel target
      let v ← eval fuel value
      store place v
      return v
    | .assign target (some op) value =>
      let place ← spot fuel target
      let v ← eval fuel value
      let new := Value.number (calculate op (← load place).toNumber v.toNumber)
      store place new
      return new
    | .choose c a b => if (← eval fuel c).holds then eval fuel a else eval fuel b
    | .both a b => if (← eval fuel a).holds then return .ofBool (← eval fuel b).holds else return .ofBool false
    | .either a b => if (← eval fuel a).holds then return .ofBool true else return .ofBool (← eval fuel b).holds
    | .not e => return .ofBool (!(← eval fuel e).holds)
    | .negate e => return .number (-(← eval fuel e).toNumber)
    | .plus e => return .number (← eval fuel e).toNumber
    | .arithmetic op a b =>
      let x ← eval fuel a
      let y ← eval fuel b
      return .number (calculate op x.toNumber y.toNumber)
    | .compare op a b =>
      let x ← eval fuel a
      let y ← eval fuel b
      return .ofBool (op.holds (x.compare (← convFormat) y))
    | .fits negated a b =>
      let t ← textOf (← eval fuel a)
      let r ← regexFrom fuel b
      return .ofBool ((r.search ⟨false, false⟩ t.toArray 0).isSome != negated)
    | .join a b =>
      let x ← textOf (← eval fuel a)
      let y ← textOf (← eval fuel b)
      return .text (x ++ y)
    | .inside subscripts array =>
      let key ← subscript fuel subscripts
      let t ← table (← arrayOf array)
      return .ofBool (t.find? key).isSome
    | .count target up before =>
      let place ← spot fuel target
      let old := (← load place).toNumber
      let new := if up then old + 1 else old - 1
      store place (.number new)
      return .number (if before then new else old)
    | .call name args => call fuel name args
    | .builtin f args => builtin fuel f args
    | .read target file command => readLine fuel target file command
    | .list es => return .text (← subscript fuel es)
    | .grouped e => eval fuel e

/-- The key that subscripts make together. -/
def subscript : Nat → List Expr → Exec Octets
  | 0, _ => return []
  | _ + 1, [] => return []
  | fuel + 1, e :: rest => do
    let t ← textOf (← eval fuel e)
    match rest with
    | [] => return t
    | _ =>
      let more ← subscript fuel rest
      return t ++ (← globalText "SUBSEP") ++ more

def evalAll : Nat → List Expr → Exec (List Value)
  | 0, _ => return []
  | _ + 1, [] => return []
  | fuel + 1, e :: rest => do
    let v ← eval fuel e
    let more ← evalAll fuel rest
    return v :: more

/-- The expression that is matched: one as it stands, or the one in a text. -/
def regexFrom : Nat → Expr → Exec Regex
  | 0, _ => return .empty
  | fuel + 1, e => do
    match e with
    | .regex r => return r
    | .grouped (.regex r) => return r
    | e => regexValue (← eval fuel e)

/-- Works out where a place is. -/
def spot : Nat → Expr → Exec Spot
  | 0, _ => return .nowhere
  | fuel + 1, target => do
    match target with
    | .var n => return .variable_ n
    | .field e => return .field (← checkedIndex (← eval fuel e).toNumber)
    | .item array subscripts =>
      let key ← subscript fuel subscripts
      return .item (← arrayOf array) key
    | .grouped e => spot fuel e
    | _ => return .nowhere

/-- Calls a function. A bare name is handed over so that it can become an array. -/
def call : Nat → Octets → List Expr → Exec Value
  | 0, _, _ => return .unset
  | fuel + 1, name, args => do
    match (← get).functions.find? (·.name == name) with
    | none => return .unset
    | some f =>
      if f.params.length < args.length then crash ("too many arguments in call to ".toList ++ name)
      let cells ← argumentCells fuel args
      let frame := f.params.zipIdx.map fun (p, i) => (p, (cells[i]?).getD (.scalar .unset))
      let depth := (← get).frames.size
      if 10000 < depth then crash "function call nesting too deep".toList
      modify fun m => { m with frames := m.frames.push frame }
      lift (ask .step)
      let leave : Exec Unit := modify fun m => { m with frames := m.frames.extract 0 depth }
      let result : Value ← tryCatch (do
        exec fuel f.body
        pure .unset) fun
        | .return_ v => pure v
        | other => throw other
      leave
      return result

def argumentCells : Nat → List Expr → Exec (List Cell)
  | 0, _ => return []
  | _ + 1, [] => return []
  | fuel + 1, e :: rest => do
    let c : Cell ← match e with
      | .var n => do
        let p ← placeOf n
        match ← cellAt p with
        | some (.array id) => pure (.array id)
        | some (.alias_ other) => pure (.alias_ other)
        | some (.scalar .unset) | none =>
          if p.frame.isNone && n == "NF".toList then pure (.scalar (← variable_ n)) else pure (.alias_ p)
        | some (.scalar v) => pure (.scalar v)
      | e => do pure (.scalar (← eval fuel e))
    let more ← argumentCells fuel rest
    return c :: more

/-- Reads a line into a place or into the record: 1 if there was one, 0 at the end, -1 if nothing could be read. -/
def readLine : Nat → Option Expr → Option Expr → Option Expr → Exec Value
  | 0, _, _, _ => return .unset
  | fuel + 1, target, file, command => do
    let keep (t : Octets) : Exec Unit := match target with
      | some place => do store (← spot fuel place) (.fromOutside t)
      | none => setRecord t
    match file, command with
    | none, none =>
      match ← mainRecord 100000 with
      | some t =>
        keep t
        return .number 1
      | none => return .number 0
    | _, _ =>
      let name ← match file, command with
        | some e, _ => do textOf (← eval fuel e)
        | _, some e => do textOf (← eval fuel e)
        | _, _ => pure []
      match ← inputNamed command.isSome name with
      | none => return .number (-1)
      | some i =>
        let (found, source) ← nextRecord i.source
        modify fun m => { m with inputs := m.inputs.map fun j =>
          if j.name == i.name && j.isCommand == i.isCommand then { j with source } else j }
        match found with
        | some t =>
          keep t
          return .number 1
        | none => return .number 0

def builtin : Nat → Builtin → List Expr → Exec Value
  | 0, _, _ => return .unset
  | fuel + 1, f, args => do
    let number (g : Float → Float) : Exec Value := do
      match args with
      | e :: _ => return .number (g (← eval fuel e).toNumber)
      | [] => return .number (g 0)
    let text (e : Option Expr) : Exec Octets := do
      match e with
      | some e => textOf (← eval fuel e)
      | none => record
    match f with
    | .length =>
      match args with
      | [.var n] =>
        let p ← placeOf n
        if ← isArray 1000 p then return .ofNat (← table (← arrayOf n)).size
        else return .ofNat (← textOf (← eval fuel (.var n))).length
      | _ => return .ofNat (← text args.head?).length
    | .substr =>
      let t ← text args.head?
      let start ← match args[1]? with
        | some e => do pure (← eval fuel e).toNumber
        | none => pure 1
      match args[2]? with
      | some e => return .text (part t start (some (← eval fuel e).toNumber))
      | none => return .text (part t start none)
    | .index =>
      let t ← text args.head?
      let needle ← text args[1]?
      return .ofNat (findText needle 1 t)
    | .split =>
      let t ← text args.head?
      let third : Option Expr := args[2]?
      let separator ← match third with
        | some (.regex r) => pure (Separator.regex r)
        | some e => do separatorOf (← textOf (← eval fuel e))
        | none => do fieldSeparator (← globalText "FS")
      let parts := separator.split t
      let second : Option Expr := args[1]?
      match second with
      | some (.var n) =>
        let id ← arrayOf n
        setTable id (parts.zipIdx.foldl (fun t (p, i) => t.insert (Octets.ofNat (i + 1)) (.fromOutside p)) Table.empty)
        return .ofNat parts.length
      | _ => return .ofNat parts.length
    | .sub | .gsub =>
      let r ← match args.head? with
        | some e => regexFrom fuel e
        | none => pure .empty
      let new ← text args[1]?
      let target := (args[2]?).getD (.field (.number 0))
      let place ← spot fuel target
      let old ← match place with
        | .nowhere => do textOf (← eval fuel target)
        | _ => do textOf (← load place)
      let (parts, n) := replaceFrom r old.toArray new (f = .gsub) (old.length + 2) 0 none [] 0
      if 0 < n then store place (.text parts.reverse.flatten)
      return .ofNat n
    | .match_ =>
      let t ← text args.head?
      let r ← match args[1]? with
        | some e => regexFrom fuel e
        | none => pure .empty
      match r.search ⟨false, false⟩ t.toArray 0 with
      | some found =>
        setGlobal "RSTART" (.ofNat (found.start + 1))
        setGlobal "RLENGTH" (.ofNat (found.stop - found.start))
        return .ofNat (found.start + 1)
      | none =>
        setGlobal "RSTART" (.number 0)
        setGlobal "RLENGTH" (.number (-1))
        return .number 0
    | .sprintf =>
      match ← evalAll fuel args with
      | format :: values =>
        let t ← textOf format
        return .text (← filled "sprintf" (fun _ => return ()) t (t.length + 1) t values 0 [])
      | [] => return .text []
    | .toupper => return .text ((← text args.head?).map Char.toUpper)
    | .tolower => return .text ((← text args.head?).map Char.toLower)
    | .int => number fun x => if x < 0 then Float.ceil x else Float.floor x
    | .sqrt => number Float.sqrt
    | .exp => number Float.exp
    | .log => number Float.log
    | .sin => number Float.sin
    | .cos => number Float.cos
    | .atan2 =>
      match ← evalAll fuel args with
      | [y, x] => return .number (Float.atan2 y.toNumber x.toNumber)
      | _ => return .unset
    | .rand =>
      let seed := ((← get).seed * 6364136223846793005 + 1442695040888963407) % Nat.pow 2 64
      modify ({ · with seed })
      return .number (Float.ofNat (seed / Nat.pow 2 11) / Float.ofNat (Nat.pow 2 53))
    | .srand =>
      let old := (← get).seed
      let new ← match args with
        | e :: _ => do pure (clamped (← eval fuel e).toNumber).toNat
        | [] => do pure ((← lift view).now / 1000000000).toNat
      modify ({ · with seed := new })
      return .ofNat old
    | .system => return .number (← system (← text args.head?))
    | .close => return .number (← closeNamed (← text args.head?))
    | .fflush =>
      lift flush
      return .number 0
    | .systime => return .number (Float.ofInt ((← lift view).now.fdiv 1000000000))

def exec : Nat → Statement → Exec Unit
  | 0, _ => return ()
  | fuel + 1, s => do
    match s with
    | .nothing => return ()
    | .eval e =>
      let _ ← eval fuel e
    | .print args target =>
      let values ← evalAll fuel args
      let format ← globalText "OFMT"
      let shown ← match args with
        | [] => record
        | _ => do pure ((← globalText "OFS").intercalate (values.map (·.toText format)))
      let target ← direction fuel target
      write target (shown ++ (← globalText "ORS"))
    | .printf args target =>
      match ← evalAll fuel args with
      | format :: values =>
        let t ← textOf format
        let target ← direction fuel target
        write target (← filled "printf" (write target) t (t.length + 1) t values 0 [])
      | [] => return ()
    | .if_ c yes no => if (← eval fuel c).holds then exec fuel yes else exec fuel no
    | .while_ c body => loop fuel (some c) none body true
    | .do_ body c => loop fuel (some c) none body false
    | .for_ start c step body =>
      match start with
      | some e =>
        let _ ← eval fuel e
      | none => pure ()
      loop fuel c step body true
    | .forIn name array body =>
      let id ← arrayOf array
      overKeys fuel name (← table id).keys body
    | .block body => execAll fuel body
    | .break_ => throw .break_
    | .continue_ => throw .continue_
    | .next => throw .next
    | .nextFile => throw .nextFile
    | .exit code =>
      match code with
      | some e =>
        let n := clamped (← eval fuel e).toNumber
        modify ({ · with status := (n % 256).toNat })
      | none => pure ()
      throw .exit
    | .return_ value =>
      match value with
      | some e => throw (.return_ (← eval fuel e))
      | none => throw (.return_ .unset)
    | .delete array subscripts =>
      let key ← subscript fuel subscripts
      let id ← arrayOf array
      setTable id ((← table id).erase key)
    | .deleteAll array => setTable (← arrayOf array) Table.empty

def direction : Nat → Option (Direction × Expr) → Exec (Option (Direction × Octets))
  | 0, _ => return none
  | _ + 1, none => return none
  | fuel + 1, some (d, e) => do
    let name ← textOf (← eval fuel e)
    return some (d, name)

def execAll : Nat → List Statement → Exec Unit
  | 0, _ => return ()
  | _ + 1, [] => return ()
  | fuel + 1, s :: rest => do
    exec fuel s
    execAll fuel rest

/-- Runs a body while a condition holds, which is looked at before the first round or only behind it. -/
def loop : Nat → Option Expr → Option Expr → Statement → Bool → Exec Unit
  | 0, _, _, _, _ => return ()
  | fuel + 1, c, step, body, checks => do
    let goes : Bool ← if checks then match c with
        | some e => do pure (← eval fuel e).holds
        | none => pure true
      else pure true
    if goes then
      lift (ask .step)
      let ended : Bool ← tryCatch (do
        exec fuel body
        pure false) fun
        | .break_ => pure true
        | .continue_ => pure false
        | other => throw other
      unless ended do
        match step with
        | some e =>
          let _ ← eval fuel e
        | none => pure ()
        loop fuel c step body true

def overKeys : Nat → Octets → List Octets → Statement → Exec Unit
  | 0, _, _, _ => return ()
  | _ + 1, _, [], _ => return ()
  | fuel + 1, name, key :: rest, body => do
    lift (ask .step)
    setVariable name (.fromOutside key)
    let ended : Bool ← tryCatch (do
      exec fuel body
      pure false) fun
      | .break_ => pure true
      | .continue_ => pure false
      | other => throw other
    unless ended do overKeys fuel name rest body

end

/-! ### Programs -/

/-- Fuel for everything that a program does. -/
def lifetime : Nat := 1000000000000

/-- Does what a rule asks for. -/
def act (r : Rule) : Exec Unit :=
  match r.action with
  | some body => exec lifetime body
  | none => do write none ((← record) ++ (← globalText "ORS"))

/-- Tries the rules on the record, one after the other. -/
def tryRules : List (Rule × Nat) → Exec Unit
  | [] => return ()
  | (r, i) :: rest => do
    match r.pattern with
    | .always => act r
    | .expr e => if (← eval lifetime e).holds then act r
    | .range first last =>
      let isOpen := (← get).openRanges.contains i
      let inside : Bool ← if isOpen then pure true else do pure (← eval lifetime first).holds
      if inside then
        let ends : Bool := (← eval lifetime last).holds
        modify fun m => { m with openRanges := if ends then m.openRanges.filter (· != i) else i :: m.openRanges.filter (· != i) }
        act r
    | _ => pure ()
    tryRules rest

/-- Goes through the records. -/
def overRecords (rules : List (Rule × Nat)) : Nat → Exec Unit
  | 0 => return ()
  | fuel + 1 => do
    match ← mainRecord 100000 with
    | none => return ()
    | some t =>
      lift (ask .step)
      setRecord t
      tryCatch (tryRules rules) fun
        | .next => pure ()
        | .nextFile => leaveFile
        | other => throw other
      overRecords rules fuel

/-- Runs the rules of one kind. -/
def runAll (rules : List Rule) : Exec Unit := do
  for r in rules do act r

/-- Runs a part of the program; says whether it asked to exit. -/
def guarded (part : Exec Unit) : Exec Bool :=
  tryCatch (do
    part
    pure false) fun
    | .exit => pure true
    | _ => pure false

def run (code : Code) : Exec Unit := do
  let of (p : Pattern → Bool) : List Rule := code.rules.filter fun r => p r.pattern
  let begins := of fun
    | .begin_ => true
    | _ => false
  let ends := of fun
    | .end_ => true
    | _ => false
  let mains := of fun
    | .begin_ | .end_ => false
    | _ => true
  let left ← guarded (runAll begins)
  let left ← if left || (mains.isEmpty && ends.isEmpty) then pure left
    else guarded (overRecords mains.zipIdx lifetime)
  -- What stands at the end is done even after an exit.
  let _ ← if ends.isEmpty then pure left else guarded (runAll ends)
  for o in (← get).outputs.reverse do
    let _ ← closeOutput o

/-- The settings of the command line: programs, assignments and a separator. -/
structure CommandLine where
  sources : List Octets
  assigned : List (Octets × Octets)
  separator : Option Octets
  operands : List Octets

/-- Reads the options. -/
def commandLine : Nat → List Octets → CommandLine → Tool CommandLine
  | 0, rest, c => return { c with operands := rest }
  | fuel + 1, args, c => do
    let valued (letter : Char) (attached : Octets) (rest : List Octets) (use : Octets → CommandLine → Tool CommandLine) :
        Tool CommandLine := do
      match attached, rest with
      | [], [] => fail 2 ("option requires an argument -- ".toList ++ [letter])
      | [], v :: rest =>
        let c ← use v c
        commandLine fuel rest c
      | v, rest =>
        let c ← use v c
        commandLine fuel rest c
    match args with
    | ['-', '-'] :: rest => return { c with operands := rest }
    | ('-' :: 'F' :: v) :: rest => valued 'F' v rest fun v c => return { c with separator := some v }
    | ('-' :: 'v' :: v) :: rest => valued 'v' v rest fun v c => do
      match assignment? v with
      | some found => return { c with assigned := c.assigned ++ [found] }
      | none => fail 2 ("improper assignment: -v ".toList ++ v)
    | ('-' :: 'f' :: v) :: rest => valued 'f' v rest fun v c => return { c with sources := c.sources ++ [v] }
    | ('-' :: x :: more) :: _ => fail 2 ("not an option: -".toList ++ x :: more)
    | _ => return { c with operands := args }

/-- The machine before the program starts. -/
def Machine.initial (code : Code) : Machine where
  functions := code.functions
  globals := ([("FS", " "), ("OFS", " "), ("ORS", "\n"), ("RS", "\n"), ("SUBSEP", "\x1c"), ("CONVFMT", "%.6g"), ("OFMT", "%.6g"),
    ("FILENAME", "")].foldl (fun m (n, v) => m.insert n.toList (.scalar (.text v.toList))) (∅ : Std.HashMap Octets Cell))
  frames := #[]
  tables := #[]
  record := []
  fields := none
  separator := [' ']
  stale := false
  outputs := []
  inputs := []
  current := none
  nextArgument := 1
  usesInput := true
  openRanges := []
  status := 0
  seed := 0

/-- Sets the variables that tell about the world. -/
def describeWorld (operands environment : List Octets) (name : Octets) : Exec Unit := do
  setGlobal "ARGC" (.ofNat (operands.length + 1))
  for n in ["NR", "FNR", "RSTART"] do setGlobal n (.number 0)
  setGlobal "RLENGTH" (.number (-1))
  let arguments ← arrayAt 10 ⟨none, "ARGV".toList⟩
  setTable arguments ((name :: operands).zipIdx.foldl (fun t (a, i) => t.insert (Octets.ofNat i) (.fromOutside a)) Table.empty)
  let outer ← arrayAt 10 ⟨none, "ENVIRON".toList⟩
  setTable outer (environment.foldl (fun t e =>
    let n := e.takeWhile (· ≠ '=')
    t.insert n (.fromOutside (e.drop (n.length + 1)))) Table.empty)

end AlloyGrade.Utility.Awk

namespace AlloyGrade.Utility

open Process Tool

/-- The pattern language. -/
def awk : Body := fun args => do
  let c ← Awk.commandLine (args.length + 1) args ⟨[], [], none, []⟩
  let (text, operands) ← match c.sources, c.operands with
    | [], [] => fail 2 "no program".toList
    | [], program :: operands => pure (program, operands)
    | sources, operands => do
      let texts ← sources.mapM fun name => do
        match ← contents name with
        | .ok t => return if t.getLast? = some '\n' then t else t ++ ['\n']
        | .error e => fail 2 ("cannot open \"".toList ++ name ++ "\" (".toList ++ (Errno.text e).toList ++ [')'])
      pure (texts.flatten, operands)
  match Awk.Code.ofText text with
  | .error messages =>
    for m in messages do warn m
    exit 2
  | .ok code =>
    let s ← get
    let whole : Awk.Exec Unit := do
      Awk.describeWorld operands s.environment s.name
      match c.separator with
      | some v => Awk.setGlobal "FS" (.text (Awk.unescaped v))
      | none => pure ()
      for (name, value) in c.assigned do Awk.assignArgument name value
      Awk.run code
    let (_, m) ← (whole.run).run (Awk.Machine.initial code)
    exit m.status

end AlloyGrade.Utility
