import AlloyGrade.Process.Program

/-! What the utilities have in common: a name to complain under, buffered output, and options. -/

namespace AlloyGrade.Utility

open Process

structure State where
  name : Octets
  environment : List Octets
  /-- What is still to be written, last first, and how much that is. -/
  output : List Octets
  size : Nat
  /-- Output could not be written, for this reason. -/
  lost : Option Errno
  /-- Something went wrong on the way. -/
  failed : Bool

/-- A part of a utility. -/
def Tool (α : Type) := State → (α → State → Program) → Program

namespace Tool

variable {α : Type}

instance : Monad Tool where
  pure a := fun s k => k a s
  bind m f := fun s k => m s fun a s => f a s k

instance : MonadStateOf State Tool where
  get := fun s k => k s s
  set s := fun _ k => k () s
  modifyGet f := fun s k => let (a, s) := f s; k a s

def ask (request : Request) : Tool request.Answer := fun s k => .ask request fun a => k a s

def view : Tool View := ask .view

/-! ### Output -/

/-- Writes all of a text; a failure is remembered. -/
def writeTo (fd : Nat) (text : Octets) : Tool Unit := do
  unless text.isEmpty do
    match ← ask (.write fd text) with
    | .ok () => pure ()
    | .error e => if fd = 1 then modify fun s => { s with lost := some (s.lost.getD e) }

def flush : Tool Unit := do
  let s ← get
  set { s with output := [], size := 0 }
  if s.lost.isNone then writeTo 1 s.output.reverse.flatten

/-- How much output is kept back. -/
def bufferSize : Nat := 4096

def put (text : Octets) : Tool Unit := do
  modify fun s => { s with output := text :: s.output, size := s.size + text.length }
  if bufferSize ≤ (← get).size then flush

def putString (text : String) : Tool Unit := put (Octets.ofString text)

def putLine (text : Octets) : Tool Unit := put (text ++ ['\n'])

/-- Writes an error message as it is. -/
def complain (text : Octets) : Tool Unit := do
  flush
  writeTo 2 text

/-- Writes an error message behind the name of the utility. -/
def warn (message : Octets) : Tool Unit := do
  let s ← get
  complain (s.name ++ ": ".toList ++ message ++ ['\n'])

/-- Complains, and notes that the utility has failed. -/
def wrong (message : Octets) : Tool Unit := do
  warn message
  modify ({ · with failed := true })

/-- Ends the process; output that got lost is a failure of its own. -/
def exit (code : Nat) : Tool α := do
  flush
  let s ← get
  match s.lost with
  | some e =>
    writeTo 2 (s.name ++ ": write error: ".toList ++ (Errno.text e).toList ++ ['\n'])
    fun _ _ => .exit 1
  | none => fun _ _ => .exit code

def fail (code : Nat) (message : Octets) : Tool α := do
  warn message
  exit code

/-- Ends with a status that says whether anything went wrong. -/
def finish : Tool α := do
  exit (if (← get).failed then 1 else 0)

/-- Points to the help. -/
def usage (code : Nat) : Tool α := do
  let s ← get
  complain ("Try '".toList ++ s.name ++ " --help' for more information.\n".toList)
  exit code

def misuse (code : Nat) (message : Octets) : Tool α := do
  warn message
  usage code

/-! ### Input -/

/-- How many pieces of input are read at most. -/
def patience : Nat := 1000000000

def readPieces (fd : Nat) : Nat → List Octets → Tool (Except Errno Octets)
  | 0, acc => return .ok acc.reverse.flatten
  | fuel + 1, acc => do
    match ← ask (.read fd 65536) with
    | .ok [] => return .ok acc.reverse.flatten
    | .ok piece => readPieces fd fuel (piece :: acc)
    | .error e => return .error e

/-- Everything that can be read from a descriptor. -/
def readAll (fd : Nat) : Tool (Except Errno Octets) := readPieces fd patience []

def open_ (name : Octets) (how : Opening) : Tool (Except Errno Nat) := ask (.open_ (Octets.toPath name) how 0o666)

def close (fd : Nat) : Tool Unit := do
  let _ ← ask (.close fd)

/-- The octets of a file; a dash stands for the standard input. -/
def contents (name : Octets) : Tool (Except Errno Octets) := do
  if name == ['-'] then readAll 0
  else match ← open_ name .reading with
    | .error e => return .error e
    | .ok fd =>
      let r ← readAll fd
      close fd
      return r

/-- Changes the file system. -/
def edit (change : Location → FileSystem → FileSystem.Change) : Tool (Except Errno Unit) := ask (.edit change)

end Tool

/-- A text between single quotes. -/
def quoted (text : Octets) : Octets := ['\''] ++ text ++ ['\'']

/-- Why something failed, behind what it was. -/
def because (subject : Octets) (e : Errno) : Octets := subject ++ ": ".toList ++ (Errno.text e).toList

/-- A utility: what it does with its arguments. -/
abbrev Body := List Octets → Tool Unit

/-- Runs a utility under its name. -/
def program (u : Body) (argv environment : List Octets) : Program :=
  let body : Tool Unit := do
    u (argv.drop 1)
    Tool.finish
  body ⟨argv.headD [], environment, [], 0, none, false⟩ fun _ _ => .exit 0

/-! ### Options -/

/-- An option: its letter, its long name, and whether it takes a value. -/
structure Switch where
  letter : Char
  long : String
  takesValue : Bool

/-- The options of a utility, its status after a misuse, and whether they have to come first. -/
structure Options where
  known : List Switch
  misuse : Nat
  inOrder : Bool
  /-- What is said about the usage in front of the pointer to the help. -/
  synopsis : String

namespace Options

variable {α : Type}

/-- Letters without values, letters with values, and long names. -/
def of (flags takers : String) (long : List (String × Char)) : Options where
  known := (flags.toList.map fun c => ⟨c, "", false⟩) ++ (takers.toList.map fun c => ⟨c, "", true⟩) ++
    long.map fun (name, c) => ⟨c, name, takers.toList.contains c⟩
  misuse := 1
  inOrder := false
  synopsis := ""

/-- Complains about an option. -/
def refuse (o : Options) (message : Octets) : Tool α := do
  Tool.warn message
  Tool.complain o.synopsis.toList
  Tool.usage o.misuse

/-- What is found in the arguments: options with their values, and operands. -/
abbrev Found := List (Char × Octets) × List Octets

/-- One cluster of letters. -/
def cluster (o : Options) : List Char → List Octets → List (Char × Octets) → Tool (List (Char × Octets) × List Octets)
  | [], rest, acc => return (acc, rest)
  | c :: more, rest, acc => do
    match o.known.find? (·.letter == c) with
    | none => o.refuse ("invalid option -- '".toList ++ [c, '\''])
    | some known =>
      if !known.takesValue then o.cluster more rest ((c, []) :: acc)
      else match more, rest with
        | [], [] => o.refuse ("option requires an argument -- '".toList ++ [c, '\''])
        | [], value :: rest => return ((c, value) :: acc, rest)
        | value, rest => return ((c, value) :: acc, rest)

/-- A long option, perhaps shortened. -/
def longOption (o : Options) (text : Octets) (rest : List Octets) : Tool ((Char × Octets) × List Octets) := do
  let name := text.takeWhile (· ≠ '=')
  let value := if name.length < text.length then some (text.drop (name.length + 1)) else none
  let shown := quoted ("--".toList ++ name)
  let fits := o.known.filter fun k => !k.long.isEmpty && name.isPrefixOf k.long.toList
  let exact := fits.filter fun k => k.long.toList == name
  match if exact.isEmpty then fits else exact with
  | [] => o.refuse ("unrecognized option ".toList ++ quoted ("--".toList ++ text))
  | k :: others =>
    if !exact.isEmpty || others.all (·.letter == k.letter) then
      let full := quoted ("--".toList ++ k.long.toList)
      match value, k.takesValue, rest with
      | some v, true, _ => return ((k.letter, v), rest)
      | some _, false, _ => o.refuse ("option ".toList ++ full ++ " doesn't allow an argument".toList)
      | none, false, _ => return ((k.letter, []), rest)
      | none, true, v :: rest => return ((k.letter, v), rest)
      | none, true, [] => o.refuse ("option ".toList ++ full ++ " requires an argument".toList)
    else
      let names := fits.map fun k => " ".toList ++ quoted ("--".toList ++ k.long.toList)
      o.refuse ("option ".toList ++ shown ++ " is ambiguous; possibilities:".toList ++ names.flatten)

def findFrom (o : Options) : Nat → List Octets → List (Char × Octets) → List Octets → Tool Found
  | 0, args, opts, operands => return (opts.reverse, operands.reverse ++ args)
  | fuel + 1, args, opts, operands => do
    match args with
    | [] => return (opts.reverse, operands.reverse)
    | ['-', '-'] :: rest => return (opts.reverse, operands.reverse ++ rest)
    | ('-' :: '-' :: text) :: rest =>
      let (opt, rest) ← o.longOption text rest
      o.findFrom fuel rest (opt :: opts) operands
    | ('-' :: c :: letters) :: rest =>
      let (opts, rest) ← o.cluster (c :: letters) rest opts
      o.findFrom fuel rest opts operands
    | a :: rest =>
      if o.inOrder then return (opts.reverse, operands.reverse ++ args) else o.findFrom fuel rest opts (a :: operands)

/-- Separates options from operands. -/
def find (o : Options) (args : List Octets) : Tool Found := o.findFrom (args.length + 1) args [] []

/-- Whether an option is among those found. -/
def has (opts : List (Char × Octets)) (c : Char) : Bool := opts.any (·.1 == c)

/-- The last value of an option. -/
def last? (opts : List (Char × Octets)) (c : Char) : Option Octets := (opts.filter (·.1 == c)).getLast?.map (·.2)

end Options

end AlloyGrade.Utility
