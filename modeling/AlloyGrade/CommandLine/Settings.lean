import AlloyGrade.CommandLine.Item
import AlloyGrade.Config
import AlloyGrade.Mode

/-! What a scoring run is told. Every setting comes from its option, else from its environment variable, else
from its default. -/

namespace AlloyGrade.CommandLine

inductive OutputFormat where
  | text
  | json
deriving DecidableEq, Repr

/-- The settings made so far. -/
structure Given where
  format : Option OutputFormat
  java : Option Path
  toolsDir : Option Path
  scope : Option UInt32
  solver : Option String
  timeoutSecs : Option UInt64
  workdir : Option Path
  equivalenceOnly : Bool
  verbose : Bool
  jsonLogs : Bool
  original : Option Path
  generated : Option Path
deriving DecidableEq, Repr

namespace Given

def nothing : Given := ⟨none, none, none, none, none, none, none, false, false, false, none, none⟩

def has (g : Given) : ValueOption → Bool
  | .format => g.format.isSome
  | .java => g.java.isSome
  | .toolsDir => g.toolsDir.isSome
  | .scope => g.scope.isSome
  | .solver => g.solver.isSome
  | .timeoutSecs => g.timeoutSecs.isSome
  | .workdir => g.workdir.isSome

def hasFlag (g : Given) : Flag → Bool
  | .equivalenceOnly => g.equivalenceOnly
  | .verbose => g.verbose
  | .jsonLogs => g.jsonLogs

end Given

/-! ### Values -/

def formatValue (value : Bytes) : Except UsageError OutputFormat :=
  if value.isEmpty then .error (.valueRequired (.option .format))
  else if value = Bytes.ofString "text" then .ok .text
  else if value = Bytes.ofString "json" then .ok .json
  else .error (.invalidFormat (Utf8.lossy value))

/-- A path may be anything but empty. -/
def pathValue (argument : Argument) (value : Bytes) : Except UsageError Path :=
  if value.isEmpty then .error (.valueRequired argument) else .ok ⟨value⟩

def textValue (value : Bytes) : Except UsageError String :=
  match Utf8.decode? value with
  | some s => .ok s
  | none => .error .notUtf8

def numberValue {α : Type} (option : ValueOption) (read : Bytes → Except NumberFault α) (value : Bytes) :
    Except UsageError α := do
  let text ← textValue value
  match read value with
  | .ok n => return n
  | .error fault => throw (.invalidNumber text option fault)

namespace Given

/-- Gives an option a value, whatever it had. -/
def set (g : Given) (o : ValueOption) (value : Bytes) : Except UsageError Given :=
  match o with
  | .format => do return { g with format := some (← formatValue value) }
  | .java => do return { g with java := some (← pathValue (.option .java) value) }
  | .toolsDir => do return { g with toolsDir := some (← pathValue (.option .toolsDir) value) }
  | .scope => do return { g with scope := some (← numberValue .scope Number.scope value) }
  | .solver => do return { g with solver := some (← textValue value) }
  | .timeoutSecs => do return { g with timeoutSecs := some (← numberValue .timeoutSecs Number.seconds value) }
  | .workdir => do return { g with workdir := some (← pathValue (.option .workdir) value) }

def setFlag (g : Given) : Flag → Given
  | .equivalenceOnly => { g with equivalenceOnly := true }
  | .verbose => { g with verbose := true }
  | .jsonLogs => { g with jsonLogs := true }

def setFile (g : Given) : FileRole → Path → Given
  | .original, p => { g with original := some p }
  | .generated, p => { g with generated := some p }

end Given

/-! ### Items -/

/-- Why a command line leads to no run. -/
inductive Refusal where
  | inquiry (i : Inquiry)
  | usage (e : UsageError)
deriving DecidableEq, Repr

def usage {α : Type} : Except UsageError α → Except Refusal α
  | .ok a => .ok a
  | .error e => .error (.usage e)

/-- Takes one item in. An option is given once, and with a value. -/
def Given.take (g : Given) : Item → Except Refusal Given
  | .option o none _ => .error (.usage (.valueRequired (.option o)))
  | .option o (some value) _ =>
    if g.has o then .error (.usage (.repeated (.option o))) else usage (g.set o value)
  | .flag f => if g.hasFlag f then .error (.usage (.repeated (.flag f))) else .ok (g.setFlag f)
  | .file r bytes => do return g.setFile r (← usage (pathValue (.file r) bytes))
  | .inquiry i => .error (.inquiry i)

/-- Takes all the items of an argument vector in, from left to right. -/
def Given.ofArgs (args : List Bytes) : Except Refusal Given := do
  let split := split (some .original) args
  let g ← split.examined.foldlM Given.take Given.nothing
  match split.fault with
  | some e => throw (.usage e)
  | none => return g

/-! ### Environment and defaults -/

abbrev Environment := List (Bytes × Bytes)

def Environment.get? (env : Environment) (name : String) : Option Bytes := env.lookup (Bytes.ofString name)

/-- Fills one option in from its variable, if it was not given. -/
def Given.fill (env : Environment) (g : Given) (o : ValueOption) : Except UsageError Given :=
  if g.has o then .ok g
  else match o.envVariable.bind env.get? with
    | some value => g.set o value
    | none => .ok g

/-- Options first, then variables in the order of the options, and the files last. -/
structure Settings where
  original : Path
  generated : Path
  given : Given
deriving DecidableEq, Repr

def read (env : Environment) (args : List Bytes) : Except Refusal Settings := do
  let g ← Given.ofArgs args
  let g ← usage (ValueOption.all.foldlM (Given.fill env) g)
  match g.original, g.generated with
  | some original, some generated => return ⟨original, generated, g⟩
  | none, none => throw (.usage (.missingFiles [.original, .generated]))
  | none, some _ => throw (.usage (.missingFiles [.original]))
  | some _, none => throw (.usage (.missingFiles [.generated]))

namespace Given

/-- The configuration, once it is known where the tools are and where they run. -/
def config (g : Given) (toolsDir workdir : Path) : Config where
  java := g.java.getD (.ofString Config.defaultJava)
  artifacts := .inDir toolsDir
  scope := g.scope.getD Config.defaultScope
  solver := g.solver.getD Config.defaultSolver
  timeoutSecs := g.timeoutSecs.getD Config.defaultTimeoutSecs
  workdir

end Given

namespace Settings

def format (s : Settings) : OutputFormat := s.given.format.getD .text

def mode (s : Settings) : Mode := if s.given.equivalenceOnly then .equivalenceOnly else .combined

end Settings

end AlloyGrade.CommandLine
