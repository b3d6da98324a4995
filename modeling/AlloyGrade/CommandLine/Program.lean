import AlloyGrade.CommandLine.Help
import AlloyGrade.Document.Write
import AlloyGrade.Grading.Pipeline
import AlloyGrade.Log.Filter
import AlloyGrade.Log.Line
import AlloyGrade.Process.System

/-! The command line as a function of its arguments, its environment and the files it finds. -/

namespace AlloyGrade.CommandLine

/-- Where a program runs, and from where it was started. -/
structure Surroundings where
  cwd : Location
  /-- The directory of the program's own file, if that can be found. -/
  exeDir : Except IoError Path

/-- What a run prints and leaves behind, and the tools that it has called. -/
structure Outcome where
  exit : Nat
  stdout : String
  stderr : String
  calls : List Call
  fs : FileSystem

/-- Why an accepted command line gives no scores. -/
inductive Failure where
  | executable (source : IoError)
  | workdir (path : Path) (source : IoError)
  | currentDir (source : IoError)
  | scoring (e : ScoreError)
  | writing (e : WriteError)
  /-- Torn down by whatever ran the tools. -/
  | broken (message : String)
deriving DecidableEq, Repr

namespace Failure

/-- The error, and the error underneath it. -/
def message : Failure → String
  | .executable source => "Failed to locate the score executable: " ++ source.message
  | .workdir path source => "Failed to create working directory " ++ path.display ++ ": " ++ source.message
  | .currentDir source => "Failed to read current directory: " ++ source.message
  | .scoring e => e.message ++ ((e.source?.map fun source => ": " ++ source.message).getD "")
  | .writing e => e.message
  | .broken message => message

end Failure

/-! ### Logging -/

/-- The name of the variable that holds the log filter. -/
def filterVariable : String := "RUST_LOG"

/-- The filter of the environment if it has a readable one, else everything up to a level. -/
def filter (env : Environment) (verbose : Bool) : Filter :=
  (((env.get? filterVariable).bind Utf8.decode?).bind Filter.read?).getD (.upTo (if verbose then .debug else .warn))

/-- The log lines of a run. -/
def logText (env : Environment) (g : Given) (events : List Event) : String :=
  String.join ((events.filter (filter env g.verbose).admits).map fun e => if g.jsonLogs then e.jsonLine else e.textLine)

/-! ### Running -/

/-- The jars are in the directory that was asked for, else beside the program. -/
def findTools (around : Surroundings) (g : Given) : Except Failure Path :=
  match g.toolsDir, around.exeDir with
  | some dir, _ => .ok dir
  | none, .ok dir => .ok dir
  | none, .error e => .error (.executable e)

/-- A workdir that was asked for is made; without one, tools run where the program runs, as long as that is there. -/
def prepareWorkdir (cwd : Location) (g : Given) (fs : FileSystem) : Except Failure Path × FileSystem :=
  match g.workdir with
  | some path =>
    match fs.makeDirs cwd path with
    | (.ok (), made) => (.ok path, made)
    | (.error e, left) => (.error (.workdir path e), left)
  | none =>
    match fs.lookup cwd with
    | some .dir => (.ok cwd.path, fs)
    | _ => (.error (.currentDir .noEntry), fs)

def configure (around : Surroundings) (g : Given) (fs : FileSystem) : Except Failure Config × FileSystem :=
  match findTools around g with
  | .error e => (.error e, fs)
  | .ok toolsDir =>
    match prepareWorkdir around.cwd g fs with
    | (.error e, left) => (.error e, left)
    | (.ok workdir, made) => (.ok (g.config toolsDir workdir), made)

def printed (format : OutputFormat) (r : Report) : Except Failure String :=
  match format with
  | .text => .ok (String.join (r.lines.map (· ++ "\n")))
  | .json =>
    match r.toJson with
    | .ok document => .ok (document.pretty ++ "\n")
    | .error e => .error (.writing e)

def report (format : OutputFormat) : Ending Report → Except Failure String
  | .value r => printed format r
  | .error e => .error (.scoring e)
  | .panic message => .error (.broken message)
  | .cancelled => .error (.broken "cancelled")

/-- Scores, and says what became of it. -/
def grade (system : System) (timing : Timing) (around : Surroundings) (s : Settings) (fs : FileSystem) :
    Except Failure String × Trace :=
  match configure around s.given fs with
  | (.error e, left) => (.error e, .start left)
  | (.ok config, made) =>
    let (ending, trace) :=
      Pipeline.run around.cwd config system.runner timing s.original s.generated s.mode (.start made)
    (report s.format ending, { trace with events := .configResolved config :: trace.events })

/-- What a usage error prints: the error, and how to find out more. -/
def usageText (e : UsageError) : String :=
  "error: " ++ e.message ++ "\n\n" ++ Help.usageLine ++ "\n\nFor more information, try '--help'.\n"

def run (system : System) (timing : Timing) (around : Surroundings) (env : Environment) (args : List Bytes)
    (fs : FileSystem) : Outcome :=
  match read env args with
  | .error (.inquiry i) => ⟨0, Help.answer env i, "", [], fs⟩
  | .error (.usage e) => ⟨1, "", usageText e, [], fs⟩
  | .ok settings =>
    let (result, trace) := grade system timing around settings fs
    let logs := logText env settings.given trace.events
    match result with
    | .ok text => ⟨0, text, logs, trace.calls, trace.fs⟩
    | .error e => ⟨1, "", logs ++ "Error: " ++ e.message ++ "\n", trace.calls, trace.fs⟩

end AlloyGrade.CommandLine
