import AlloyGrade.Mode
import AlloyGrade.Text.Quoted
import AlloyGrade.Tool.Command
import AlloyGrade.Tool.Output

/-! What a scoring run reports while it works. An event is what happened; its level, target, message and
fields are how the log shows it. -/

namespace AlloyGrade

/-- How much an event matters, from most to least. -/
inductive Level where
  | error
  | warn
  | info
  | debug
  | trace
deriving DecidableEq, Repr

def Level.label : Level → String
  | .error => "ERROR"
  | .warn => "WARN"
  | .info => "INFO"
  | .debug => "DEBUG"
  | .trace => "TRACE"

/-- The value of a field in a log line. -/
inductive FieldValue where
  | text (s : String)
  | int (n : Int)
  | flag (b : Bool)
deriving DecidableEq, Repr

inductive Event where
  | configResolved (config : Config)
  | runStarted (mode : Mode)
  | modelUnresolved (model : Path) (error : IoError)
  | checkingValidity (model workdir : Path)
  | analyzerFinished (exitCode : Int) (stdout stderr : String)
  | analyzerIncomplete (error : RunError)
  | validityKnown (valid : Bool)
  | scratchRemoved (path : Path)
  | scratchKept (path : Path) (error : IoError)
  | checkingEquivalence (original generated : Path) (scope : UInt32) (solver : String)
  | differFinished (exitCode : Int) (output : String)
  | differIncomplete (error : RunError)
  | equivalenceKnown (equivalent : Bool)
  | notDigested (path : Path) (error : IoError)
  | runComplete (valid : Option Bool) (equivalent : Bool) (durationMs : Nat)
  | launching (tool commandLine : String)
  | exited (tool : String) (exitCode : Int) (durationMs : Nat)
deriving DecidableEq, Repr

/-- A configuration with its field names, on one line. -/
def Config.shown (c : Config) : String :=
  "ScoringConfig \x7b java: " ++ Text.Quoted.name c.java.bytes ++
  ", artifacts: ToolArtifacts \x7b diff_jar: " ++ Text.Quoted.name c.artifacts.diffJar.bytes ++
  ", analyzer_jar: " ++ Text.Quoted.name c.artifacts.analyzerJar.bytes ++
  " \x7d, scope: " ++ toString c.scope.toNat ++
  ", solver: " ++ Text.Quoted.text c.solver ++
  ", timeout_secs: " ++ toString c.timeoutSecs.toNat ++
  ", workdir: " ++ Text.Quoted.name c.workdir.bytes ++ " \x7d"

namespace Event

def level : Event → Level
  | .configResolved .. | .analyzerFinished .. | .scratchRemoved .. | .differFinished .. | .launching ..
  | .exited .. => .debug
  | .runStarted .. | .checkingValidity .. | .validityKnown .. | .checkingEquivalence ..
  | .equivalenceKnown .. | .runComplete .. => .info
  | .modelUnresolved .. | .analyzerIncomplete .. | .scratchKept .. | .differIncomplete ..
  | .notDigested .. => .warn

/-- The part of the program that speaks. -/
def target : Event → String
  | .configResolved .. => "score"
  | .modelUnresolved .. | .checkingValidity .. | .analyzerFinished .. | .analyzerIncomplete ..
  | .validityKnown .. => "alloy_score::syntax"
  | .scratchRemoved .. | .scratchKept .. => "alloy_score::workdir"
  | .checkingEquivalence .. | .differFinished .. | .differIncomplete ..
  | .equivalenceKnown .. => "alloy_score::equivalence"
  | .runStarted .. | .notDigested .. | .runComplete .. => "alloy_score::pipeline"
  | .launching .. | .exited .. => "alloy_score::runner"

def message : Event → String
  | .configResolved .. => "Resolved scoring configuration"
  | .runStarted .. => "Starting scoring run"
  | .modelUnresolved .. => "Model not resolvable, scoring as invalid"
  | .checkingValidity .. => "Checking syntax"
  | .analyzerFinished .. => "Analyzer finished"
  | .analyzerIncomplete .. => "Analyzer did not complete, scoring as invalid"
  | .validityKnown .. => "Syntax check complete"
  | .scratchRemoved .. => "Removed scratch directory"
  | .scratchKept .. => "Failed to remove scratch directory"
  | .checkingEquivalence .. => "Checking equivalence"
  | .differFinished .. => "Module differ finished"
  | .differIncomplete .. => "Module differ did not complete, scoring as not equivalent"
  | .equivalenceKnown .. => "Equivalence check complete"
  | .notDigested .. => "Model not digested"
  | .runComplete .. => "Scoring run complete"
  | .launching .. => "Launching tool"
  | .exited .. => "Tool exited"

def optionalFlag : Option Bool → String
  | none => "None"
  | some true => "Some(true)"
  | some false => "Some(false)"

def fields : Event → List (String × FieldValue)
  | .configResolved config => [("config", .text config.shown)]
  | .runStarted mode => [("mode", .text mode.label)]
  | .modelUnresolved model error => [("model", .text model.display), ("error", .text error.message)]
  | .checkingValidity model workdir => [("model", .text model.display), ("workdir", .text workdir.display)]
  | .analyzerFinished exitCode stdout stderr =>
    [("exit_code", .int exitCode), ("stdout", .text stdout), ("stderr", .text stderr)]
  | .analyzerIncomplete error => [("error", .text error.message)]
  | .validityKnown valid => [("valid", .flag valid)]
  | .scratchRemoved path => [("path", .text path.display)]
  | .scratchKept path error => [("path", .text path.display), ("error", .text error.message)]
  | .checkingEquivalence original generated scope solver =>
    [("original", .text original.display), ("generated", .text generated.display),
      ("scope", .int scope.toNat), ("solver", .text solver)]
  | .differFinished exitCode output => [("exit_code", .int exitCode), ("output", .text output)]
  | .differIncomplete error => [("error", .text error.message)]
  | .equivalenceKnown equivalent => [("equivalent", .flag equivalent)]
  | .notDigested path error => [("path", .text path.display), ("error", .text error.message)]
  | .runComplete valid equivalent durationMs =>
    [("syntax_valid", .text (optionalFlag valid)), ("equivalent", .flag equivalent),
      ("duration_ms", .int durationMs)]
  | .launching tool commandLine => [("tool", .text tool), ("command", .text commandLine)]
  | .exited tool exitCode durationMs =>
    [("tool", .text tool), ("exit_code", .int exitCode), ("duration_ms", .int durationMs)]

/-- What the log shows of an event: level, message and fields. -/
abbrev Shown := Level × String × List (String × FieldValue)

def shown (e : Event) : Shown := (e.level, e.message, e.fields)

end Event

end AlloyGrade
