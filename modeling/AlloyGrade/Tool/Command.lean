import AlloyGrade.Config

/-! How the two tools are invoked. -/

namespace AlloyGrade

structure ToolCommand where
  name : String
  program : Bytes
  args : List Bytes
  timeoutSecs : UInt64
  /-- The directory to run in; the caller's own if absent. -/
  currentDir : Option Path
deriving BEq, DecidableEq, Repr

namespace ToolCommand

def minTimeoutSecs : UInt64 := 1

def moduleDiffName : String := "module_diff"

def analyzerExecName : String := "analyzer_exec"

def moduleDiffClass : String := "org.alloytools.alloy.diff.ModuleDiff"

def custom (name : String) (program : Bytes) (args : List Bytes) (timeoutSecs : UInt64) : ToolCommand :=
  ⟨name, program, args, timeoutSecs, none⟩

def inDir (c : ToolCommand) (dir : Path) : ToolCommand := { c with currentDir := some dir }

/-- Compares two modules. -/
def moduleDiff (config : Config) (jar original generated : Path) : ToolCommand :=
  custom moduleDiffName config.java.bytes
    [Bytes.ofString "-cp", jar.bytes, Bytes.ofString moduleDiffClass, original.bytes, generated.bytes,
      Bytes.ofString "Equivalence", Bytes.ofString (toString config.scope.toNat), Bytes.ofString "false",
      Bytes.ofString config.solver]
    config.timeoutSecs

/-- Executes a model in the directory `workdir`. -/
def analyzerExec (config : Config) (jar model workdir : Path) : ToolCommand :=
  (custom analyzerExecName config.java.bytes
    [Bytes.ofString "-jar", jar.bytes, Bytes.ofString "exec", Bytes.ofString "-f", model.bytes]
    config.timeoutSecs).inDir workdir

/-- The limit in seconds that the command runs under. -/
def limit (c : ToolCommand) : UInt64 := max c.timeoutSecs minTimeoutSecs

/-- Program and arguments for people to read, not to run. -/
def commandLine (c : ToolCommand) : String :=
  " ".intercalate ((c.program :: c.args).map Utf8.lossy)

end ToolCommand

end AlloyGrade
