import AlloyGrade.Text.Bytes

/-! The arguments that the command line knows: options with a value, flags, and the two files. -/

namespace AlloyGrade.CommandLine

inductive ValueOption where
  | format
  | java
  | toolsDir
  | scope
  | solver
  | timeoutSecs
  | workdir
deriving DecidableEq, Repr

namespace ValueOption

def all : List ValueOption := [.format, .java, .toolsDir, .scope, .solver, .timeoutSecs, .workdir]

def name : ValueOption → String
  | .format => "format"
  | .java => "java"
  | .toolsDir => "tools-dir"
  | .scope => "scope"
  | .solver => "solver"
  | .timeoutSecs => "timeout-secs"
  | .workdir => "workdir"

def valueName : ValueOption → String
  | .format => "FORMAT"
  | .java => "JAVA"
  | .toolsDir => "TOOLS_DIR"
  | .scope => "SCOPE"
  | .solver => "SOLVER"
  | .timeoutSecs => "TIMEOUT_SECS"
  | .workdir => "WORKDIR"

/-- The environment variable that stands in for an absent option. -/
def envVariable : ValueOption → Option String
  | .format => none
  | o => some ("ALLOY_" ++ o.valueName)

end ValueOption

inductive Flag where
  | equivalenceOnly
  | verbose
  | jsonLogs
deriving DecidableEq, Repr

namespace Flag

def all : List Flag := [.equivalenceOnly, .verbose, .jsonLogs]

def name : Flag → String
  | .equivalenceOnly => "equivalence-only"
  | .verbose => "verbose"
  | .jsonLogs => "json-logs"

end Flag

/-- What is asked for instead of a scoring run. -/
inductive Inquiry where
  | help (long : Bool)
  | version
deriving DecidableEq, Repr

inductive FileRole where
  | original
  | generated
deriving DecidableEq, Repr

inductive Argument where
  | option (o : ValueOption)
  | flag (f : Flag)
  | file (r : FileRole)
  | help
  | version
deriving DecidableEq, Repr

namespace Argument

/-- The argument as messages and help show it. -/
def shown : Argument → String
  | .option o => "--" ++ o.name ++ " <" ++ o.valueName ++ ">"
  | .flag f => "--" ++ f.name
  | .file .original => "<ORIGINAL_FILE>"
  | .file .generated => "<GENERATED_FILE>"
  | .help => "--help"
  | .version => "--version"

end Argument

/-- The argument that a long name stands for; names are never shortened. -/
def Argument.ofName? (name : Bytes) : Option Argument :=
  let known := ValueOption.all.map (fun o => (o.name, Argument.option o)) ++
    Flag.all.map (fun f => (f.name, Argument.flag f)) ++ [("help", .help), ("version", .version)]
  (known.find? fun (n, _) => Bytes.ofString n == name).map (·.2)

end AlloyGrade.CommandLine
