import AlloyGrade.Path

/-! What a scoring run needs to know: the launcher, the two jars, the analysis scope, the solver, the
limit for each tool and the directory the analyzer runs in. -/

namespace AlloyGrade

/-- The jars of the two tools. -/
structure Artifacts where
  diffJar : Path
  analyzerJar : Path
deriving BEq, DecidableEq, Repr

namespace Artifacts

def diffJarName : String := "alloy-diff.jar"

def analyzerJarName : String := "org.alloytools.alloy.dist.jar"

/-- Both jars under their usual names in one directory. -/
def inDir (dir : Path) : Artifacts :=
  ⟨dir.join (.ofString diffJarName), dir.join (.ofString analyzerJarName)⟩

end Artifacts

structure Config where
  java : Path
  artifacts : Artifacts
  scope : UInt32
  solver : String
  timeoutSecs : UInt64
  workdir : Path
deriving BEq, DecidableEq, Repr

namespace Config

def defaultJava : String := "java"

def defaultScope : UInt32 := 3

def defaultSolver : String := "sat4j"

def defaultTimeoutSecs : UInt64 := 300

/-- Everything in the current directory. -/
def default : Config where
  java := .ofString defaultJava
  artifacts := .inDir (.ofString ".")
  scope := defaultScope
  solver := defaultSolver
  timeoutSecs := defaultTimeoutSecs
  workdir := .ofString "."

def withToolsDir (c : Config) (dir : Path) : Config := { c with artifacts := .inDir dir }

def withJava (c : Config) (java : Path) : Config := { c with java }

def withTimeoutSecs (c : Config) (timeoutSecs : UInt64) : Config := { c with timeoutSecs }

def withWorkdir (c : Config) (workdir : Path) : Config := { c with workdir }

end Config

end AlloyGrade
