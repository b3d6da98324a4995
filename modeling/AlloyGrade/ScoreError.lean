import AlloyGrade.Config
import AlloyGrade.Files.Resolve

/-! Why a scoring call gives no score at all, and the checks that are made before a tool is launched. A tool's failure
is never among the reasons. -/

namespace AlloyGrade

inductive ScoreError where
  | missingInput (role : String) (path : Path)
  | missingArtifact (name : String) (path : Path)
  | io (source : IoError)
deriving DecidableEq, Repr

namespace ScoreError

def message : ScoreError → String
  | .missingInput role path => role ++ " file not found: " ++ path.display
  | .missingArtifact name path => name ++ " not found at: " ++ path.display
  | .io source => "IO error: " ++ source.message

/-- The error underneath. -/
def source? : ScoreError → Option IoError
  | .io source => some source
  | _ => none

end ScoreError

/-! ### Checks -/

/-- A jar has to be a regular file. -/
def requireArtifact (cwd : Location) (fs : FileSystem) (name : String) (path : Path) : Except ScoreError Path :=
  if fs.isFile cwd path then .ok path else .error (.missingArtifact name path)

/-- A model only has to exist. -/
def requireInput (cwd : Location) (fs : FileSystem) (role : String) (path : Path) : Except ScoreError Unit :=
  if fs.pathExists cwd path then .ok () else .error (.missingInput role path)

namespace Artifacts

def requireDiffJar (a : Artifacts) (cwd : Location) (fs : FileSystem) : Except ScoreError Path :=
  requireArtifact cwd fs "Alloy Diff JAR" a.diffJar

def requireAnalyzerJar (a : Artifacts) (cwd : Location) (fs : FileSystem) : Except ScoreError Path :=
  requireArtifact cwd fs "Alloy Analyzer JAR" a.analyzerJar

end Artifacts

end AlloyGrade
