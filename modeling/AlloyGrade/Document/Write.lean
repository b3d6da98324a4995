import AlloyGrade.Json.Basic
import AlloyGrade.Mode
import AlloyGrade.Report

/-! Scores, configurations and reports as JSON. A path goes into a document only if it is UTF-8; it is
never written lossily. -/

namespace AlloyGrade

inductive WriteError where
  | pathNotUtf8
deriving DecidableEq, Repr

def WriteError.message : WriteError → String
  | .pathNotUtf8 => "path contains invalid UTF-8 characters"

def Path.toJson (p : Path) : Except WriteError Json :=
  match Utf8.decode? p.bytes with
  | some s => .ok (.str s)
  | none => .error .pathNotUtf8

def Score.toJson (s : Score) : Json :=
  .obj [("score", .int s.score.toNat), ("max_score", .int s.maxScore.toNat)]

def Mode.toJson (m : Mode) : Json := .str m.name

def Artifacts.toJson (a : Artifacts) : Except WriteError Json := do
  let diffJar ← a.diffJar.toJson
  let analyzerJar ← a.analyzerJar.toJson
  return .obj [("diff_jar", diffJar), ("analyzer_jar", analyzerJar)]

def Config.toJson (c : Config) : Except WriteError Json := do
  let java ← c.java.toJson
  let artifacts ← c.artifacts.toJson
  let workdir ← c.workdir.toJson
  return .obj [("java", java), ("artifacts", artifacts), ("scope", .int c.scope.toNat),
    ("solver", .str c.solver), ("timeout_secs", .int c.timeoutSecs.toNat), ("workdir", workdir)]

def ModelDigest.toJson (d : ModelDigest) : Except WriteError Json := do
  let path ← d.path.toJson
  return .obj ([("path", path)] ++ (d.sha256.map fun digest => ("sha256", Json.str digest)).toList)

def Report.toJson (r : Report) : Except WriteError Json := do
  let original ← r.original.toJson
  let generated ← r.generated.toJson
  return .obj ([("original", original), ("generated", generated)] ++
    (r.validity.map fun score => ("syntax", score.toJson)).toList ++
    [("equivalence", r.equivalence.toJson), ("started_at", .str r.startedAt.display),
      ("duration_ms", .int r.durationMs.toNat)])

end AlloyGrade
