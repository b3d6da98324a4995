import AlloyGrade.Json.Record
import AlloyGrade.Mode
import AlloyGrade.Report
import AlloyGrade.Time.Reading

/-! Scores, configurations and reports from JSON. -/

namespace AlloyGrade

def pathReader : Json.Reader Path := do return .ofString (← Json.text "path string")

def stringReader : Json.Reader String := Json.text "a string"

/-! ### Scores and modes -/

namespace Score

structure Partial where
  score : Option UInt8
  maxScore : Option UInt8

def points : Json.Reader UInt8 := do return UInt8.ofNat (← Json.natural 255 "u8")

def record : Json.Record Partial Score where
  label := "struct Score"
  members :=
    [⟨"score", fun s => s.score.isSome, fun s => do return { s with score := some (← points) }, false⟩,
     ⟨"max_score", fun s => s.maxScore.isSome, fun s => do return { s with maxScore := some (← points) }, false⟩]
  start := ⟨none, none⟩
  finish s := do return ⟨← s.score, ← s.maxScore⟩

def reader : Json.Reader Score := record.read

end Score

namespace Mode

def nameReader : Json.Reader Mode := do
  let name ← Json.text "variant identifier"
  match ofName? name with
  | some mode => return mode
  | none => Scan.fail (.data ("unknown variant `" ++ name ++ "`, expected `combined` or `equivalence_only`"))

/-- A name, or an object whose only member has that name and the value `null`. -/
def reader : Json.Reader Mode := do
  let c ← Json.peekToken
  if c = '"' then nameReader
  else if c = '\x7b' then
    Scan.skip
    if (← Json.peekToken) ≠ '"' then Scan.fail .malformed
    let mode ← nameReader
    Json.colon
    if (← Json.peekToken) = 'n' then Json.letters "null".toList else Json.unexpected "unit"
    if (← Json.peekToken) = '\x7d' then
      Scan.skip
      return mode
    else Scan.fail .malformed
  else Scan.fail .malformed

end Mode

/-! ### Configurations -/

namespace Artifacts

structure Partial where
  diffJar : Option Path
  analyzerJar : Option Path

def record : Json.Record Partial Artifacts where
  label := "struct ToolArtifacts"
  members :=
    [⟨"diff_jar", fun s => s.diffJar.isSome, fun s => do return { s with diffJar := some (← pathReader) }, false⟩,
     ⟨"analyzer_jar", fun s => s.analyzerJar.isSome,
      fun s => do return { s with analyzerJar := some (← pathReader) }, false⟩]
  start := ⟨none, none⟩
  finish s := do return ⟨← s.diffJar, ← s.analyzerJar⟩

def reader : Json.Reader Artifacts := record.read

end Artifacts

namespace Config

structure Partial where
  java : Option Path
  artifacts : Option Artifacts
  scope : Option UInt32
  solver : Option String
  timeoutSecs : Option UInt64
  workdir : Option Path

def record : Json.Record Partial Config where
  label := "struct ScoringConfig"
  members :=
    [⟨"java", fun s => s.java.isSome, fun s => do return { s with java := some (← pathReader) }, false⟩,
     ⟨"artifacts", fun s => s.artifacts.isSome,
      fun s => do return { s with artifacts := some (← Artifacts.reader) }, false⟩,
     ⟨"scope", fun s => s.scope.isSome,
      fun s => do return { s with scope := some (UInt32.ofNat (← Json.natural 4294967295 "u32")) }, false⟩,
     ⟨"solver", fun s => s.solver.isSome, fun s => do return { s with solver := some (← stringReader) }, false⟩,
     ⟨"timeout_secs", fun s => s.timeoutSecs.isSome,
      fun s => do return { s with timeoutSecs := some (UInt64.ofNat (← Json.natural Json.maxWord "u64")) }, false⟩,
     ⟨"workdir", fun s => s.workdir.isSome, fun s => do return { s with workdir := some (← pathReader) }, false⟩]
  start := ⟨none, none, none, none, none, none⟩
  finish s := do
    return ⟨← s.java, ← s.artifacts, ← s.scope, ← s.solver, ← s.timeoutSecs, ← s.workdir⟩

def reader : Json.Reader Config := record.read

end Config

/-! ### Reports -/

namespace ModelDigest

structure Partial where
  path : Option Path
  sha256 : Option (Option String)

def record : Json.Record Partial ModelDigest where
  label := "struct ModelDigest"
  members :=
    [⟨"path", fun s => s.path.isSome, fun s => do return { s with path := some (← pathReader) }, false⟩,
     ⟨"sha256", fun s => s.sha256.isSome,
      fun s => do return { s with sha256 := some (← Json.nullable stringReader) }, true⟩]
  start := ⟨none, none⟩
  finish s := do return ⟨← s.path, s.sha256.getD none⟩

def reader : Json.Reader ModelDigest := record.read

end ModelDigest

def instantReader : Json.Reader Instant := do
  match Instant.read (← Json.text "an RFC 3339 formatted date and time string") with
  | .ok t => return t
  | .error e => Scan.fail (.data e.message)

namespace Report

structure Partial where
  original : Option ModelDigest
  generated : Option ModelDigest
  validity : Option (Option Score)
  equivalence : Option Score
  startedAt : Option Instant
  durationMs : Option UInt64

def record : Json.Record Partial Report where
  label := "struct ScoreReport"
  members :=
    [⟨"original", fun s => s.original.isSome,
      fun s => do return { s with original := some (← ModelDigest.reader) }, false⟩,
     ⟨"generated", fun s => s.generated.isSome,
      fun s => do return { s with generated := some (← ModelDigest.reader) }, false⟩,
     ⟨"syntax", fun s => s.validity.isSome,
      fun s => do return { s with validity := some (← Json.nullable Score.reader) }, true⟩,
     ⟨"equivalence", fun s => s.equivalence.isSome,
      fun s => do return { s with equivalence := some (← Score.reader) }, false⟩,
     ⟨"started_at", fun s => s.startedAt.isSome,
      fun s => do return { s with startedAt := some (← instantReader) }, false⟩,
     ⟨"duration_ms", fun s => s.durationMs.isSome,
      fun s => do return { s with durationMs := some (UInt64.ofNat (← Json.natural Json.maxWord "u64")) }, false⟩]
  start := ⟨none, none, none, none, none, none⟩
  finish s := do
    return ⟨← s.original, ← s.generated, s.validity.getD none, ← s.equivalence, ← s.startedAt, ← s.durationMs⟩

def reader : Json.Reader Report := record.read

end Report

end AlloyGrade
