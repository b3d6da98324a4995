import AlloyGrade.Digest.Hex
import AlloyGrade.Digest.Sha256
import AlloyGrade.Files.Access
import AlloyGrade.Log.Event
import AlloyGrade.Time.Instant

/-! The result of a scoring run: the two models with their digests, and the scores. -/

namespace AlloyGrade

/-- Points given to a model: how many out of how many. -/
structure Score where
  score : UInt8
  maxScore : UInt8
deriving DecidableEq, Repr

namespace Score

/-- The points a check that passes is worth. -/
def full : UInt8 := 1

def ofPassed (passed : Bool) : Score := ⟨if passed then full else 0, full⟩

def passed (s : Score) : Bool := s.score == s.maxScore

def display (s : Score) : String := toString s.score.toNat ++ "/" ++ toString s.maxScore.toNat

end Score

/-- A model as the caller named it, and the digest of its contents if it could be read. -/
structure ModelDigest where
  path : Path
  sha256 : Option String
deriving BEq, DecidableEq, Repr

namespace ModelDigest

/-- The digest of a regular file; nothing else is opened. -/
def hashFile (cwd : Location) (path : Path) : Access String := do
  match ← Access.stat cwd path with
  | (_, .file _) => return Hex.encode (Sha256.digest (← Access.read cwd path))
  | _ => Access.fail .notRegular

/-- A model that cannot be digested is reported and left without a digest. -/
def ofFile (cwd : Location) (fs : FileSystem) (path : Path) : ModelDigest × List Event :=
  match (hashFile cwd path fs).1 with
  | .ok digest => (⟨path, some digest⟩, [])
  | .error e => (⟨path, none⟩, [.notDigested path e])

end ModelDigest

structure Report where
  original : ModelDigest
  generated : ModelDigest
  /-- Absent if the generated model was not checked on its own. -/
  validity : Option Score
  equivalence : Score
  startedAt : Instant
  durationMs : UInt64
deriving BEq, DecidableEq, Repr

namespace Report

/-- The scores, one to a line. -/
def lines (r : Report) : List String :=
  match r.validity with
  | some validity => ["Syntax Valid: " ++ validity.display, "Equivalence Score: " ++ r.equivalence.display]
  | none => [r.equivalence.display]

end Report

end AlloyGrade
