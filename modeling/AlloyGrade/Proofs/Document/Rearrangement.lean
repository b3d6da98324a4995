import AlloyGrade.Document.Read
import AlloyGrade.Proofs.Json.Rearranged

/-! Scores, configurations and reports are read from every document that says the same. -/

namespace AlloyGrade

open Json

/-! ### Single values -/

theorem blind_pathReader : Blind pathReader := (blind_text _).bind fun _ => settled_pure _

theorem blind_instantReader : Blind instantReader := by
  refine (blind_text _).bind fun t => ?_
  cases Instant.read t with
  | ok t => exact settled_pure t
  | error e => exact settled_fail _

/-! ### Scores -/

namespace Score

theorem blind_points : Blind points := (blind_natural 255 "u8").bind fun _ => settled_pure _

def slots : List (Slot Partial) :=
  [⟨"score", false, UInt8, points, fun s => s.score.isSome, fun s v => { s with score := some v }, blind_points,
    fun _ _ => rfl⟩,
   ⟨"max_score", false, UInt8, points, fun s => s.maxScore.isSome, fun s v => { s with maxScore := some v }, blind_points,
    fun _ _ => rfl⟩]

def fields : List Field := [.plain "score" false, .plain "max_score" false]

theorem has_slots : record.Has slots where
  members_eq := rfl
  apart := List.pairwise_pair.mpr ⟨by decide, fun _ _ => rfl, fun _ _ => rfl, fun _ _ _ => rfl⟩
  start := by simp [slots, record]
  null := by simp [slots]

theorem keeps : Keeps fields reader := has_slots.keeps (.cons ⟨rfl, rfl⟩ (.cons ⟨rfl, rfl⟩ .nil))

end Score

/-! ### Configurations -/

namespace Artifacts

def slots : List (Slot Partial) :=
  [⟨"diff_jar", false, Path, pathReader, fun s => s.diffJar.isSome, fun s v => { s with diffJar := some v },
    blind_pathReader, fun _ _ => rfl⟩,
   ⟨"analyzer_jar", false, Path, pathReader, fun s => s.analyzerJar.isSome, fun s v => { s with analyzerJar := some v },
    blind_pathReader, fun _ _ => rfl⟩]

def fields : List Field := [.plain "diff_jar" false, .plain "analyzer_jar" false]

theorem has_slots : record.Has slots where
  members_eq := rfl
  apart := List.pairwise_pair.mpr ⟨by decide, fun _ _ => rfl, fun _ _ => rfl, fun _ _ _ => rfl⟩
  start := by simp [slots, record]
  null := by simp [slots]

theorem keeps : Keeps fields reader := has_slots.keeps (.cons ⟨rfl, rfl⟩ (.cons ⟨rfl, rfl⟩ .nil))

end Artifacts

namespace Config

def slots : List (Slot Partial) :=
  [⟨"java", false, Path, pathReader, fun s => s.java.isSome, fun s v => { s with java := some v }, blind_pathReader,
    fun _ _ => rfl⟩,
   ⟨"artifacts", false, Artifacts, Artifacts.reader, fun s => s.artifacts.isSome, fun s v => { s with artifacts := some v },
    Artifacts.has_slots.blind, fun _ _ => rfl⟩,
   ⟨"scope", false, Nat, natural 4294967295 "u32", fun s => s.scope.isSome,
    fun s v => { s with scope := some (UInt32.ofNat v) }, blind_natural _ _, fun _ _ => rfl⟩,
   ⟨"solver", false, String, stringReader, fun s => s.solver.isSome, fun s v => { s with solver := some v },
    blind_text _, fun _ _ => rfl⟩,
   ⟨"timeout_secs", false, Nat, natural maxWord "u64", fun s => s.timeoutSecs.isSome,
    fun s v => { s with timeoutSecs := some (UInt64.ofNat v) }, blind_natural _ _, fun _ _ => rfl⟩,
   ⟨"workdir", false, Path, pathReader, fun s => s.workdir.isSome, fun s v => { s with workdir := some v },
    blind_pathReader, fun _ _ => rfl⟩]

def fields : List Field :=
  [.plain "java" false, .struct "artifacts" false Artifacts.fields, .plain "scope" false, .plain "solver" false,
   .plain "timeout_secs" false, .plain "workdir" false]

theorem has_slots : record.Has slots where
  members_eq := rfl
  apart := by
    simp only [slots, List.pairwise_cons, List.forall_mem_cons, List.not_mem_nil, false_implies, implies_true,
      List.Pairwise.nil, and_true]
    refine ⟨⟨?_, ?_, ?_, ?_, ?_⟩, ⟨?_, ?_, ?_, ?_⟩, ⟨?_, ?_, ?_⟩, ⟨?_, ?_⟩, ?_⟩
    all_goals exact ⟨by decide, fun _ _ => rfl, fun _ _ => rfl, fun _ _ _ => rfl⟩
  start := by simp [slots, record]
  null := by simp [slots]

theorem keeps : Keeps fields reader := by
  refine has_slots.keeps (.cons ⟨rfl, rfl⟩ (.cons ⟨rfl, rfl, Artifacts.keeps⟩ (.cons ⟨rfl, rfl⟩ (.cons ⟨rfl, rfl⟩ ?_))))
  exact .cons ⟨rfl, rfl⟩ (.cons ⟨rfl, rfl⟩ .nil)

end Config

/-! ### Reports -/

namespace ModelDigest

def slots : List (Slot Partial) :=
  [⟨"path", false, Path, pathReader, fun s => s.path.isSome, fun s v => { s with path := some v }, blind_pathReader,
    fun _ _ => rfl⟩,
   ⟨"sha256", true, Option String, nullable stringReader, fun s => s.sha256.isSome, fun s v => { s with sha256 := some v },
    (blind_text _).nullable, fun _ _ => rfl⟩]

def fields : List Field := [.plain "path" false, .plain "sha256" true]

/-- A digest that is `null` is as good as none. -/
theorem finish_null {s : Partial} (h : s.sha256.isSome = false) :
    record.finish { s with sha256 := some none } = record.finish s := by
  obtain ⟨path, sha256⟩ := s
  cases sha256 with
  | none => rfl
  | some => cases h

theorem has_slots : record.Has slots where
  members_eq := rfl
  apart := List.pairwise_pair.mpr ⟨by decide, fun _ _ => rfl, fun _ _ => rfl, fun _ _ _ => rfl⟩
  start := by simp [slots, record]
  null := by
    simp only [slots, List.forall_mem_cons, List.not_mem_nil, false_implies, implies_true, and_true]
    exact ⟨nofun, fun _ => ⟨none, means_null _, fun _ => finish_null⟩⟩

theorem keeps : Keeps fields reader := has_slots.keeps (.cons ⟨rfl, rfl⟩ (.cons ⟨rfl, rfl⟩ .nil))

end ModelDigest

namespace Report

def slots : List (Slot Partial) :=
  [⟨"original", false, ModelDigest, ModelDigest.reader, fun s => s.original.isSome,
    fun s v => { s with original := some v }, ModelDigest.has_slots.blind, fun _ _ => rfl⟩,
   ⟨"generated", false, ModelDigest, ModelDigest.reader, fun s => s.generated.isSome,
    fun s v => { s with generated := some v }, ModelDigest.has_slots.blind, fun _ _ => rfl⟩,
   ⟨"syntax", true, Option Score, nullable Score.reader, fun s => s.validity.isSome,
    fun s v => { s with validity := some v }, Score.has_slots.blind.nullable, fun _ _ => rfl⟩,
   ⟨"equivalence", false, Score, Score.reader, fun s => s.equivalence.isSome,
    fun s v => { s with equivalence := some v }, Score.has_slots.blind, fun _ _ => rfl⟩,
   ⟨"started_at", false, Instant, instantReader, fun s => s.startedAt.isSome, fun s v => { s with startedAt := some v },
    blind_instantReader, fun _ _ => rfl⟩,
   ⟨"duration_ms", false, Nat, natural maxWord "u64", fun s => s.durationMs.isSome,
    fun s v => { s with durationMs := some (UInt64.ofNat v) }, blind_natural _ _, fun _ _ => rfl⟩]

def fields : List Field :=
  [.struct "original" false ModelDigest.fields, .struct "generated" false ModelDigest.fields,
   .struct "syntax" true Score.fields, .struct "equivalence" false Score.fields, .plain "started_at" false,
   .plain "duration_ms" false]

/-- A validity score that is `null` is as good as none. -/
theorem finish_null {s : Partial} (h : s.validity.isSome = false) :
    record.finish { s with validity := some none } = record.finish s := by
  obtain ⟨original, generated, validity, equivalence, startedAt, durationMs⟩ := s
  cases validity with
  | none => rfl
  | some => cases h

theorem has_slots : record.Has slots where
  members_eq := rfl
  apart := by
    simp only [slots, List.pairwise_cons, List.forall_mem_cons, List.not_mem_nil, false_implies, implies_true,
      List.Pairwise.nil, and_true]
    refine ⟨⟨?_, ?_, ?_, ?_, ?_⟩, ⟨?_, ?_, ?_, ?_⟩, ⟨?_, ?_, ?_⟩, ⟨?_, ?_⟩, ?_⟩
    all_goals exact ⟨by decide, fun _ _ => rfl, fun _ _ => rfl, fun _ _ _ => rfl⟩
  start := by simp [slots, record]
  null := by
    simp only [slots, List.forall_mem_cons, List.not_mem_nil, false_implies, implies_true, and_true]
    exact ⟨nofun, nofun, fun _ => ⟨none, means_null _, fun _ => finish_null⟩, nofun, nofun, nofun⟩

theorem keeps : Keeps fields reader := by
  have hvalidity := Score.keeps.nullable Score.has_slots.blind
  refine has_slots.keeps (.cons ⟨rfl, rfl, ModelDigest.keeps⟩ (.cons ⟨rfl, rfl, ModelDigest.keeps⟩ ?_))
  refine .cons ⟨rfl, rfl, hvalidity⟩ (.cons ⟨rfl, rfl, Score.keeps⟩ ?_)
  exact .cons ⟨rfl, rfl⟩ (.cons ⟨rfl, rfl⟩ .nil)

end Report

/-! ### Whole documents -/

/-- A value that has been read from one document is read from every document that says the same, in every layout. -/
theorem Json.Keeps.read {α : Type} {fields : List Field} {reader : Reader α} (h : Keeps fields reader)
    (hblind : Blind reader) {x y : Tree} {t u : String} (hx : x.Spells t) (hy : y.Spells u)
    (hxy : Rearranged fields x y) {v : α} (hread : Json.read reader t = .ok v) : Json.read reader u = .ok v :=
  (h hxy (hblind.means_of_read hx hread)).read hy

/-- What is read does not depend on white space, on the order of the members, on members with other names, on whether
`null` is written or left out, or on whether a struct is an object or an array of its values. -/
theorem reading_ignores_arrangement {x y : Tree} {t u : String} (hx : x.Spells t) (hy : y.Spells u) :
    (Rearranged Score.fields x y → ∀ v, Json.read Score.reader t = .ok v → Json.read Score.reader u = .ok v) ∧
    (Rearranged Artifacts.fields x y → ∀ v, Json.read Artifacts.reader t = .ok v → Json.read Artifacts.reader u = .ok v) ∧
    (Rearranged Config.fields x y → ∀ v, Json.read Config.reader t = .ok v → Json.read Config.reader u = .ok v) ∧
    (Rearranged ModelDigest.fields x y →
      ∀ v, Json.read ModelDigest.reader t = .ok v → Json.read ModelDigest.reader u = .ok v) ∧
    (Rearranged Report.fields x y → ∀ v, Json.read Report.reader t = .ok v → Json.read Report.reader u = .ok v) :=
  ⟨fun h _ hv => Score.keeps.read Score.has_slots.blind hx hy h hv,
   fun h _ hv => Artifacts.keeps.read Artifacts.has_slots.blind hx hy h hv,
   fun h _ hv => Config.keeps.read Config.has_slots.blind hx hy h hv,
   fun h _ hv => ModelDigest.keeps.read ModelDigest.has_slots.blind hx hy h hv,
   fun h _ hv => Report.keeps.read Report.has_slots.blind hx hy h hv⟩

/-! A digest without a hash, in three documents. -/

/-- Characters that are written as they are. -/
def plainly (s : String) : List Glyph :=
  s.toList.filterMap fun c =>
    if h : c ≠ '"' ∧ c ≠ '\\' ∧ ¬c.toNat < 0x20 then some (.plain c h.1 h.2.1 h.2.2) else none

namespace ModelDigest

def bareTree : Tree := .object [(plainly "path", .string (plainly "m"))]

def notedTree : Tree :=
  .object [(plainly "sha256", .null), (plainly "note", .array [.null, .object []]), (plainly "path", .string (plainly "m"))]

def listedTree : Tree := .array [.string (plainly "m"), .null]

theorem spells_bareTree : bareTree.Spells "\x7b\"path\":\"m\"\x7d" := layout_spaced isSpace_of_mem_nil bareTree.tokens

theorem read_bareTree : Json.read reader "\x7b\"path\":\"m\"\x7d" = .ok ⟨.ofString "m", none⟩ := by
  have hpath : Means pathReader (.string (plainly "m")) (.ofString "m") := (means_text rfl _).bind rfl
  have hgathers : Gathers slots record.start [(plainly "path", .string (plainly "m"))] ⟨some (.ofString "m"), none⟩ :=
    .store _ (.head _) rfl rfl hpath (.done _)
  exact (Record.Makes.means has_slots (.object hgathers ⟨rfl, rfl⟩)).read spells_bareTree

theorem rearranged_notedTree : Rearranged fields bareTree notedTree := by
  have hname : spelling? (plainly "note") = some "note" := rfl
  refine .trans (.insert (.array [.null, .object []]) hname ?_) (.giveNull (.tail _ (.head _)) rfl rfl ?_)
  · simp [fields, Field.name]
  · simp only [Lacks, List.forall_mem_cons, List.not_mem_nil, false_implies, implies_true, and_true]
    decide

theorem rearranged_listedTree : Rearranged fields bareTree listedTree := by
  refine .list (.cons (.given (.head _) rfl) (.cons (.absent rfl ?_) .nil))
  simp only [Lacks, List.forall_mem_cons, List.not_mem_nil, false_implies, implies_true, and_true]
  decide

end ModelDigest

theorem reading_ignores_arrangement_bareDigest :
    Json.read ModelDigest.reader "\x7b\"path\":\"m\"\x7d" = .ok ⟨.ofString "m", none⟩ ∧
    Json.read ModelDigest.reader " \x7b \"sha256\" : null , \"note\" : [ null , \x7b \x7d ] , \"path\" : \"m\" \x7d" =
      .ok ⟨.ofString "m", none⟩ ∧
    Json.read ModelDigest.reader " [ \"m\" , null ]" = .ok ⟨.ofString "m", none⟩ := by
  have hspace := isSpace_of_mem_singleton (c := ' ') rfl
  have hnoted : ModelDigest.notedTree.Spells
      " \x7b \"sha256\" : null , \"note\" : [ null , \x7b \x7d ] , \"path\" : \"m\" \x7d" :=
    layout_spaced hspace ModelDigest.notedTree.tokens
  have hlisted : ModelDigest.listedTree.Spells " [ \"m\" , null ]" :=
    layout_spaced hspace ModelDigest.listedTree.tokens
  obtain ⟨-, -, -, hread, -⟩ := reading_ignores_arrangement ModelDigest.spells_bareTree hnoted
  obtain ⟨-, -, -, hread', -⟩ := reading_ignores_arrangement ModelDigest.spells_bareTree hlisted
  exact ⟨ModelDigest.read_bareTree, hread ModelDigest.rearranged_notedTree _ ModelDigest.read_bareTree,
    hread' ModelDigest.rearranged_listedTree _ ModelDigest.read_bareTree⟩

end AlloyGrade
