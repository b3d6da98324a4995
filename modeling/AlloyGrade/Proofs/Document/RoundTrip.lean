import AlloyGrade.CommandLine.Program
import AlloyGrade.Document.Read
import AlloyGrade.Document.Write
import AlloyGrade.Proofs.Except
import AlloyGrade.Proofs.Json.Records
import AlloyGrade.Proofs.Text.Utf8
import AlloyGrade.Proofs.Time.Accepted

/-! Scores, modes, configurations and reports come back from their own documents. A value is written exactly if all its
paths are UTF-8, its document is read back as the same value, and only such values are ever read: so a document that
has been read and written again does not change any more. -/

namespace AlloyGrade

open Scan Json

/-- The path is UTF-8. -/
def Path.IsText (p : Path) : Prop := ∃ s, p = .ofString s

/-- How values of one kind are written and read, and what is in them that a document may not be able to hold. -/
structure Format (α : Type) where
  write : α → Except WriteError Json
  reader : Reader α
  paths : α → List Path := fun _ => []
  instants : α → List Instant := fun _ => []

namespace Format

variable {α : Type} (f : Format α)

def Texts (v : α) : Prop := ∀ p ∈ f.paths v, p.IsText

def Dated (v : α) : Prop := ∀ t ∈ f.instants v, t.Valid

/-- What is written is read back, before anything that can follow it, and whatever is read can be written. -/
structure Faithful : Prop where
  written : ∀ v, (∃ document, f.write v = .ok document) ↔ f.Texts v
  reads : ∀ v document, f.write v = .ok document → f.Dated v → Reads f.reader document v
  accepted : Yields (fun v => f.Texts v ∧ f.Dated v) f.reader

/-- What this means for whole texts. -/
structure RoundTrips : Prop where
  /-- A value comes back from its own text. -/
  back : ∀ v, (∀ p ∈ f.paths v, p.IsText) → (∀ t ∈ f.instants v, t.Valid) →
    ∃ document, f.write v = .ok document ∧ Json.read f.reader document.pretty = .ok v
  /-- No path is ever written in another spelling. -/
  refused : ∀ v, (∃ p ∈ f.paths v, ¬p.IsText) →
    ∃ e, f.write v = .error e ∧ e.message = "path contains invalid UTF-8 characters"
  /-- A value that was read from some text is written as a text that gives it again. -/
  again : ∀ text v, Json.read f.reader text = .ok v →
    ∃ document, f.write v = .ok document ∧ Json.read f.reader document.pretty = .ok v

end Format

theorem Format.Faithful.roundTrips {α : Type} {f : Format α} (h : f.Faithful) : f.RoundTrips := by
  have hback {v : α} (htexts : f.Texts v) (hdated : f.Dated v) :
      ∃ document, f.write v = .ok document ∧ Json.read f.reader document.pretty = .ok v := by
    obtain ⟨document, hdocument⟩ := (h.written v).mpr htexts
    exact ⟨document, hdocument, (h.reads v document hdocument hdated).read_pretty⟩
  refine ⟨fun v => hback, fun v ⟨p, hp, hnot⟩ => ?_, fun text v hv => ?_⟩
  · cases hwrite : f.write v with
    | ok document => exact absurd ((h.written v).mp ⟨document, hwrite⟩ p hp) hnot
    | error e => exact ⟨e, rfl, by cases e; rfl⟩
  · obtain ⟨htexts, hdated⟩ := of_read h.accepted hv
    exact hback htexts hdated

theorem forall_mem_some {α : Type} {P : α → Prop} {a : α} (h : P a) : ∀ b ∈ some a, P b :=
  fun _ hb => Option.some.inj hb ▸ h

/-! ### Paths and instants -/

theorem Path.toJson_eq_ok_iff {p : Path} {document : Json} :
    p.toJson = .ok document ↔ ∃ s, p = .ofString s ∧ document = .str s := by
  constructor
  · intro h
    unfold Path.toJson at h
    split at h
    · rename_i s hs
      cases h
      exact ⟨s, congrArg Path.mk (Utf8.decode?_eq_some_iff.mp hs), rfl⟩
    · cases h
  · rintro ⟨s, rfl, rfl⟩
    have hdecode : Utf8.decode? (Path.ofString s).bytes = some s := Utf8.decode?_eq_some_iff.mpr rfl
    rw [Path.toJson, hdecode]

theorem Path.exists_toJson_iff {p : Path} : (∃ document, p.toJson = .ok document) ↔ p.IsText := by
  simp only [toJson_eq_ok_iff]
  exact ⟨fun ⟨_, s, hs, _⟩ => ⟨s, hs⟩, fun ⟨s, hs⟩ => ⟨_, s, hs, rfl⟩⟩

theorem Path.reads_toJson {p : Path} {document : Json} (h : p.toJson = .ok document) : Reads pathReader document p := by
  obtain ⟨s, rfl, rfl⟩ := toJson_eq_ok_iff.mp h
  exact (reads_text "path string" s).map Path.ofString

theorem Path.yields_isText : Yields Path.IsText pathReader := .after _ fun s => .of_pure ⟨s, rfl⟩

theorem Instant.reads_display {t : Instant} (h : t.Valid) : Reads instantReader (.str t.display) t := by
  intro depth blanks rest hb hr
  have htext := reads_text "an RFC 3339 formatted date and time string" t.display depth blanks rest hb hr
  refine (bind_of_ok htext).trans ?_
  rw [Instant.read_display h]
  rfl

theorem Instant.yields_valid : Yields Instant.Valid instantReader := by
  refine .after _ fun s => ?_
  split
  · rename_i t ht
    exact .of_pure (Instant.valid_of_read ht)
  · exact .of_fail _

/-! ### Scores and modes -/

/-- Values that any document can hold. -/
def Format.plain {α : Type} (write : α → Json) (reader : Reader α) : Format α where
  write v := .ok (write v)
  reader := reader

theorem Format.faithful_plain {α : Type} {write : α → Json} {reader : Reader α}
    (h : ∀ v, Reads reader (write v) v) : (plain write reader).Faithful where
  written v := ⟨fun _ => nofun, fun _ => ⟨_, rfl⟩⟩
  reads v document hdocument _ := by
    cases hdocument
    exact h v
  accepted := fun _ _ _ _ => ⟨nofun, nofun⟩

def Score.format : Format Score := .plain Score.toJson Score.reader

theorem Score.reads_points (n : UInt8) : Reads Score.points (.int n.toNat) n := by
  have hn : n.toNat ≤ 255 := Nat.le_of_lt_succ n.toNat_lt
  have hread := (reads_natural hn (by decide) "u8").map UInt8.ofNat
  rwa [UInt8.ofNat_toNat] at hread

theorem Score.reads_toJson (s : Score) : Reads Score.reader s.toJson s := by
  have hstores : record.Stores record.start [("score", .int s.score.toNat), ("max_score", .int s.maxScore.toNat)]
      ⟨some s.score, some s.maxScore⟩ :=
    .next rfl rfl ((reads_points s.score).map _) (.next rfl rfl ((reads_points s.maxScore).map _) (.done _))
  exact hstores.reads rfl rfl

def Mode.format : Format Mode := .plain Mode.toJson Mode.reader

theorem Mode.reads_toJson (m : Mode) : Reads Mode.reader m.toJson m := by
  intro depth blanks rest hb hr
  have hname : Mode.ofName? m.name = some m := by cases m <;> decide
  have htext := reads_text "variant identifier" m.name depth [] rest isSpace_of_mem_nil hr
  obtain ⟨cs, hcs, -⟩ := string_quoted m.name rest
  rw [prettyChars_str, List.nil_append, hcs] at htext
  rw [Mode.toJson, prettyChars_str, hcs, Mode.reader, peekToken_bind hb (by decide), if_pos rfl]
  refine (bind_of_ok htext).trans ?_
  rw [hname]
  rfl

/-! ### Configurations -/

namespace Artifacts

def paths (a : Artifacts) : List Path := [a.diffJar, a.analyzerJar]

theorem forall_paths {P : Path → Prop} {a : Artifacts} : (∀ p ∈ a.paths, P p) ↔ P a.diffJar ∧ P a.analyzerJar := by
  simp [paths]

theorem toJson_eq_ok_iff {a : Artifacts} {document : Json} : a.toJson = .ok document ↔
    ∃ diffJar analyzerJar, a.diffJar.toJson = .ok diffJar ∧ a.analyzerJar.toJson = .ok analyzerJar ∧
      .obj [("diff_jar", diffJar), ("analyzer_jar", analyzerJar)] = document := by
  simp [toJson, bind_eq_ok_iff, pure, Except.pure]

theorem exists_toJson_iff {a : Artifacts} : (∃ document, a.toJson = .ok document) ↔ ∀ p ∈ a.paths, p.IsText := by
  simp only [toJson_eq_ok_iff, forall_paths, ← Path.exists_toJson_iff]
  exact ⟨fun ⟨_, d, a, hd, ha, _⟩ => ⟨⟨d, hd⟩, a, ha⟩, fun ⟨⟨d, hd⟩, a, ha⟩ => ⟨_, d, a, hd, ha, rfl⟩⟩

theorem reads_toJson {a : Artifacts} {document : Json} (h : a.toJson = .ok document) : Reads reader document a := by
  obtain ⟨diffJar, analyzerJar, hdiff, hanalyzer, rfl⟩ := toJson_eq_ok_iff.mp h
  have hstores : record.Stores record.start [("diff_jar", diffJar), ("analyzer_jar", analyzerJar)]
      ⟨some a.diffJar, some a.analyzerJar⟩ :=
    .next rfl rfl ((Path.reads_toJson hdiff).map _) (.next rfl rfl ((Path.reads_toJson hanalyzer).map _) (.done _))
  exact hstores.reads rfl rfl

/-- The paths collected so far are UTF-8. -/
def Partial.IsText (s : Partial) : Prop := (∀ p ∈ s.diffJar, p.IsText) ∧ ∀ p ∈ s.analyzerJar, p.IsText

theorem yields_isText : Yields (fun a : Artifacts => ∀ p ∈ a.paths, p.IsText) reader := by
  refine record.yields_read (I := Partial.IsText) ?_ ⟨nofun, nofun⟩ fun s a hs ha => ?_
  · simp only [record, List.forall_mem_cons]
    exact ⟨fun s hs => Path.yields_isText.bind fun p hp => .of_pure ⟨forall_mem_some hp, hs.2⟩,
      fun s hs => Path.yields_isText.bind fun p hp => .of_pure ⟨hs.1, forall_mem_some hp⟩, nofun⟩
  · simp only [record, Option.bind_eq_bind, Option.bind_eq_some_iff, Option.pure_def, Option.some.injEq] at ha
    obtain ⟨diffJar, hdiff, analyzerJar, hanalyzer, rfl⟩ := ha
    exact forall_paths.mpr ⟨hs.1 _ hdiff, hs.2 _ hanalyzer⟩

end Artifacts

namespace Config

def paths (c : Config) : List Path := c.java :: (c.artifacts.paths ++ [c.workdir])

theorem forall_paths {P : Path → Prop} {c : Config} :
    (∀ p ∈ c.paths, P p) ↔ P c.java ∧ (∀ p ∈ c.artifacts.paths, P p) ∧ P c.workdir := by
  simp [paths, or_imp, forall_and]

theorem toJson_eq_ok_iff {c : Config} {document : Json} : c.toJson = .ok document ↔
    ∃ java artifacts workdir, c.java.toJson = .ok java ∧ c.artifacts.toJson = .ok artifacts ∧
      c.workdir.toJson = .ok workdir ∧
      .obj [("java", java), ("artifacts", artifacts), ("scope", .int c.scope.toNat), ("solver", .str c.solver),
        ("timeout_secs", .int c.timeoutSecs.toNat), ("workdir", workdir)] = document := by
  simp [toJson, bind_eq_ok_iff, pure, Except.pure]

theorem exists_toJson_iff {c : Config} : (∃ document, c.toJson = .ok document) ↔ ∀ p ∈ c.paths, p.IsText := by
  rw [forall_paths, ← Artifacts.exists_toJson_iff, ← Path.exists_toJson_iff, ← Path.exists_toJson_iff]
  simp only [toJson_eq_ok_iff]
  exact ⟨fun ⟨_, j, a, w, hj, ha, hw, _⟩ => ⟨⟨j, hj⟩, ⟨a, ha⟩, w, hw⟩,
    fun ⟨⟨j, hj⟩, ⟨a, ha⟩, w, hw⟩ => ⟨_, j, a, w, hj, ha, hw, rfl⟩⟩

theorem reads_toJson {c : Config} {document : Json} (h : c.toJson = .ok document) : Reads reader document c := by
  obtain ⟨java, artifacts, workdir, hjava, hartifacts, hworkdir, rfl⟩ := toJson_eq_ok_iff.mp h
  have hscope := reads_natural (Nat.le_of_lt_succ c.scope.toNat_lt) (by decide) "u32"
  have htimeout := reads_natural (Nat.le_of_lt_succ c.timeoutSecs.toNat_lt) (Nat.le_refl maxWord) "u64"
  have hstores : record.Stores record.start
      [("java", java), ("artifacts", artifacts), ("scope", .int c.scope.toNat), ("solver", .str c.solver),
        ("timeout_secs", .int c.timeoutSecs.toNat), ("workdir", workdir)]
      ⟨some c.java, some c.artifacts, some (.ofNat c.scope.toNat), some c.solver, some (.ofNat c.timeoutSecs.toNat),
        some c.workdir⟩ :=
    .next rfl rfl ((Path.reads_toJson hjava).map _) <| .next rfl rfl ((Artifacts.reads_toJson hartifacts).map _) <|
    .next rfl rfl (hscope.map _) <| .next rfl rfl ((reads_text "a string" c.solver).map _) <|
    .next rfl rfl (htimeout.map _) <| .next rfl rfl ((Path.reads_toJson hworkdir).map _) (.done _)
  exact hstores.reads rfl (by simp [record])

/-- The paths collected so far are UTF-8. -/
def Partial.IsText (s : Partial) : Prop :=
  (∀ p ∈ s.java, p.IsText) ∧ (∀ a ∈ s.artifacts, ∀ p ∈ a.paths, p.IsText) ∧ ∀ p ∈ s.workdir, p.IsText

theorem yields_isText : Yields (fun c : Config => ∀ p ∈ c.paths, p.IsText) reader := by
  refine record.yields_read (I := Partial.IsText) ?_ ⟨nofun, nofun, nofun⟩ fun s c hs hc => ?_
  · simp only [record, List.forall_mem_cons]
    exact ⟨fun s hs => Path.yields_isText.bind fun p hp => .of_pure ⟨forall_mem_some hp, hs.2⟩,
      fun s hs => Artifacts.yields_isText.bind fun a ha => .of_pure ⟨hs.1, forall_mem_some ha, hs.2.2⟩,
      fun s hs => .after _ fun _ => .of_pure hs, fun s hs => .after _ fun _ => .of_pure hs,
      fun s hs => .after _ fun _ => .of_pure hs,
      fun s hs => Path.yields_isText.bind fun p hp => .of_pure ⟨hs.1, hs.2.1, forall_mem_some hp⟩, nofun⟩
  · simp only [record, Option.bind_eq_bind, Option.bind_eq_some_iff, Option.pure_def, Option.some.injEq] at hc
    obtain ⟨java, hjava, artifacts, hartifacts, scope, -, solver, -, timeout, -, workdir, hworkdir, rfl⟩ := hc
    exact forall_paths.mpr ⟨hs.1 _ hjava, hs.2.1 _ hartifacts, hs.2.2 _ hworkdir⟩

end Config

/-! ### Reports -/

namespace ModelDigest

theorem toJson_eq_ok_iff {d : ModelDigest} {document : Json} : d.toJson = .ok document ↔
    ∃ path, d.path.toJson = .ok path ∧
      .obj (("path", path) :: (d.sha256.map fun digest => ("sha256", Json.str digest)).toList) = document := by
  simp [toJson, bind_eq_ok_iff, pure, Except.pure]

theorem exists_toJson_iff {d : ModelDigest} : (∃ document, d.toJson = .ok document) ↔ d.path.IsText := by
  simp only [toJson_eq_ok_iff, ← Path.exists_toJson_iff]
  exact ⟨fun ⟨_, p, hp, _⟩ => ⟨p, hp⟩, fun ⟨p, hp⟩ => ⟨_, p, hp, rfl⟩⟩

theorem reads_toJson {d : ModelDigest} {document : Json} (h : d.toJson = .ok document) : Reads reader document d := by
  obtain ⟨path, hpath, rfl⟩ := toJson_eq_ok_iff.mp h
  have hread := Path.reads_toJson hpath
  obtain ⟨p, sha256⟩ := d
  cases sha256 with
  | none =>
    have hstores : record.Stores record.start [("path", path)] ⟨some p, none⟩ := .next rfl rfl (hread.map _) (.done _)
    exact hstores.reads rfl rfl
  | some digest =>
    have hdigest : Reads (nullable stringReader) (.str digest) (some digest) :=
      reads_nullable (reads_text "a string" digest) fun depth =>
        ⟨'"', _, prettyChars_str depth digest, by decide, by decide⟩
    have hstores : record.Stores record.start [("path", path), ("sha256", .str digest)] ⟨some p, some (some digest)⟩ :=
      .next rfl rfl (hread.map _) (.next rfl rfl (hdigest.map _) (.done _))
    exact hstores.reads rfl rfl

theorem yields_isText : Yields (fun d : ModelDigest => d.path.IsText) reader := by
  refine record.yields_read (I := fun s => ∀ p ∈ s.path, p.IsText) ?_ nofun fun s d hs hd => ?_
  · simp only [record, List.forall_mem_cons]
    exact ⟨fun s hs => Path.yields_isText.bind fun p hp => .of_pure (forall_mem_some hp),
      fun s hs => .after _ fun _ => .of_pure hs, nofun⟩
  · simp only [record, Option.bind_eq_bind, Option.bind_eq_some_iff, Option.pure_def, Option.some.injEq] at hd
    obtain ⟨path, hpath, rfl⟩ := hd
    exact hs _ hpath

end ModelDigest

namespace Report

theorem toJson_eq_ok_iff {r : Report} {document : Json} : r.toJson = .ok document ↔
    ∃ original generated, r.original.toJson = .ok original ∧ r.generated.toJson = .ok generated ∧
      .obj (("original", original) :: ("generated", generated) ::
        ((r.validity.map fun score => ("syntax", score.toJson)).toList ++
          [("equivalence", r.equivalence.toJson), ("started_at", .str r.startedAt.display),
            ("duration_ms", .int r.durationMs.toNat)])) = document := by
  simp [toJson, bind_eq_ok_iff, pure, Except.pure]

theorem exists_toJson_iff {r : Report} :
    (∃ document, r.toJson = .ok document) ↔ r.original.path.IsText ∧ r.generated.path.IsText := by
  simp only [toJson_eq_ok_iff, ← ModelDigest.exists_toJson_iff]
  exact ⟨fun ⟨_, o, g, ho, hg, _⟩ => ⟨⟨o, ho⟩, g, hg⟩, fun ⟨⟨o, ho⟩, g, hg⟩ => ⟨_, o, g, ho, hg, rfl⟩⟩

/-- The members behind the score of the generated model, whether or not there is one. -/
theorem stores_tail {r : Report} (hvalid : r.startedAt.Valid) (validity : Option (Option Score)) :
    record.Stores ⟨some r.original, some r.generated, validity, none, none, none⟩
      [("equivalence", r.equivalence.toJson), ("started_at", .str r.startedAt.display),
        ("duration_ms", .int r.durationMs.toNat)]
      ⟨some r.original, some r.generated, validity, some r.equivalence, some r.startedAt,
        some (.ofNat r.durationMs.toNat)⟩ := by
  have hequivalence := Score.reads_toJson r.equivalence
  have hstarted := Instant.reads_display hvalid
  have hduration := reads_natural (Nat.le_of_lt_succ r.durationMs.toNat_lt) (Nat.le_refl maxWord) "u64"
  exact .next rfl rfl (hequivalence.map _) <| .next rfl rfl (hstarted.map _) <|
    .next rfl rfl (hduration.map _) (.done _)

theorem reads_toJson {r : Report} {document : Json} (h : r.toJson = .ok document) (hvalid : r.startedAt.Valid) :
    Reads reader document r := by
  obtain ⟨original, generated, horiginal, hgenerated, rfl⟩ := toJson_eq_ok_iff.mp h
  have hmodels {members : List (String × Json)} {last : Partial}
      (htail : record.Stores ⟨some r.original, some r.generated, none, none, none, none⟩ members last) :
      record.Stores record.start (("original", original) :: ("generated", generated) :: members) last :=
    .next rfl rfl ((ModelDigest.reads_toJson horiginal).map _) <|
      .next rfl rfl ((ModelDigest.reads_toJson hgenerated).map _) htail
  cases hvalidity : r.validity with
  | none => exact (hmodels (stores_tail hvalid none)).reads rfl (by simp [record, ← hvalidity])
  | some score =>
    have hscore : Reads (nullable Score.reader) score.toJson (some score) :=
      reads_nullable (Score.reads_toJson score) fun depth => ⟨'\x7b', _, rfl, by decide, by decide⟩
    have hsyntax : record.Stores ⟨some r.original, some r.generated, none, none, none, none⟩
        (("syntax", score.toJson) :: _) _ :=
      .next rfl rfl (hscore.map _) (stores_tail hvalid (some (some score)))
    exact (hmodels hsyntax).reads rfl (by simp [record, ← hvalidity])

/-- What has been collected so far can be written. -/
def Partial.Writable (s : Partial) : Prop :=
  (∀ d ∈ s.original, d.path.IsText) ∧ (∀ d ∈ s.generated, d.path.IsText) ∧ ∀ t ∈ s.startedAt, t.Valid

theorem yields_writable :
    Yields (fun r : Report => (r.original.path.IsText ∧ r.generated.path.IsText) ∧ r.startedAt.Valid) reader := by
  refine record.yields_read (I := Partial.Writable) ?_ ⟨nofun, nofun, nofun⟩ fun s r hs hr => ?_
  · simp only [record, List.forall_mem_cons]
    exact ⟨fun s hs => ModelDigest.yields_isText.bind fun d hd => .of_pure ⟨forall_mem_some hd, hs.2⟩,
      fun s hs => ModelDigest.yields_isText.bind fun d hd => .of_pure ⟨hs.1, forall_mem_some hd, hs.2.2⟩,
      fun s hs => .after _ fun _ => .of_pure hs, fun s hs => .after _ fun _ => .of_pure hs,
      fun s hs => Instant.yields_valid.bind fun t ht => .of_pure ⟨hs.1, hs.2.1, forall_mem_some ht⟩,
      fun s hs => .after _ fun _ => .of_pure hs, nofun⟩
  · simp only [record, Option.bind_eq_bind, Option.bind_eq_some_iff, Option.pure_def, Option.some.injEq] at hr
    obtain ⟨original, horiginal, generated, hgenerated, equivalence, -, startedAt, hstarted, duration, -, rfl⟩ := hr
    exact ⟨⟨hs.1 _ horiginal, hs.2.1 _ hgenerated⟩, hs.2.2 _ hstarted⟩

end Report

/-! ### The formats -/

def Artifacts.format : Format Artifacts where
  write := toJson
  reader := reader
  paths := paths

def Config.format : Format Config where
  write := toJson
  reader := reader
  paths := paths

def ModelDigest.format : Format ModelDigest where
  write := toJson
  reader := reader
  paths d := [d.path]

def Report.format : Format Report where
  write := toJson
  reader := reader
  paths r := [r.original.path, r.generated.path]
  instants r := [r.startedAt]

theorem Artifacts.faithful : format.Faithful where
  written _ := exists_toJson_iff
  reads _ _ hdocument _ := reads_toJson hdocument
  accepted := fun _ _ _ hread => ⟨yields_isText _ _ _ hread, nofun⟩

theorem Config.faithful : format.Faithful where
  written _ := exists_toJson_iff
  reads _ _ hdocument _ := reads_toJson hdocument
  accepted := fun _ _ _ hread => ⟨yields_isText _ _ _ hread, nofun⟩

theorem ModelDigest.faithful : format.Faithful where
  written _ := by simpa [Format.Texts, format] using exists_toJson_iff
  reads _ _ hdocument _ := reads_toJson hdocument
  accepted := fun _ _ _ hread => ⟨by simpa [Format.Texts, format] using yields_isText _ _ _ hread, nofun⟩

theorem Report.faithful : format.Faithful where
  written _ := by simpa [Format.Texts, format] using exists_toJson_iff
  reads _ _ hdocument hdated := reads_toJson hdocument (hdated _ (List.mem_singleton_self _))
  accepted := fun _ _ _ hread => by simpa [Format.Texts, Format.Dated, format] using yields_writable _ _ _ hread

/-- The six kinds of documents round-trip. The instants that they can hold are those of the calendar, which are also
all that is ever read as an instant. A report printed by the program, with the line break behind it, is read back with
the lines that it had. -/
theorem documents_round_trip :
    Score.format.RoundTrips ∧ Mode.format.RoundTrips ∧ Artifacts.format.RoundTrips ∧ Config.format.RoundTrips ∧
    ModelDigest.format.RoundTrips ∧ Report.format.RoundTrips ∧
    (∀ t : Instant, t.Valid ↔ ∃ s, Instant.read s = .ok t) ∧
    (∀ (r : Report) (text : String), r.startedAt.Valid → CommandLine.printed .json r = .ok text →
      (Json.read Report.reader text).map Report.lines = .ok r.lines) := by
  refine ⟨(Format.faithful_plain Score.reads_toJson).roundTrips, (Format.faithful_plain Mode.reads_toJson).roundTrips,
    Artifacts.faithful.roundTrips, Config.faithful.roundTrips, ModelDigest.faithful.roundTrips,
    Report.faithful.roundTrips, fun t => ⟨fun h => ⟨_, Instant.read_display h⟩, fun ⟨_, h⟩ => Instant.valid_of_read h⟩,
    fun r text hvalid hprinted => ?_⟩
  cases hdocument : r.toJson with
  | error e =>
    simp only [CommandLine.printed, hdocument] at hprinted
    cases hprinted
  | ok document =>
    simp only [CommandLine.printed, hdocument] at hprinted
    cases hprinted
    have hread : Json.read Report.reader (document.pretty ++ String.ofList ['\n']) = .ok r :=
      (Report.reads_toJson hdocument hvalid).read_append (isSpace_of_mem_singleton rfl)
    exact congrArg (Except.map Report.lines) hread

/-- A report made in a leap second of the year 10000 on a model whose name is not ASCII. -/
def lateReport : Report where
  original := ⟨.ofString "größe.als", none⟩
  generated := ⟨.ofString "g\".als", some "00ff"⟩
  validity := some ⟨0, 255⟩
  equivalence := .ofPassed true
  startedAt := ⟨10000, 12, 31, 23, 59, 59, 1000000001⟩
  durationMs := 18446744073709551615

/-- The late report comes back; a configuration with a launcher that is not UTF-8 is not written. -/
theorem documents_round_trip_lateReport :
    (∃ document, lateReport.toJson = .ok document ∧ Json.read Report.reader document.pretty = .ok lateReport) ∧
    ∃ e, (Config.default.withJava ⟨[0xff]⟩).toJson = .error e ∧ e.message = "path contains invalid UTF-8 characters" := by
  obtain ⟨-, -, -, hconfig, -, hreport, -⟩ := documents_round_trip
  have hnot : ¬(⟨[0xff]⟩ : Path).IsText := by
    rintro ⟨s, hs⟩
    have hdecode : Utf8.decode? [0xff] = some s := Utf8.decode?_eq_some_iff.mpr (congrArg Path.bytes hs)
    cases hdecode
  refine ⟨hreport.back lateReport ?_ ?_, hconfig.refused _ ⟨_, .head _, hnot⟩⟩
  · intro p hp
    rcases List.mem_cons.mp hp with rfl | hp
    · exact ⟨_, rfl⟩
    · rw [List.mem_singleton.mp hp]
      exact ⟨_, rfl⟩
  · intro t ht
    rw [List.mem_singleton.mp ht]
    exact ⟨⟨by decide, by decide, by decide, by decide⟩, by decide⟩

end AlloyGrade
