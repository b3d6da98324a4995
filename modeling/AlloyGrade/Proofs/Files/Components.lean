import AlloyGrade.Config
import AlloyGrade.Proofs.Scratch

/-! The components of a path with one name written after it. They are the components of the path and the name, however
the path is spelled: a slash or a dot that is dropped from the path alone is dropped from the longer one, too, and what
opens the path, a root or a dot, opens the longer one. Hence the files and directories that are kept under fixed names
in a directory determine it, up to its spelling. -/

namespace AlloyGrade

namespace Path

variable {name : Name}

/-- What stands before the first step of a path: the root, a dot or nothing. -/
def opening (p : Path) : List Component :=
  if p.isAbsolute then [.root] else (p.pieces.head?.map Component.ofPiece).toList.filter (· == .here)

/-- The steps of a path, up or down. -/
def moves (p : Path) : List Component := (p.pieces.map Component.ofPiece).filter (· != .here)

theorem components_eq (p : Path) : p.components = p.opening ++ p.moves := by
  rw [components, opening, moves]
  by_cases habs : p.isAbsolute
  · simp [habs]
  · cases hp : p.pieces with
    | nil => simp [habs]
    | cons piece rest =>
      cases hpiece : Component.ofPiece piece <;> simp [habs, hpiece]

theorem opening_join (p : Path) (h : name.Plain) : (p.join ⟨name⟩).opening = p.opening := by
  rw [opening, opening, isAbsolute_join p h, pieces_join p h]
  -- The name comes first only where the path had no piece, and it is no dot.
  cases hp : p.pieces with
  | nil => simp [Component.ofPiece_plain h]
  | cons piece rest => rfl

theorem moves_join (p : Path) (h : name.Plain) : (p.join ⟨name⟩).moves = p.moves ++ [.name name] := by
  simp [moves, pieces_join p h, Component.ofPiece_plain h]

theorem components_join (p : Path) (h : name.Plain) :
    (p.join ⟨name⟩).components = p.components ++ [.name name] := by
  rw [components_eq, components_eq, opening_join p h, moves_join p h, List.append_assoc]

theorem beq_iff_components (p q : Path) : (p == q) = true ↔ p.components = q.components := by
  change (p.components == q.components) = true ↔ _
  exact beq_iff_eq

/-- Two children are the same path if they have the same name in the same directory. -/
theorem join_beq_join_iff (p q : Path) {a b : Name} (ha : a.Plain) (hb : b.Plain) :
    (p.join ⟨a⟩ == q.join ⟨b⟩) = true ↔ (p == q) = true ∧ a = b := by
  rw [beq_iff_components, beq_iff_components, components_join p ha, components_join q hb, List.append_singleton_inj,
    Component.name.injEq]

theorem join_beq_join_of_ne (p : Path) {a b : Name} (ha : a.Plain) (hb : b.Plain) (hne : a ≠ b) :
    (p.join ⟨a⟩ == p.join ⟨b⟩) = false := by
  rw [Bool.eq_false_iff, Ne, join_beq_join_iff p p ha hb]
  exact fun h => hne h.2

end Path

namespace Artifacts

theorem plain_diffJarName : Name.Plain (Bytes.ofString diffJarName) := by decide

theorem plain_analyzerJarName : Name.Plain (Bytes.ofString analyzerJarName) := by decide

theorem beq_iff (a b : Artifacts) :
    (a == b) = true ↔ (a.diffJar == b.diffJar) = true ∧ (a.analyzerJar == b.analyzerJar) = true :=
  Bool.and_eq_true_iff

theorem inDir_beq_inDir_iff (d e : Path) : (inDir d == inDir e) = true ↔ (d == e) = true := by
  have hdiff := Path.join_beq_join_iff d e plain_diffJarName plain_diffJarName
  have hanalyzer := Path.join_beq_join_iff d e plain_analyzerJarName plain_analyzerJarName
  rw [beq_iff, inDir, inDir, Path.ofString, Path.ofString, hdiff, hanalyzer]
  simp

end Artifacts

theorem Workdir.beq_iff (w v : Workdir) : (w == v) = true ↔ (w.root == v.root) = true := Iff.rfl

/-- The jars and the scratch directories of a directory are direct children of it under their fixed names, no two of
one kind are the same path, and both kinds tell two directories apart exactly where their paths differ. -/
theorem fixed_locations_determine_directory (d : Path) :
    let child (name : String) := d.components ++ [Component.name (Bytes.ofString name)]
    let jars := Artifacts.inDir d
    jars.diffJar.components = child Artifacts.diffJarName ∧
      jars.analyzerJar.components = child Artifacts.analyzerJarName ∧
      (jars.diffJar == jars.analyzerJar) = false ∧
      (∃ tmp output, (Workdir.mk d).scratchPaths = [tmp, output] ∧
        tmp.components = child "tmp" ∧ output.components = child "output" ∧ (tmp == output) = false) ∧
      ∀ d', ((jars == Artifacts.inDir d') = true ↔ (Workdir.mk d == Workdir.mk d') = true) ∧
        ((Workdir.mk d == Workdir.mk d') = true ↔ (d == d') = true) := by
  have htmp : Name.Plain (Bytes.ofString "tmp") := Workdir.plain_of_mem_scratchNames "tmp" (by decide)
  have houtput : Name.Plain (Bytes.ofString "output") := Workdir.plain_of_mem_scratchNames "output" (by decide)
  have hjars : Bytes.ofString Artifacts.diffJarName ≠ Bytes.ofString Artifacts.analyzerJarName := by decide
  have hscratch : Bytes.ofString "tmp" ≠ Bytes.ofString "output" := by decide
  intro child jars
  refine ⟨d.components_join Artifacts.plain_diffJarName, d.components_join Artifacts.plain_analyzerJarName,
    d.join_beq_join_of_ne Artifacts.plain_diffJarName Artifacts.plain_analyzerJarName hjars,
    ⟨_, _, rfl, d.components_join htmp, d.components_join houtput, d.join_beq_join_of_ne htmp houtput hscratch⟩, ?_⟩
  intro d'
  exact ⟨(Artifacts.inDir_beq_inDir_iff d d').trans (Workdir.beq_iff _ _).symm, Workdir.beq_iff _ _⟩

-- A dot counts where it opens the path, and nowhere else.
example : (Artifacts.inDir (.ofString "jars/.//alloy/") == Artifacts.inDir (.ofString "jars/alloy")) = true ∧
    (Artifacts.inDir (.ofString "./jars") == Artifacts.inDir (.ofString "jars")) = false := by decide

end AlloyGrade
