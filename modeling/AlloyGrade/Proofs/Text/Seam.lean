import AlloyGrade.Proofs.Verdict

/-! Where a word can stand in two texts that are written one after the other. It stands in one of them, or it runs
over the seam: a beginning of it ends the first text, and the rest of it begins the second one. The last character of
the first text is then a character of the word, so that a word within one line never runs over the end of a line. -/

namespace AlloyGrade

/-- The word is somewhere in the text. -/
def Occurs (word text : String) : Prop := ∃ before after, text = before ++ word ++ after

/-- The word is across the seam of two texts, with at least one character on either side of it. -/
def RunsOver (word first second : String) : Prop :=
  ∃ u v, u ≠ "" ∧ v ≠ "" ∧ word = u ++ v ∧ (∃ before, first = before ++ u) ∧ ∃ after, second = v ++ after

/-- Empty, or with a line break at the end. -/
def WholeLines (text : String) : Prop := text = "" ∨ ∃ lines, text = lines ++ "\n"

variable {word text first second : String}

theorem occurs_iff_isInfix : Occurs word text ↔ word.toList <:+: text.toList := by
  constructor
  · rintro ⟨before, after, rfl⟩
    exact ⟨before.toList, after.toList, by simp⟩
  · rintro ⟨before, after, h⟩
    refine ⟨String.ofList before, String.ofList after, ?_⟩
    rw [← String.toList_inj]
    simp [← h]

theorem Occurs.within (h : Occurs word text) (before after : String) : Occurs word (before ++ text ++ after) := by
  obtain ⟨front, back, rfl⟩ := h
  exact ⟨before ++ front, back ++ after, by simp [String.append_assoc]⟩

theorem RunsOver.occurs (h : RunsOver word first second) : Occurs word (first ++ second) := by
  obtain ⟨u, v, -, -, rfl, ⟨before, rfl⟩, after, rfl⟩ := h
  exact ⟨before, after, by simp [String.append_assoc]⟩

theorem RunsOver.of_toList {u v : List Char} (hu : u ≠ []) (hv : v ≠ []) (hword : word.toList = u ++ v)
    (hfirst : u <:+ first.toList) (hsecond : v <+: second.toList) : RunsOver word first second := by
  obtain ⟨before, hbefore⟩ := hfirst
  obtain ⟨after, hafter⟩ := hsecond
  refine ⟨String.ofList u, String.ofList v, ?_, ?_, ?_, ⟨String.ofList before, ?_⟩, String.ofList after, ?_⟩
  · simpa [← String.toList_eq_nil_iff] using hu
  · simpa [← String.toList_eq_nil_iff] using hv
  · simp [← String.toList_inj, hword]
  · simp [← String.toList_inj, hbefore]
  · simp [← String.toList_inj, hafter]

theorem occurs_append_iff :
    Occurs word (first ++ second) ↔ Occurs word first ∨ Occurs word second ∨ RunsOver word first second := by
  constructor
  · intro h
    rw [occurs_iff_isInfix, String.toList_append, List.infix_append_iff] at h
    rcases h with h | h | ⟨u, v, huv, hu, hv⟩
    · exact .inl (occurs_iff_isInfix.mpr h)
    · exact .inr (.inl (occurs_iff_isInfix.mpr h))
    · -- The word lies on one side of the seam if nothing of it lies on the other.
      by_cases hune : u = []
      · rw [hune, List.nil_append] at huv
        exact .inr (.inl (occurs_iff_isInfix.mpr (huv ▸ hv.isInfix)))
      by_cases hvne : v = []
      · rw [hvne, List.append_nil] at huv
        exact .inl (occurs_iff_isInfix.mpr (huv ▸ hu.isInfix))
      exact .inr (.inr (.of_toList hune hvne huv hu hv))
  · rintro (h | h | h)
    · simpa using h.within "" second
    · simpa using h.within first ""
    · exact h.occurs

/-- The first text ends with a character of the word. -/
theorem RunsOver.exists_last (h : RunsOver word first second) :
    ∃ c ∈ word.toList, first.toList.getLast? = some c := by
  obtain ⟨u, v, hu, -, rfl, ⟨before, rfl⟩, -⟩ := h
  have hne : u.toList ≠ [] := mt String.toList_eq_nil_iff.mp hu
  refine ⟨u.toList.getLast hne, ?_, ?_⟩
  · simp
  · simp [List.getLast?_append, List.getLast?_eq_some_getLast hne]

theorem not_runsOver_of_wholeLines (hword : '\n' ∉ word.toList) (h : WholeLines first) :
    ¬RunsOver word first second := by
  intro hover
  obtain ⟨c, hc, hlast⟩ := hover.exists_last
  rcases h with rfl | ⟨lines, rfl⟩
  · simp at hlast
  · have hbreak : '\n' = c := by simpa using hlast
    exact hword (hbreak ▸ hc)

namespace Verdict

theorem reportsEquivalence_iff_occurs (output : String) : reportsEquivalence output = true ↔ Occurs marker output :=
  (occursIn_iff_isInfix _ _).trans occurs_iff_isInfix.symm

/-- The verdict on two streams: the differ's sentence is in one of them or runs over from the first into the second.
Text in front of the first stream or behind the second one takes no verdict back, and where the first stream ends with
its last line, the two streams are judged one by one. -/
theorem reportsEquivalence_combineStreams (stdout stderr : String) :
    (reportsEquivalence (combineStreams stdout stderr) = true ↔
        Occurs marker stdout ∨ Occurs marker stderr ∨ RunsOver marker stdout stderr) ∧
      (∀ before after, reportsEquivalence (combineStreams stdout stderr) = true →
        reportsEquivalence (combineStreams (before ++ stdout) (stderr ++ after)) = true) ∧
      (WholeLines stdout →
        reportsEquivalence (combineStreams stdout stderr) =
          (reportsEquivalence stdout || reportsEquivalence stderr)) := by
  have hiff : reportsEquivalence (combineStreams stdout stderr) = true ↔
      Occurs marker stdout ∨ Occurs marker stderr ∨ RunsOver marker stdout stderr :=
    (reportsEquivalence_iff_occurs _).trans occurs_append_iff
  refine ⟨hiff, ?_, ?_⟩
  · intro before after h
    rw [reportsEquivalence_iff_occurs, combineStreams] at h ⊢
    simpa [String.append_assoc] using h.within before after
  · intro hwhole
    have hover : ¬RunsOver marker stdout stderr := not_runsOver_of_wholeLines (by decide) hwhole
    rw [Bool.eq_iff_iff, hiff, Bool.or_eq_true, reportsEquivalence_iff_occurs, reportsEquivalence_iff_occurs]
    simp [hover]

/-- Half of the sentence in either stream makes a verdict, unless a line break parts the halves. -/
theorem reportsEquivalence_combineStreams_halves :
    reportsEquivalence "The two modules " = false ∧ reportsEquivalence "are equivalent." = false ∧
      reportsEquivalence (combineStreams "The two modules " "are equivalent.") = true ∧
      reportsEquivalence (combineStreams ("Solving\n" ++ "The two modules ") ("are equivalent." ++ "\n")) = true ∧
      reportsEquivalence (combineStreams ("The two modules " ++ "\n") "are equivalent.") = false := by
  have hfirst : reportsEquivalence ("The two modules " ++ "\n") = false := by decide
  have hsecond : reportsEquivalence "are equivalent." = false := by decide
  obtain ⟨hiff, hpad, -⟩ := reportsEquivalence_combineStreams "The two modules " "are equivalent."
  obtain ⟨-, -, hwhole⟩ := reportsEquivalence_combineStreams ("The two modules " ++ "\n") "are equivalent."
  have hover : RunsOver marker "The two modules " "are equivalent." :=
    ⟨"The two modules ", "are equivalent.", by decide, by decide, by decide, ⟨"", by decide⟩, "", by decide⟩
  have hcut := hiff.mpr (.inr (.inr hover))
  refine ⟨by decide, hsecond, hcut, hpad "Solving\n" "\n" hcut, ?_⟩
  rw [hwhole (.inr ⟨"The two modules ", rfl⟩), hfirst, hsecond, Bool.or_false]

end Verdict

end AlloyGrade
