import AlloyGrade.Files.Change
import AlloyGrade.Proofs.Files.Trail
import Mathlib.Data.List.Induction

/-! Taking a tree away, with the location at its top or without. What is below is gone, and all else stays as it
was. -/

namespace AlloyGrade.FileSystem

variable {fs : FileSystem} {place : Location}

theorem isPrefixOf_eq_decide (place loc : Location) : place.isPrefixOf loc = decide (place <+: loc) := by
  rw [Bool.eq_iff_iff]
  simp

theorem lookup_filter_keys (entries : List (Location × Entry)) (keep : Location → Bool) (loc : Location) :
    (entries.filter (keep ·.1)).lookup loc = if keep loc then entries.lookup loc else none := by
  induction entries with
  | nil => simp
  | cons row rest ih =>
    obtain ⟨key, entry⟩ := row
    by_cases hk : key = loc
    · subst hk
      by_cases h : keep key <;> simp [h, ih]
    · have hne : (loc == key) = false := by simpa using fun h => hk h.symm
      by_cases h : keep key <;> simp [h, ih, List.lookup_cons, hne]

/-- Where rows are taken away with all that is below them, the other rows stand for what they stood for. -/
theorem lookup_filter (keep : Location → Bool) (hroot : keep []) (hup : ∀ dir name, keep (dir ++ [name]) → keep dir)
    (loc : Location) :
    (⟨fs.entries.filter (keep ·.1)⟩ : FileSystem).lookup loc = if keep loc then fs.lookup loc else none := by
  induction loc using List.reverseRecOn with
  | nil => simp [hroot]
  | append_singleton dir name ih =>
    rw [lookup_child, lookup_child, ih]
    by_cases hkeep : keep (dir ++ [name])
    · simp only [hup dir name hkeep, hkeep, if_true, lookup_filter_keys fs.entries keep]
    · by_cases hdir : keep dir
      · simp only [hdir, hkeep, if_true, lookup_filter_keys fs.entries keep]
        split <;> simp
      · simp [hdir, hkeep]

/-- What stands at a location once a tree other than the whole is taken away. -/
theorem lookup_removeTree (hp : place ≠ []) (loc : Location) :
    (fs.removeTree place).lookup loc = if place <+: loc then none else fs.lookup loc := by
  rw [removeTree, lookup_filter (fun l => !place.isPrefixOf l) (by simpa [isPrefixOf_eq_decide] using hp)]
  · by_cases h : place <+: loc <;> simp [isPrefixOf_eq_decide, h]
  · intro dir name
    simpa [isPrefixOf_eq_decide] using mt fun h : place <+: dir => h.trans (List.prefix_append _ _)

theorem lookup_removeBelow (loc : Location) :
    (fs.removeBelow place).lookup loc = if place <+: loc ∧ loc ≠ place then none else fs.lookup loc := by
  rw [removeBelow, lookup_filter (fun l => !place.isPrefixOf l || l == place) (by cases place <;> simp)]
  · by_cases h : place <+: loc <;> by_cases heq : loc = place <;> simp [isPrefixOf_eq_decide, h, heq]
  · intro dir name
    simp only [isPrefixOf_eq_decide, Bool.or_eq_true, Bool.not_eq_true', decide_eq_false_iff_not, beq_iff_eq]
    rintro (h | rfl)
    · exact .inl (mt (fun h => h.trans (List.prefix_append _ _)) h)
    · exact .inl fun h => absurd h.length_le (by simp)

theorem removeBelow_within (place : Location) : (fs.removeBelow place).Within fs := by
  intro loc entry h
  rw [lookup_removeBelow] at h
  split_ifs at h
  exact h

/-- A directory with nothing below it has no names in it. -/
theorem names_removeBelow (place : Location) : (fs.removeBelow place).names place = [] := by
  rw [names, List.filterMap_eq_nil_iff]
  rintro ⟨loc, entry⟩ hrow
  rw [removeBelow, List.mem_filter] at hrow
  have hkept : ¬place <+: loc ∨ loc = place := by
    simpa [isPrefixOf_eq_decide] using hrow.2
  refine if_neg fun h => ?_
  simp only [Bool.and_eq_true, decide_eq_true_eq, List.isPrefixOf_iff_prefix] at h
  rcases hkept with hk | rfl
  · exact hk h.1.2
  · exact absurd h.1.1 (by omega)

/-- Emptying a directory before it is taken away makes no difference. -/
theorem removeTree_removeBelow (place : Location) : (fs.removeBelow place).removeTree place = fs.removeTree place := by
  rw [removeTree, removeTree, removeBelow, List.filter_filter]
  congr 1
  refine List.filter_congr fun row _ => ?_
  by_cases h : place.isPrefixOf row.1 <;> simp [h]

end AlloyGrade.FileSystem
