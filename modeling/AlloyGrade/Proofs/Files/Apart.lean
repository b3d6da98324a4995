import AlloyGrade.Proofs.Files.Unlinked
import Mathlib.Data.List.Induction

/-! File systems that agree but for some places. A path whose way does not lead through these places denotes
the same in both. -/

namespace AlloyGrade.FileSystem

variable {a b c fs : FileSystem} {hidden more : Location → Prop} {cwd : Location} {p : Path}

/-- Nothing stands below a free place. -/
theorem lookup_below_free {place loc : Location} (h : fs.lookup place = none) (hp : place <+: loc) :
    fs.lookup loc = none := by
  obtain ⟨below, rfl⟩ := hp
  rw [lookup] at h
  rw [lookup, descend_append, h]
  rfl

/-- What stands somewhere below the root has a row of its own. -/
theorem row_of_lookup {dir : Location} {name : Name} {entry : Entry} (h : fs.lookup (dir ++ [name]) = some entry) :
    fs.entries.lookup (dir ++ [name]) = some entry := by
  obtain ⟨hdir, hname⟩ := fs.lookup_parent h
  rwa [lookup_child, hdir, if_pos hname] at h

/-- At one of the given places, or below it. -/
def Under (places : List Location) (loc : Location) : Prop := ∃ place ∈ places, place <+: loc

instance (places : List Location) (loc : Location) : Decidable (Under places loc) :=
  inferInstanceAs (Decidable (∃ place ∈ places, place <+: loc))

/-- The same stands in both file systems wherever it is not hidden. -/
def SameOff (hidden : Location → Prop) (a b : FileSystem) : Prop := ∀ loc, ¬hidden loc → a.lookup loc = b.lookup loc

namespace SameOff

theorem refl (hidden : Location → Prop) (fs : FileSystem) : fs.SameOff hidden fs := fun _ _ => rfl

theorem trans (hab : a.SameOff hidden b) (hbc : b.SameOff hidden c) : a.SameOff hidden c :=
  fun loc h => (hab loc h).trans (hbc loc h)

theorem of_lookup_eq (h : a.lookup = b.lookup) : a.SameOff hidden b := fun loc _ => congrFun h loc

/-- Hiding more keeps the agreement. -/
theorem mono (h : a.SameOff hidden b) (hle : ∀ loc, hidden loc → more loc) : a.SameOff more b :=
  fun loc hn => h loc fun hl => hn (hle loc hl)

section Paths

variable (h : a.SameOff hidden b) (clear : ∀ loc ∈ b.visits cwd true p, ¬hidden loc)
include h clear

theorem visits_eq : a.visits cwd true p = b.visits cwd true p := (find_congr fun loc hl => h loc (clear loc hl)).1

theorem stat_eq : a.stat cwd p = b.stat cwd p := (find_congr fun loc hl => h loc (clear loc hl)).2

theorem isFile_eq : a.isFile cwd p = b.isFile cwd p := by
  rw [isFile, isFile, h.stat_eq clear]

theorem canonicalize_eq (horigin : ¬hidden (origin cwd p)) : a.canonicalize cwd p = b.canonicalize cwd p :=
  canonicalize_congr (h _ horigin) fun loc hl => h loc (clear loc hl)

end Paths

end SameOff

theorem under_snoc {places : List Location} {dir : Location} (name : Name) (h : Under places dir) :
    Under places (dir ++ [name]) := by
  obtain ⟨place, hp, hpre⟩ := h
  exact ⟨place, hp, hpre.trans (List.prefix_append _ _)⟩

/-- New rows at some places and below make no difference elsewhere. -/
theorem sameOff_rows {places : List Location} {rows : List (Location × Entry)} (h : ∀ row ∈ rows, Under places row.1)
    (fs : FileSystem) : (⟨rows ++ fs.entries⟩ : FileSystem).SameOff (Under places) fs := by
  intro loc
  induction loc using List.reverseRecOn with
  | nil => exact fun _ => rfl
  | append_singleton dir name ih =>
    intro hloc
    have hrow : (rows ++ fs.entries).lookup (dir ++ [name]) = fs.entries.lookup (dir ++ [name]) := by
      have hnone : rows.lookup (dir ++ [name]) = none := by
        rw [List.lookup_eq_none_iff]
        intro row hr
        have hne : dir ++ [name] ≠ row.1 := fun heq => hloc (heq ▸ h row hr)
        simpa using hne
      rw [List.lookup_append, hnone]
      rfl
    rw [lookup_child, lookup_child, ih fun hd => hloc (under_snoc name hd), hrow]

end AlloyGrade.FileSystem
