import AlloyGrade.Proofs.Files.Apart
import AlloyGrade.Proofs.Scratch

/-! The cleanup of a workdir whose directory is known. It reaches the two scratch places of that directory and
nothing else; a place that holds a directory or a link is free afterwards, unless the way to the workdir leads
through what is there or the path is too long for the system, in which case nothing happens at all. -/

namespace AlloyGrade.Workdir

open FileSystem

variable {cwd dir : Location} {fs : FileSystem} {root : Path} {name : String}

/-- Where the scratch directories of a workdir are, given its directory. -/
def scratchPlace (dir : Location) (name : String) : Location := dir ++ [Bytes.ofString name]

def scratchPlaces (dir : Location) : List Location := scratchNames.map (scratchPlace dir)

/-- Each place is free, or what stands there is a directory or a link. -/
def Removable (places : List Location) (fs : FileSystem) : Prop :=
  ∀ place ∈ places, ∀ entry, fs.lookup place = some entry → entry.isDirOrLink

theorem isEntryName_of_mem_scratchNames : ∀ name ∈ scratchNames, isEntryName (Bytes.ofString name) := by decide

/-! ### One removal -/

/-- A removal takes away nothing but what stands at its own place. -/
theorem scratchAt_join (hn : isEntryName (Bytes.ofString name)) (hs : fs.stat cwd root = .ok (dir, .dir)) {d : Location}
    (h : scratchAt cwd fs (root.join (.ofString name)) = some d) : d = scratchPlace dir name := by
  obtain ⟨entry, hf, -⟩ := scratchAt_eq_some_iff.mp h
  obtain ⟨dir', hb, rfl, -⟩ := find_join (plain_of_isEntryName hn).1 hf
  obtain rfl : dir = dir' := by simpa [base_of_stat hs] using hb
  rfl

theorem isChild_join (hn : isEntryName (Bytes.ofString name)) : root.IsChild (root.join (.ofString name)) :=
  ⟨Bytes.ofString name, (plain_of_isEntryName hn).1, rfl⟩

theorem sameOff_removeScratch (hn : isEntryName (Bytes.ofString name)) (hs : fs.stat cwd root = .ok (dir, .dir)) :
    (removeScratch cwd fs (root.join (.ofString name))).1.SameOff (scratchPlace dir name <+: ·) fs := by
  intro loc hloc
  rw [lookup_removeScratch (isChild_join hn), if_neg]
  intro hgone
  obtain ⟨d, hd, hpre⟩ := scratchAt_of_deletes hgone
  exact hloc (scratchAt_join hn hs hd ▸ hpre)

/-- The path of a scratch directory stays out of what is in it if and only if that of the workdir does. -/
theorem not_leadsInto_join_iff (hn : isEntryName (Bytes.ofString name)) (hs : fs.stat cwd root = .ok (dir, .dir)) :
    ¬fs.leadsInto cwd (root.join (.ofString name)) (scratchPlace dir name) ↔
      ∀ loc ∈ fs.visits cwd true root, ¬(scratchPlace dir name <+: loc ∧ loc ≠ scratchPlace dir name) := by
  rw [leadsInto_iff, Path.ofString, visits_join (plain_of_isEntryName hn).1 hs, ← scratchPlace]
  constructor
  · intro h loc hl hbelow
    exact h ⟨loc, List.mem_append_left _ hl, hbelow⟩
  · rintro h ⟨loc, hl, hpre, hne⟩
    rcases List.mem_append.mp hl with hl | hl
    · exact h loc hl ⟨hpre, hne⟩
    · exact hne (List.mem_singleton.mp hl)

section Short

variable (hn : isEntryName (Bytes.ofString name)) (hs : fs.stat cwd root = .ok (dir, .dir))
  (hshort : (root.join (.ofString name)).bytes.length < maxPathLength)
include hn hs hshort

theorem find_scratch {entry : Entry} (hl : fs.lookup (scratchPlace dir name) = some entry) :
    fs.find cwd false (root.join (.ofString name)) = .ok (scratchPlace dir name, entry) := by
  rw [Path.ofString, find_join_of_stat hn hs hshort, ← scratchPlace, hl]

/-- A removal empties its place. -/
theorem lookup_removeScratch_place
    (hway : ∀ loc ∈ fs.visits cwd true root, ¬(scratchPlace dir name <+: loc ∧ loc ≠ scratchPlace dir name))
    (hk : ∀ entry, fs.lookup (scratchPlace dir name) = some entry → entry.isDirOrLink) (loc : Location) :
    (removeScratch cwd fs (root.join (.ofString name))).1.lookup loc =
      if scratchPlace dir name <+: loc then none else fs.lookup loc := by
  by_cases hloc : scratchPlace dir name <+: loc
  · rw [if_pos hloc, lookup_removeScratch (isChild_join hn)]
    cases hl : fs.lookup (scratchPlace dir name) with
    | none => simp [lookup_below_free hl hloc]
    | some entry =>
      have hfind := find_scratch hn hs hshort hl
      cases entry with
      | dir =>
        have hinto := (not_leadsInto_join_iff hn hs).mpr hway
        cases hl : fs.lookup loc <;> simp [deletes, hfind, hloc, hl, hinto]
      | link target =>
        by_cases heq : loc = scratchPlace dir name
        · simp [deletes, hfind, heq]
        · simp [lookup_below_link hl hloc heq]
      | file | fifo | device => cases hk _ hl
  · rw [if_neg hloc, sameOff_removeScratch hn hs loc hloc]

end Short

/-- At a path that is too long for the system there is nothing to take away. -/
theorem scratchAt_of_long {p : Path} (h : maxPathLength ≤ p.bytes.length) : scratchAt cwd fs p = none := by
  obtain ⟨e, he⟩ := find_of_long h
  rw [scratchAt, he]

/-- When the removal of a scratch directory leaves no directory behind: if and only if its path is not too long for the
system and the way to the workdir does not lead through what is in it. -/
theorem deletes_place_iff (hn : isEntryName (Bytes.ofString name)) (hs : fs.stat cwd root = .ok (dir, .dir))
    (hdir : fs.lookup (scratchPlace dir name) = some .dir) :
    deletes cwd fs (root.join (.ofString name)) (scratchPlace dir name) ↔
      (root.join (.ofString name)).bytes.length < maxPathLength ∧
      ∀ loc ∈ fs.visits cwd true root, ¬(scratchPlace dir name <+: loc ∧ loc ≠ scratchPlace dir name) := by
  constructor
  · intro hgone
    have hshort : (root.join (.ofString name)).bytes.length < maxPathLength := by
      obtain ⟨d, hd, -⟩ := scratchAt_of_deletes hgone
      refine Nat.lt_of_not_le fun hlong => ?_
      rw [scratchAt_of_long hlong] at hd
      cases hd
    have hinto : ¬fs.leadsInto cwd (root.join (.ofString name)) (scratchPlace dir name) := by
      simpa [deletes, find_scratch hn hs hshort hdir, hdir] using hgone
    exact ⟨hshort, (not_leadsInto_join_iff hn hs).mp hinto⟩
  · rintro ⟨hshort, hway⟩
    have hinto := (not_leadsInto_join_iff hn hs).mpr hway
    simpa [deletes, find_scratch hn hs hshort hdir, hdir] using hinto

/-! ### The whole cleanup -/

theorem lookup_sweep_places {names : List String} (hn : ∀ name ∈ names, isEntryName (Bytes.ofString name))
    (hs : fs.stat cwd root = .ok (dir, .dir))
    (clear : ∀ loc ∈ fs.visits cwd true root, ¬Under (names.map (scratchPlace dir)) loc)
    (hshort : ∀ name ∈ names, (root.join (.ofString name)).bytes.length < maxPathLength)
    (hk : Removable (names.map (scratchPlace dir)) fs) (loc : Location) :
    (sweep cwd (names.map fun name => root.join (.ofString name)) fs).1.lookup loc =
      if Under (names.map (scratchPlace dir)) loc then none else fs.lookup loc := by
  induction names generalizing fs with
  | nil => simp [Under]
  | cons name rest ih =>
    -- The way to the workdir does not lead through the place that is emptied.
    have hclear : ∀ loc ∈ fs.visits cwd true root, ¬scratchPlace dir name <+: loc :=
      fun loc hl hpre => clear loc hl ⟨_, List.mem_map_of_mem (.head _), hpre⟩
    have hfirst := lookup_removeScratch_place (hn name (.head _)) hs (hshort name (.head _))
      (fun loc hl hbelow => hclear loc hl hbelow.1) (hk _ (List.mem_map_of_mem (.head _)))
    have hoff := sameOff_removeScratch (hn name (.head _)) hs
    rw [List.map_cons, sweep_cons, ih (fun n h => hn n (.tail _ h)) ((hoff.stat_eq hclear).trans hs), hfirst]
    · by_cases hrest : Under (rest.map (scratchPlace dir)) loc
      · obtain ⟨place, hp, hpre⟩ := hrest
        rw [if_pos ⟨place, hp, hpre⟩, if_pos ⟨place, List.mem_cons_of_mem _ hp, hpre⟩]
      · rw [if_neg hrest]
        by_cases hpre : scratchPlace dir name <+: loc
        · rw [if_pos hpre, if_pos ⟨_, List.mem_map_of_mem (.head _), hpre⟩]
        · rw [if_neg hpre, if_neg]
          rintro ⟨place, hp, hpre'⟩
          rcases List.mem_cons.mp hp with rfl | hp
          · exact hpre hpre'
          · exact hrest ⟨place, hp, hpre'⟩
    · intro loc hl hunder
      rw [hoff.visits_eq hclear] at hl
      obtain ⟨place, hp, hpre⟩ := hunder
      exact clear loc hl ⟨place, List.mem_cons_of_mem _ hp, hpre⟩
    · exact fun n h => hshort n (.tail _ h)
    · intro place hp entry hl
      exact hk place (List.mem_cons_of_mem _ hp) entry
        (removeScratch_within (isChild_join (hn name (.head _))) place entry hl)

/-- The cleanup frees both scratch places, and touches nothing else. -/
theorem lookup_cleanScratch_places (w : Workdir) (hs : fs.stat cwd w.root = .ok (dir, .dir))
    (clear : ∀ loc ∈ fs.visits cwd true w.root, ¬Under (scratchPlaces dir) loc)
    (hshort : ∀ p ∈ w.scratchPaths, p.bytes.length < maxPathLength) (hk : Removable (scratchPlaces dir) fs)
    (loc : Location) :
    (w.cleanScratch cwd fs).1.lookup loc = if Under (scratchPlaces dir) loc then none else fs.lookup loc := by
  rw [cleanScratch_eq_sweep]
  exact lookup_sweep_places isEntryName_of_mem_scratchNames hs clear
    (fun name h => hshort _ (List.mem_map_of_mem h)) hk loc

/-- A workdir whose path leaves no room for the shorter of the two names is never cleaned up. -/
theorem cleanScratch_of_long (w : Workdir) (h : maxPathLength ≤ w.root.bytes.length + 3) :
    (w.cleanScratch cwd fs).1 = fs := by
  have hthree : ∀ name ∈ scratchNames, 3 ≤ (Bytes.ofString name).length := by decide
  rw [cleanScratch_eq_sweep]
  refine sweep_of_scratchAt_eq_none w.scratchPaths_isChild fun p hp => scratchAt_of_long ?_
  obtain ⟨name, hname, rfl⟩ := List.mem_map.mp hp
  have hlength := Path.length_join w.root (plain_of_mem_scratchNames name hname)
  have := hthree name hname
  rw [Path.ofString]
  omega

end AlloyGrade.Workdir
