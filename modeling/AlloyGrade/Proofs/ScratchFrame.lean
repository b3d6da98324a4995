import AlloyGrade.Proofs.ScratchPlaces

/-! What exactly the cleanup of a workdir deletes. Each of its two removals takes a directory with everything in
it, or a link alone. What is reached only through a link stays, and a path that still leads somewhere leads to the
same object as before. The removals stay out of each other's way, and leave nothing behind, unless the path of the
workdir leads through one of the scratch directories. -/

namespace AlloyGrade

namespace FileSystem

variable {fs small big : FileSystem} {cwd dir place loc : Location} {p : Path}

/-- What stands below a location is found by descending from there. -/
theorem lookup_append (place : Location) (names : List Name) :
    fs.lookup (place ++ names) = (fs.lookup place).bind fun entry => fs.descend place entry names := by
  rw [lookup, descend_append]
  rfl

/-- A path that is not refused for its spelling denotes the directory that its names lead to. -/
theorem stat_of_base {object : Location × Entry} (hspelled : big.stat cwd p = .ok object)
    (hb : fs.base cwd p = .ok (dir, .dir)) : fs.stat cwd p = .ok (dir, .dir) := by
  rw [stat, find_eq, denoted, lead] at hspelled ⊢
  split_ifs at hspelled ⊢
  · cases hspelled
  · cases hspelled
  · exact walk_steps_eq_dir_iff.mpr hb

/-- If something is still found under a name in a directory, the path of the directory still leads there. -/
theorem Within.stat_of_find_join (h : small.Within big) (hs : big.stat cwd p = .ok (dir, .dir)) {name : Name}
    (hn : name.Plain) {found : Location × Entry} (hf : small.find cwd false (p.join ⟨name⟩) = .ok found) :
    small.stat cwd p = .ok (dir, .dir) := by
  obtain ⟨loc, entry⟩ := found
  obtain ⟨dir', hb, -, -⟩ := find_join hn hf
  have hsmall := stat_of_base hs hb
  have hbig := h.find hsmall
  rw [← stat, hs] at hbig
  cases hbig
  exact hsmall

end FileSystem

namespace Workdir

open FileSystem

variable {cwd dir : Location} {fs : FileSystem} {root : Path}

/-! ### What the cleanup deletes -/

section Cleanup

variable (w : Workdir)

/-- What the cleanup deletes is reached from a scratch path through directories only. -/
theorem descend_of_cleanScratch {loc : Location} {entry : Entry} (hl : fs.lookup loc = some entry)
    (hgone : (w.cleanScratch cwd fs).1.lookup loc = none) :
    ∃ p ∈ w.scratchPaths, ∃ place kind names, fs.find cwd false p = .ok (place, kind) ∧ loc = place ++ names ∧
      fs.descend place kind names = some entry := by
  rw [cleanScratch_eq_sweep, lookup_sweep w.scratchPaths_isChild] at hgone
  split_ifs at hgone with htaken
  · obtain ⟨p, hp, place, hat, names, rfl⟩ := scratchAt_of_taken w.scratchPaths_isChild htaken
    obtain ⟨kind, hf, -⟩ := scratchAt_eq_some_iff.mp hat
    rw [lookup_append, lookup_of_find_child (w.scratchPaths_isChild p hp) hf, Option.bind_some] at hl
    exact ⟨p, hp, place, kind, names, hf, rfl, hl⟩
  · rw [hl] at hgone
    cases hgone

theorem cleanScratch_cleanScratch (cwd : Location) (fs : FileSystem) :
    (w.cleanScratch cwd (w.cleanScratch cwd fs).1).1 = (w.cleanScratch cwd fs).1 := by
  rw [cleanScratch_eq_sweep, cleanScratch_eq_sweep]
  exact sweep_of_scratchAt_eq_none w.scratchPaths_isChild (scratchAt_sweep cwd fs w.scratchPaths_isChild)

/-- The frame of a cleanup. First the removal at the path of `tmp` deletes what it deletes, then, in what is left, the
one at the path of `output`, and nothing else changes. Whatever is deleted was reached from one of the two paths through
directories, without following a link. A path that leads somewhere afterwards, from wherever it starts, leads to
the same object with the same contents as before. A second cleanup changes nothing. -/
theorem cleanScratch_deletes_exactly (cwd : Location) (fs : FileSystem) :
    let tmp := w.root.join (.ofString "tmp")
    let output := w.root.join (.ofString "output")
    let left := (w.cleanScratch cwd fs).1
    (∃ between : FileSystem,
      (∀ loc, between.lookup loc = if deletes cwd fs tmp loc then none else fs.lookup loc) ∧
      ∀ loc, left.lookup loc = if deletes cwd between output loc then none else between.lookup loc) ∧
    (∀ loc entry, fs.lookup loc = some entry → left.lookup loc = none →
      ∃ p ∈ [tmp, output], ∃ place kind names, fs.find cwd false p = .ok (place, kind) ∧ loc = place ++ names ∧
        fs.descend place kind names = some entry) ∧
    (∀ origin follow p found, left.find origin follow p = .ok found → fs.find origin follow p = .ok found) ∧
    (w.cleanScratch cwd left).1 = left := by
  intro tmp output left
  have htmp : w.root.IsChild tmp := w.scratchPaths_isChild tmp (.head _)
  have houtput : w.root.IsChild output := w.scratchPaths_isChild output (.tail _ (.head _))
  have hleft : left = (sweep cwd [tmp, output] fs).1 := congrArg Prod.fst w.cleanScratch_eq_sweep
  refine ⟨⟨(removeScratch cwd fs tmp).1, lookup_removeScratch htmp, fun loc => ?_⟩, fun loc entry => ?_,
    fun origin follow p found hf => ?_, w.cleanScratch_cleanScratch cwd fs⟩
  · rw [hleft, sweep_cons, sweep_cons, sweep_nil]
    exact lookup_removeScratch houtput loc
  · exact w.descend_of_cleanScratch
  · exact (w.cleanScratch_within cwd fs).find hf

end Cleanup

/-- A directory to keep, a link to it in the place of one scratch directory, and the other scratch directory with a
file and a link of its own to what is to be kept. -/
def linkedScratch : FileSystem :=
  ⟨[([Bytes.ofString "keep"], .dir), ([Bytes.ofString "keep", Bytes.ofString "x"], .file (.plain [])),
    ([Bytes.ofString "tmp"], .link (.ofString "keep")), ([Bytes.ofString "output"], .dir),
    ([Bytes.ofString "output", Bytes.ofString "y"], .file (.plain [])),
    ([Bytes.ofString "output", Bytes.ofString "l"], .link (.ofString "../keep"))]⟩

/-- Both links are gone, and what they led to is not. -/
theorem cleanScratch_deletes_exactly_linked :
    let left := ((⟨.ofString "."⟩ : Workdir).cleanScratch [] linkedScratch).1
    (left.lookup [Bytes.ofString "tmp"] = none ∧
      left.lookup [Bytes.ofString "output", Bytes.ofString "l"] = none) ∧
    ∃ found, left.find [] true (.ofString "keep/x") = .ok found ∧
      ∀ way ∈ ["keep/x", "tmp/x", "output/l/x"], linkedScratch.find [] true (.ofString way) = .ok found := by
  intro left
  obtain ⟨-, -, hkept, -⟩ := cleanScratch_deletes_exactly ⟨.ofString "."⟩ [] linkedScratch
  have hfound : left.find [] true (.ofString "keep/x") =
      .ok ([Bytes.ofString "keep", Bytes.ofString "x"], .file (.plain [])) := by decide
  have hways : ∀ way ∈ ["tmp/x", "output/l/x"], linkedScratch.find [] true (.ofString way) =
      .ok ([Bytes.ofString "keep", Bytes.ofString "x"], .file (.plain [])) := by decide
  refine ⟨by decide, _, hfound, fun way hway => ?_⟩
  rcases List.mem_cons.mp hway with rfl | hway
  · exact hkept [] true _ _ hfound
  · exact hways way hway

/-- A scratch directory with a directory and a file in it. -/
def filledScratch : FileSystem :=
  ⟨[([Bytes.ofString "tmp"], .dir), ([Bytes.ofString "tmp", Bytes.ofString "a"], .dir),
    ([Bytes.ofString "tmp", Bytes.ofString "x"], .file (.plain []))]⟩

/-- The cleanup does not remove every directory that it finds at a scratch path, nor does it report each one that it
leaves: where the path leads through what is in the directory, this stays behind without a word. -/
theorem cleanScratch_keeps_emptied :
    ¬∀ (w : Workdir) (cwd place : Location) (fs : FileSystem), ∀ p ∈ w.scratchPaths,
      fs.find cwd false p = .ok (place, .dir) →
        (w.cleanScratch cwd fs).1.lookup place = none ∨ ∃ e, .scratchKept p e ∈ (w.cleanScratch cwd fs).2 := by
  intro h
  let w : Workdir := ⟨.ofString "tmp/a/../.."⟩
  have hkept : (w.cleanScratch [] filledScratch).1.lookup [Bytes.ofString "tmp"] ≠ none := by decide
  have hevents : (w.cleanScratch [] filledScratch).2 = [.scratchRemoved (w.root.join (.ofString "tmp"))] := by decide
  rcases h w [] [Bytes.ofString "tmp"] filledScratch _ (.head _) (by decide) with hgone | ⟨e, hwarned⟩
  · exact hkept hgone
  · simp [hevents] at hwarned

/-! ### One removal after the other -/

/-- Some names in a directory, as paths. -/
def pathsUnder (root : Path) (names : List String) : List Path := names.map fun name => root.join (.ofString name)

theorem isChild_of_mem_pathsUnder (root : Path) {names : List String}
    (hn : ∀ name ∈ names, isEntryName (Bytes.ofString name)) : ∀ p ∈ pathsUnder root names, root.IsChild p := by
  intro p hp
  obtain ⟨name, hname, rfl⟩ := List.mem_map.mp hp
  exact isChild_join (hn name hname)

theorem sweep_append (paths more : List Path) (fs : FileSystem) :
    (sweep cwd (paths ++ more) fs).1 = (sweep cwd more (sweep cwd paths fs).1).1 := by
  induction paths generalizing fs with
  | nil => rfl
  | cons p rest ih => exact ih _

/-- A sweep leaves alone what stands in the directory under other names than its own. -/
theorem lookup_sweep_other {names : List String} {name : String} (hs : fs.stat cwd root = .ok (dir, .dir))
    {small : FileSystem} (hw : small.Within fs) (hn : ∀ other ∈ names, isEntryName (Bytes.ofString other))
    (hne : ∀ other ∈ names, Bytes.ofString other ≠ Bytes.ofString name) :
    (sweep cwd (pathsUnder root names) small).1.lookup (scratchPlace dir name) =
      small.lookup (scratchPlace dir name) := by
  rw [lookup_sweep (isChild_of_mem_pathsUnder root hn), if_neg]
  intro htaken
  obtain ⟨p, hp, d, hat, hpre⟩ := scratchAt_of_taken (isChild_of_mem_pathsUnder root hn) htaken
  obtain ⟨other, hother, rfl⟩ := List.mem_map.mp hp
  have hplace := scratchAt_join (hn other hother) hs (scratchAt_of_within hw hat)
  have hsame : scratchPlace dir other = scratchPlace dir name :=
    (hplace ▸ hpre).eq_of_length (by simp [scratchPlace])
  exact hne other hother (by simpa [scratchPlace] using hsame)

section Order

variable {before after : List String} {name : String}

/-- What becomes of a scratch directory is settled when its own turn comes. -/
theorem lookup_sweep_turn (hs : fs.stat cwd root = .ok (dir, .dir))
    (horder : (before ++ name :: after).Perm scratchNames) :
    let now := (sweep cwd (pathsUnder root before) fs).1
    now.lookup (scratchPlace dir name) = fs.lookup (scratchPlace dir name) ∧
    (sweep cwd (pathsUnder root (before ++ name :: after)) fs).1.lookup (scratchPlace dir name) =
      (removeScratch cwd now (root.join (.ofString name))).1.lookup (scratchPlace dir name) := by
  intro now
  have hn : ∀ n ∈ before ++ name :: after, isEntryName (Bytes.ofString n) :=
    fun n h => isEntryName_of_mem_scratchNames n (horder.subset h)
  have hnodup : ((before ++ name :: after).map Bytes.ofString).Nodup :=
    (horder.map Bytes.ofString).nodup_iff.mpr (by decide)
  obtain ⟨hne, -⟩ := List.nodup_cons.mp (List.nodup_middle.mp (List.map_append ▸ hnodup))
  have hother {n : String} (h : n ∈ before ∨ n ∈ after) : Bytes.ofString n ≠ Bytes.ofString name :=
    fun heq => hne (List.mem_append.mpr (heq ▸ h.imp List.mem_map_of_mem List.mem_map_of_mem))
  have hbefore : ∀ n ∈ before, isEntryName (Bytes.ofString n) := fun n h => hn n (List.mem_append_left _ h)
  have hafter : ∀ n ∈ after, isEntryName (Bytes.ofString n) :=
    fun n h => hn n (List.mem_append_right _ (.tail _ h))
  have hnow : now.Within fs := sweep_within (isChild_of_mem_pathsUnder root hbefore)
  have hnext : (removeScratch cwd now (root.join (.ofString name))).1.Within fs :=
    (removeScratch_within (isChild_join (hn name (by simp)))).trans hnow
  refine ⟨lookup_sweep_other hs (.refl fs) hbefore fun n h => hother (.inl h), ?_⟩
  rw [pathsUnder, List.map_append, sweep_append]
  exact lookup_sweep_other hs hnext hafter fun n h => hother (.inr h)

/-- When a scratch directory is gone after both removals, in whichever order they are made: if and only if its path
is not too long for the system, the way to the workdir does not lead through what is in it, and the removals before it
have taken away nothing on this way. The cleanup is the case of one of the two orders. -/
theorem sweep_frees_scratch_iff (hs : fs.stat cwd root = .ok (dir, .dir))
    (horder : (before ++ name :: after).Perm scratchNames) (hdir : fs.lookup (scratchPlace dir name) = some .dir) :
    let left := (sweep cwd (pathsUnder root (before ++ name :: after)) fs).1
    (left.lookup (scratchPlace dir name) = none ↔ (root.join (.ofString name)).bytes.length < maxPathLength ∧
      ∀ loc ∈ fs.visits cwd true root, taken cwd (pathsUnder root before) fs loc = false ∧
        ¬(scratchPlace dir name <+: loc ∧ loc ≠ scratchPlace dir name)) ∧
    (⟨root⟩ : Workdir).cleanScratch cwd fs = sweep cwd (pathsUnder root scratchNames) fs := by
  intro left
  obtain ⟨hsame, hturn⟩ := lookup_sweep_turn hs horder
  set now := (sweep cwd (pathsUnder root before) fs).1 with hnow
  have hname := isEntryName_of_mem_scratchNames name (horder.subset (by simp))
  have hbefore := isChild_of_mem_pathsUnder root fun n h =>
    isEntryName_of_mem_scratchNames n (horder.subset (List.mem_append_left _ h))
  have hplace : now.lookup (scratchPlace dir name) = some .dir := hsame.trans hdir
  -- As long as the workdir is reached, it is reached by the same way.
  have hway (h : now.stat cwd root = .ok (dir, .dir)) : now.visits cwd true root = fs.visits cwd true root := by
    refine (find_congr fun loc hl => ?_).1
    rw [hnow, lookup_sweep hbefore, (stat_sweep_iff hbefore hs).mp h loc hl]
    rfl
  have hgone : left.lookup (scratchPlace dir name) = none ↔
      deletes cwd now (root.join (.ofString name)) (scratchPlace dir name) := by
    rw [hturn, lookup_removeScratch (isChild_join hname), hplace]
    simp
  refine ⟨hgone.trans ⟨fun hdel => ?_, fun ⟨hshort, hopen⟩ => ?_⟩, cleanScratch_eq_sweep ⟨root⟩⟩
  · obtain ⟨d, hd, -⟩ := scratchAt_of_deletes hdel
    obtain ⟨entry, hf, -⟩ := scratchAt_eq_some_iff.mp hd
    have hstat := (sweep_within hbefore).stat_of_find_join hs (plain_of_isEntryName hname).1 hf
    obtain ⟨hshort, hbelow⟩ := (deletes_place_iff hname hstat hplace).mp hdel
    rw [hway hstat] at hbelow
    exact ⟨hshort, fun loc hl => ⟨(stat_sweep_iff hbefore hs).mp hstat loc hl, hbelow loc hl⟩⟩
  · have hstat := (stat_sweep_iff hbefore hs).mpr fun loc hl => (hopen loc hl).1
    refine (deletes_place_iff hname hstat hplace).mpr ⟨hshort, fun loc hl => ?_⟩
    rw [hway hstat] at hl
    exact (hopen loc hl).2

end Order

/-- Both scratch directories, with nothing in them. -/
def emptyScratch : FileSystem := ⟨[([Bytes.ofString "tmp"], .dir), ([Bytes.ofString "output"], .dir)]⟩

/-- A workdir that is written as a way into one of its scratch directories and out again. -/
def detour : Workdir := ⟨.ofString "tmp/.."⟩

/-- There, the directory that the way leads through can be removed last, but not first. -/
theorem sweep_frees_scratch_iff_detour :
    emptyScratch.stat [] detour.root = .ok ([], .dir) ∧
    (sweep [] (pathsUnder detour.root ["output", "tmp"]) emptyScratch).1.lookup [Bytes.ofString "tmp"] = none ∧
    (sweep [] (pathsUnder detour.root ["tmp", "output"]) emptyScratch).1.lookup [Bytes.ofString "output"] ≠ none := by
  have hs : emptyScratch.stat [] detour.root = .ok ([], .dir) := by decide
  have htmp := @sweep_frees_scratch_iff [] [] emptyScratch detour.root ["output"] [] "tmp" hs (by decide) (by decide)
  have houtput := @sweep_frees_scratch_iff [] [] emptyScratch detour.root ["tmp"] [] "output" hs (by decide) (by decide)
  refine ⟨hs, htmp.1.mpr (by decide), fun hgone => ?_⟩
  exact absurd (houtput.1.mp hgone) (by decide)

/-- The cleanup does not remove both scratch directories of every workdir. -/
theorem cleanScratch_keeps_scratch :
    ¬∀ (w : Workdir) (cwd dir : Location) (fs : FileSystem), fs.stat cwd w.root = .ok (dir, .dir) →
      ∀ name ∈ scratchNames, fs.lookup (scratchPlace dir name) = some .dir →
        (w.cleanScratch cwd fs).1.lookup (scratchPlace dir name) = none := by
  intro h
  have hgone := h detour [] [] emptyScratch (by decide) "output" (by decide) (by decide)
  exact absurd hgone (by decide)

end Workdir

end AlloyGrade
