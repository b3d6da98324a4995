import AlloyGrade.Proofs.Files.Child
import AlloyGrade.Proofs.Files.Removal
import AlloyGrade.Workdir
import Mathlib.Data.List.Nodup

/-! What the cleanup of a workdir does to the file system. It takes away what is in the scratch directories, the
directories themselves and the links that stand in their place, and nothing else; only a directory that its path leads
through the contents of stays, emptied. Afterwards a scratch path leads to neither a directory nor a link. -/

namespace AlloyGrade

/-- The kinds of entries that a cleanup takes away. -/
def Entry.isDirOrLink : Entry → Bool
  | .dir | .link _ => true
  | _ => false

theorem Path.withoutTrailingSlash_join (p : Path) {name : Name} (h : name.Plain) :
    (p.join ⟨name⟩).withoutTrailingSlash = p.join ⟨name⟩ := by
  have hlast := getLast?_join p h
  obtain ⟨front, last, hbytes⟩ : ∃ front last, (p.join ⟨name⟩).bytes = front ++ [last] := by
    rcases List.eq_nil_or_concat (p.join ⟨name⟩).bytes with hnil | ⟨front, last, hl⟩
    · rw [hnil] at hlast
      exact absurd (List.getLast?_eq_none_iff.mp hlast.symm) h.nonempty
    · exact ⟨front, last, by simpa using hl⟩
  have hslash : last ≠ Bytes.slash := by
    rintro rfl
    rw [hbytes, List.getLast?_concat] at hlast
    exact getLast?_ne_slash h hlast.symm
  have hkept : ((p.join ⟨name⟩).bytes.reverse.dropWhile (· == Bytes.slash)).reverse = (p.join ⟨name⟩).bytes := by
    simp [hbytes, hslash]
  rw [withoutTrailingSlash, hkept]
  split
  · simp_all
  · rfl

namespace FileSystem

variable {fs : FileSystem} {cwd place : Location} {root p : Path}

/-! ### Removing a directory with all it holds -/

/-- Whether the way of a path leads through what is in a directory. -/
def leadsInto (fs : FileSystem) (cwd : Location) (p : Path) (place : Location) : Bool :=
  (fs.visits cwd false p).any fun loc => place.isPrefixOf loc && loc != place

theorem leadsInto_iff : fs.leadsInto cwd p place ↔ ∃ loc ∈ fs.visits cwd false p, place <+: loc ∧ loc ≠ place := by
  simp [leadsInto, isPrefixOf_eq_decide]

/-- A path leads to a directory that has been emptied unless it leads through what was in it. -/
theorem find_removeBelow_iff (h : fs.find cwd false p = .ok (place, .dir)) :
    (fs.removeBelow place).find cwd false p = .ok (place, .dir) ↔ ¬fs.leadsInto cwd p place := by
  rw [(removeBelow_within place).find_eq_ok_iff h, leadsInto_iff]
  push Not
  refine forall₂_congr fun loc hl => ?_
  have hsome := isSome_of_mem_visits h loc hl
  rw [lookup_removeBelow]
  split_ifs with hbelow
  · simp [hbelow]
  · simpa [hsome] using hbelow

/-- The removal of a directory by the name it has in its workdir. -/
theorem removeDir_child (hp : root.IsChild p) : fs.removeDir cwd p = match fs.find cwd false p with
    | .error e => (.error e, fs)
    | .ok (place, .dir) => if fs.names place != [] then (.error (.os 39), fs) else (.ok (), fs.removeTree place)
    | .ok _ => (.error .notDirectory, fs) := by
  obtain ⟨name, hn, rfl⟩ := hp
  have hdown : name ≠ [Bytes.dot] ∧ name ≠ [Bytes.dot, Bytes.dot] := by simpa [leadsDown] using hn.down
  rw [removeDir, Path.pieces_join root hn, Path.withoutTrailingSlash_join root hn, if_neg (by simpa using hdown.1),
    if_neg (by simpa using hdown.2)]
  cases hf : fs.find cwd false (root.join ⟨name⟩) with
  | error e => rfl
  | ok found =>
    obtain ⟨loc, entry⟩ := found
    cases entry with
    | dir =>
      obtain ⟨dir, -, rfl, -⟩ := find_join hn hf
      exact if_neg (by simp)
    | file | link | fifo | device => rfl

/-- What a directory holds goes, and then the directory, unless its path leads nowhere by then. -/
theorem removeDirAll_dir (hp : root.IsChild p) (h : fs.find cwd false p = .ok (place, .dir)) :
    fs.removeDirAll cwd p =
      (.ok (), if fs.leadsInto cwd p place then fs.removeBelow place else fs.removeTree place) := by
  rw [removeDirAll, h]
  dsimp only
  rw [removeDir_child hp]
  by_cases hinto : fs.leadsInto cwd p place
  · have hgone : (fs.removeBelow place).find cwd false p = .error .noEntry := by
      rcases (removeBelow_within place).find_cases false cwd p with hsame | hgone
      · exact absurd (hsame.trans h) (mt (find_removeBelow_iff h).mp (not_not.mpr hinto))
      · exact hgone
    simp [hgone, hinto]
  · rw [(find_removeBelow_iff h).mpr hinto]
    simp [names_removeBelow, removeTree_removeBelow, hinto]

end FileSystem

namespace Workdir

variable {cwd : Location} {fs : FileSystem}

/-- The directory or link that a removal at this path is about, if there is one. -/
def scratchAt (cwd : Location) (fs : FileSystem) (p : Path) : Option Location :=
  match fs.find cwd false p with
  | .ok (loc, entry) => if entry.isDirOrLink then some loc else none
  | .error _ => none

/-- Whether a removal at a path deletes what is at a location. All that is in a directory goes, and so does the
directory, unless its path leads through what is in it; a link goes alone, and anything else stays. -/
def deletes (cwd : Location) (fs : FileSystem) (p : Path) (loc : Location) : Bool :=
  match fs.find cwd false p with
  | .ok (place, .dir) =>
    place.isPrefixOf loc && (fs.lookup loc).isSome && (loc != place || !fs.leadsInto cwd p place)
  | .ok (place, .link _) => loc == place
  | _ => false

/-- Removes what is at the given paths, one after the other. -/
def sweep (cwd : Location) : List Path → FileSystem → FileSystem × List Event
  | [], fs => (fs, [])
  | p :: rest, fs =>
    let (left, events) := removeScratch cwd fs p
    let (last, more) := sweep cwd rest left
    (last, events ++ more)

/-- Whether a sweep deletes what is at a location. -/
def taken (cwd : Location) : List Path → FileSystem → Location → Bool
  | [], _, _ => false
  | p :: rest, fs, loc => deletes cwd fs p loc || taken cwd rest (removeScratch cwd fs p).1 loc

@[simp] theorem sweep_nil (cwd : Location) (fs : FileSystem) : sweep cwd [] fs = (fs, []) := rfl

@[simp] theorem sweep_cons (cwd : Location) (p : Path) (rest : List Path) (fs : FileSystem) :
    sweep cwd (p :: rest) fs = ((sweep cwd rest (removeScratch cwd fs p).1).1,
      (removeScratch cwd fs p).2 ++ (sweep cwd rest (removeScratch cwd fs p).1).2) := rfl

theorem cleanScratch_eq_sweep (w : Workdir) : w.cleanScratch cwd fs = sweep cwd w.scratchPaths fs := by
  have hfold : ∀ (paths : List Path) (fs : FileSystem) (events : List Event),
      paths.foldl (fun (fs, events) path =>
        let (left, more) := removeScratch cwd fs path
        (left, events ++ more)) (fs, events) = ((sweep cwd paths fs).1, events ++ (sweep cwd paths fs).2) := by
    intro paths
    induction paths with
    | nil => intro fs events; simp
    | cons p rest ih => intro fs events; simp [ih]
  exact hfold w.scratchPaths fs []

theorem plain_of_mem_scratchNames : ∀ name ∈ scratchNames, Name.Plain (Bytes.ofString name) := by decide

theorem scratchPaths_isChild (w : Workdir) : ∀ p ∈ w.scratchPaths, w.root.IsChild p := by
  intro p hp
  obtain ⟨name, hn, rfl⟩ := List.mem_map.mp hp
  exact ⟨Bytes.ofString name, plain_of_mem_scratchNames name hn, rfl⟩

theorem scratchPaths_nodup (w : Workdir) : w.scratchPaths.Nodup := by
  refine List.Nodup.map_on (fun x hx y hy h => ?_) (by decide)
  have hpieces := congrArg Path.pieces h
  rw [Path.ofString, Path.ofString, Path.pieces_join _ (plain_of_mem_scratchNames x hx),
    Path.pieces_join _ (plain_of_mem_scratchNames y hy)] at hpieces
  have hbytes : Bytes.ofString x = Bytes.ofString y := by simpa using hpieces
  have hinj : ∀ x ∈ scratchNames, ∀ y ∈ scratchNames, Bytes.ofString x = Bytes.ofString y → x = y := by decide
  exact hinj x hx y hy hbytes

/-! ### One removal -/

theorem scratchAt_eq_some_iff {p : Path} {loc : Location} : scratchAt cwd fs p = some loc ↔
    ∃ entry, fs.find cwd false p = .ok (loc, entry) ∧ entry.isDirOrLink := by
  rw [scratchAt]
  cases fs.find cwd false p with
  | error e => simp
  | ok found =>
    obtain ⟨l, entry⟩ := found
    cases h : entry.isDirOrLink <;> simp_all

theorem scratchAt_eq_none_of_find {p : Path} {loc : Location} {entry : Entry}
    (h : fs.find cwd false p = .ok (loc, entry)) : scratchAt cwd fs p = none ↔ entry.isDirOrLink = false := by
  rw [scratchAt, h]
  cases hk : entry.isDirOrLink <;> simp [hk]

/-- What one removal leaves and reports. -/
theorem removeScratch_eq {root p : Path} (hp : root.IsChild p) : removeScratch cwd fs p =
    match fs.find cwd false p with
    | .error e => (fs, if e = .noEntry then [] else [.scratchKept p e])
    | .ok (place, .dir) =>
      (if fs.leadsInto cwd p place then fs.removeBelow place else fs.removeTree place, [.scratchRemoved p])
    | .ok (place, .link _) => (fs.removeTree place, [.scratchRemoved p])
    | .ok _ => (fs, [.scratchKept p .notDirectory]) := by
  cases hf : fs.find cwd false p with
  | error e => rw [removeScratch, FileSystem.removeDirAll, hf]
  | ok found =>
    obtain ⟨place, entry⟩ := found
    cases entry with
    | dir => rw [removeScratch, FileSystem.removeDirAll_dir hp hf]
    | link => rw [removeScratch, FileSystem.removeDirAll, hf]
    | file | fifo | device =>
      rw [removeScratch, FileSystem.removeDirAll, hf]
      rfl

theorem removeScratch_of_scratchAt_eq_none {root p : Path} (hp : root.IsChild p) (h : scratchAt cwd fs p = none) :
    (removeScratch cwd fs p).1 = fs := by
  rw [removeScratch_eq hp]
  cases hf : fs.find cwd false p with
  | error e => rfl
  | ok found =>
    obtain ⟨place, entry⟩ := found
    have hk := (scratchAt_eq_none_of_find hf).mp h
    cases entry <;> first | rfl | cases hk

/-- Something of another kind is kept, and this is reported. -/
theorem removeScratch_snd_of_find {root p : Path} (hp : root.IsChild p) {loc : Location} {entry : Entry}
    (h : fs.find cwd false p = .ok (loc, entry)) (hk : entry.isDirOrLink = false) :
    (removeScratch cwd fs p).2 = [.scratchKept p .notDirectory] := by
  rw [removeScratch_eq hp, h]
  cases entry <;> first | rfl | cases hk

/-- Whatever a removal deletes is at or below the directory or link that it is about. -/
theorem scratchAt_of_deletes {p : Path} {loc : Location} (h : deletes cwd fs p loc) :
    ∃ place, scratchAt cwd fs p = some place ∧ place <+: loc := by
  rw [deletes] at h
  cases hf : fs.find cwd false p with
  | error e => simp [hf] at h
  | ok found =>
    obtain ⟨place, entry⟩ := found
    cases entry with
    | dir =>
      simp only [hf, Bool.and_eq_true, List.isPrefixOf_iff_prefix] at h
      exact ⟨place, scratchAt_eq_some_iff.mpr ⟨_, hf, rfl⟩, h.1.1⟩
    | link target =>
      obtain rfl : loc = place := by simpa [hf] using h
      exact ⟨loc, scratchAt_eq_some_iff.mpr ⟨_, hf, rfl⟩, List.prefix_refl loc⟩
    | file | fifo | device => simp [hf] at h

/-- Whatever a removal deletes was there. -/
theorem isSome_of_deletes {root p : Path} (hp : root.IsChild p) {loc : Location} (h : deletes cwd fs p loc) :
    (fs.lookup loc).isSome := by
  rw [deletes] at h
  cases hf : fs.find cwd false p with
  | error e => simp [hf] at h
  | ok found =>
    obtain ⟨place, entry⟩ := found
    cases entry with
    | dir =>
      simp only [hf, Bool.and_eq_true] at h
      exact h.1.2
    | link target =>
      obtain rfl : loc = place := by simpa [hf] using h
      exact Option.isSome_of_eq_some (FileSystem.lookup_of_find_child hp hf)
    | file | fifo | device => simp [hf] at h

/-- Nothing stands below a link. -/
theorem lookup_below_link {place loc : Location} {target : Path} (h : fs.lookup place = some (.link target))
    (hp : place <+: loc) (hne : loc ≠ place) : fs.lookup loc = none := by
  obtain ⟨names, rfl⟩ := hp
  cases names with
  | nil => simp at hne
  | cons name rest =>
    rw [FileSystem.lookup] at h
    rw [FileSystem.lookup, FileSystem.descend_append, h, Option.bind_some, FileSystem.descend]
    exact Entry.noConfusion

/-- A removal deletes what it deletes and nothing else. -/
theorem lookup_removeScratch {root p : Path} (hp : root.IsChild p) (loc : Location) :
    (removeScratch cwd fs p).1.lookup loc = if deletes cwd fs p loc then none else fs.lookup loc := by
  rw [removeScratch_eq hp, deletes]
  cases hf : fs.find cwd false p with
  | error e => simp
  | ok found =>
    obtain ⟨place, entry⟩ := found
    have hne : place ≠ [] := by
      obtain ⟨name, hn, rfl⟩ := hp
      obtain ⟨dir, -, rfl, -⟩ := FileSystem.find_join hn hf
      simp
    cases entry with
    | dir =>
      by_cases hinto : fs.leadsInto cwd p place
      · simp only [hinto, if_true, FileSystem.lookup_removeBelow]
        cases hl : fs.lookup loc with
        | none => simp
        | some entry => simp [FileSystem.isPrefixOf_eq_decide]
      · simp only [hinto, Bool.false_eq_true, if_false, FileSystem.lookup_removeTree hne]
        cases hl : fs.lookup loc with
        | none => simp
        | some entry => simp [FileSystem.isPrefixOf_eq_decide]
    | link target =>
      simp only [FileSystem.lookup_removeTree hne, beq_iff_eq]
      by_cases hloc : loc = place
      · simp [hloc]
      · by_cases hpre : place <+: loc
        · simp [hloc, lookup_below_link (FileSystem.lookup_of_find_child hp hf) hpre hloc]
        · simp [hloc, hpre]
    | file | fifo | device => simp

theorem removeScratch_within {root p : Path} (hp : root.IsChild p) : (removeScratch cwd fs p).1.Within fs := by
  intro loc entry h
  rw [lookup_removeScratch hp] at h
  split_ifs at h
  exact h

/-- What can be taken away in the smaller file system could be in the larger one. -/
theorem scratchAt_of_within {small : FileSystem} (h : small.Within fs) {p : Path} {loc : Location}
    (hs : scratchAt cwd small p = some loc) : scratchAt cwd fs p = some loc := by
  obtain ⟨entry, hf, hk⟩ := scratchAt_eq_some_iff.mp hs
  exact scratchAt_eq_some_iff.mpr ⟨entry, h.find hf, hk⟩

/-- After a removal its path leads to neither a directory nor a link. -/
theorem scratchAt_removeScratch {root p : Path} (hp : root.IsChild p) :
    scratchAt cwd (removeScratch cwd fs p).1 p = none := by
  by_contra hne
  obtain ⟨place, hat⟩ := Option.ne_none_iff_exists'.mp hne
  obtain ⟨entry, hleft, hk⟩ := scratchAt_eq_some_iff.mp hat
  have hfs := (removeScratch_within hp).find hleft
  -- Whatever the path leads to, and whatever it passes, is still there.
  have hkept {loc : Location} (hl : ((removeScratch cwd fs p).1.lookup loc).isSome) : deletes cwd fs p loc = false := by
    rw [lookup_removeScratch hp] at hl
    split_ifs at hl with hd
    · cases hl
    · simpa using hd
  have hplace := hkept (Option.isSome_of_eq_some (FileSystem.lookup_of_find_child hp hleft))
  have hway := ((removeScratch_within hp).find_eq_ok_iff hfs).mp hleft
  have hlookup := FileSystem.lookup_of_find_child hp hfs
  cases entry with
  | dir =>
    -- The directory stays only if its path leads through its contents, which do not stay.
    have hinto : fs.leadsInto cwd p place := by simpa [deletes, hfs, hlookup] using hplace
    obtain ⟨loc, hl, hpre, hbelow⟩ := FileSystem.leadsInto_iff.mp hinto
    have hloc := hkept (hway loc hl)
    simp [deletes, hfs, hpre, hbelow, FileSystem.isSome_of_mem_visits hfs loc hl] at hloc
  | link target => simp [deletes, hfs] at hplace
  | file | fifo | device => cases hk

/-! ### A whole sweep -/

section Sweep

variable {root : Path} {paths : List Path}

theorem sweep_within (h : ∀ p ∈ paths, root.IsChild p) : (sweep cwd paths fs).1.Within fs := by
  induction paths generalizing fs with
  | nil => exact .refl fs
  | cons p rest ih =>
    exact (ih fun q hq => h q (.tail _ hq)).trans (removeScratch_within (h p (.head _)))

/-- After a sweep there is neither a directory nor a link at any of its paths. -/
theorem scratchAt_sweep (cwd : Location) (fs : FileSystem) (h : ∀ p ∈ paths, root.IsChild p) :
    ∀ p ∈ paths, scratchAt cwd (sweep cwd paths fs).1 p = none := by
  induction paths generalizing fs with
  | nil => simp
  | cons q rest ih =>
    have hrest : ∀ p ∈ rest, root.IsChild p := fun p hp => h p (.tail _ hp)
    intro p hp
    rcases List.mem_cons.mp hp with rfl | hp
    · -- What is left at `p` in the end was there after its own removal.
      have hw : (sweep cwd (p :: rest) fs).1.Within (removeScratch cwd fs p).1 := sweep_within hrest
      by_contra hne
      obtain ⟨d, hd⟩ := Option.ne_none_iff_exists'.mp hne
      have hd' := scratchAt_of_within hw hd
      simp [scratchAt_removeScratch (h p (.head _))] at hd'
    · exact ih (removeScratch cwd fs q).1 hrest p hp

/-- A sweep that finds neither a directory nor a link changes nothing. -/
theorem sweep_of_scratchAt_eq_none (hc : ∀ p ∈ paths, root.IsChild p) (h : ∀ p ∈ paths, scratchAt cwd fs p = none) :
    (sweep cwd paths fs).1 = fs := by
  induction paths with
  | nil => rfl
  | cons p rest ih =>
    rw [sweep_cons, removeScratch_of_scratchAt_eq_none (hc p (.head _)) (h p (.head _))]
    exact ih (fun q hq => hc q (.tail _ hq)) fun q hq => h q (.tail _ hq)

/-- A sweep deletes what it deletes and nothing else. -/
theorem lookup_sweep (h : ∀ p ∈ paths, root.IsChild p) (loc : Location) :
    (sweep cwd paths fs).1.lookup loc = if taken cwd paths fs loc then none else fs.lookup loc := by
  induction paths generalizing fs with
  | nil => simp [taken]
  | cons p rest ih =>
    rw [sweep_cons, ih fun q hq => h q (.tail _ hq), lookup_removeScratch (h p (.head _)), taken]
    by_cases hhead : deletes cwd fs p loc <;> simp [hhead]

/-- Whatever a sweep deletes is at or below a directory or a link that one of its paths leads to before it starts. -/
theorem scratchAt_of_taken (h : ∀ p ∈ paths, root.IsChild p) {loc : Location} (ht : taken cwd paths fs loc) :
    ∃ p ∈ paths, ∃ place, scratchAt cwd fs p = some place ∧ place <+: loc := by
  induction paths generalizing fs with
  | nil => simp [taken] at ht
  | cons p rest ih =>
    rw [taken, Bool.or_eq_true] at ht
    rcases ht with ht | ht
    · exact ⟨p, .head _, scratchAt_of_deletes ht⟩
    · obtain ⟨q, hq, place, hat, hpre⟩ := ih (fun q hq => h q (.tail _ hq)) ht
      exact ⟨q, .tail _ hq, place, scratchAt_of_within (removeScratch_within (h p (.head _))) hat, hpre⟩

/-- Whatever a sweep deletes was there. -/
theorem isSome_of_taken (h : ∀ p ∈ paths, root.IsChild p) {loc : Location} (ht : taken cwd paths fs loc) :
    (fs.lookup loc).isSome := by
  induction paths generalizing fs with
  | nil => simp [taken] at ht
  | cons p rest ih =>
    rw [taken, Bool.or_eq_true] at ht
    rcases ht with ht | ht
    · exact isSome_of_deletes (h p (.head _)) ht
    · obtain ⟨entry, hl⟩ := Option.isSome_iff_exists.mp (ih (fun q hq => h q (.tail _ hq)) ht)
      exact Option.isSome_of_eq_some (removeScratch_within (h p (.head _)) loc entry hl)

/-- A sweep leaves a path its object unless it takes away something on the way there. -/
theorem stat_sweep_iff (h : ∀ p ∈ paths, root.IsChild p) {p : Path} {x : Location × Entry}
    (hx : fs.stat cwd p = .ok x) :
    (sweep cwd paths fs).1.stat cwd p = .ok x ↔ ∀ loc ∈ fs.visits cwd true p, taken cwd paths fs loc = false := by
  rw [FileSystem.stat, (sweep_within h).find_eq_ok_iff hx]
  refine forall₂_congr fun loc hl => ?_
  have hsome := FileSystem.isSome_of_mem_visits hx loc hl
  rw [lookup_sweep h]
  split_ifs with hcut <;> simp [hcut, hsome]

/-- Something of another kind at a scratch path stays where it is. -/
theorem lookup_sweep_of_find (h : ∀ p ∈ paths, root.IsChild p) {p : Path} (hp : p ∈ paths) {loc : Location}
    {entry : Entry} (hf : fs.find cwd false p = .ok (loc, entry)) (hk : entry.isDirOrLink = false) :
    (sweep cwd paths fs).1.lookup loc = some entry := by
  rw [lookup_sweep h, if_neg, FileSystem.lookup_of_find_child (h p hp) hf]
  intro ht
  obtain ⟨q, hq, place, hat, hpre⟩ := scratchAt_of_taken h ht
  obtain ⟨n, hn, rfl⟩ := h p hp
  obtain ⟨m, hm, rfl⟩ := h q hq
  obtain ⟨e, hfq, hkq⟩ := scratchAt_eq_some_iff.mp hat
  -- Both stand in the directory of the workdir, so one is below the other only if they are the same.
  obtain ⟨dir, hb, rfl, -⟩ := FileSystem.find_join hn hf
  obtain ⟨dir', hb', rfl, -⟩ := FileSystem.find_join hm hfq
  obtain rfl : dir = dir' := by simpa [hb] using hb'
  have hsame : dir ++ [m] = dir ++ [n] := hpre.eq_of_length (by simp)
  obtain rfl : m = n := by simpa using hsame
  rw [hf] at hfq
  cases hfq
  simp [hk] at hkq

/-- Whether an event warns that what is at a path was kept. -/
def keeps (p : Path) (event : Event) : Bool :=
  match event with
  | .scratchKept q _ => decide (q = p ∧ event.level = .warn)
  | _ => false

theorem countP_keeps_removeScratch_of_ne (cwd : Location) (fs : FileSystem) {p q : Path} (h : q ≠ p) :
    (removeScratch cwd fs q).2.countP (keeps p) = 0 := by
  rw [removeScratch]
  cases fs.removeDirAll cwd q with
  | mk result left =>
    cases result with
    | ok _ => rfl
    | error e => by_cases he : e = .noEntry <;> simp [he, keeps, h]

theorem countP_keeps_sweep_of_not_mem {p : Path} (h : p ∉ paths) :
    (sweep cwd paths fs).2.countP (keeps p) = 0 := by
  induction paths generalizing fs with
  | nil => rfl
  | cons q rest ih =>
    simp only [List.mem_cons, not_or] at h
    have := countP_keeps_removeScratch_of_ne cwd fs (Ne.symm h.1)
    simp only [sweep_cons, List.countP_append, this, ih h.2]

/-- Something still found at a path after a sweep was found there before, is of another kind, and has been
reported exactly once. -/
theorem countP_keeps_sweep_of_find (h : ∀ p ∈ paths, root.IsChild p) (hn : paths.Nodup) {p : Path} (hp : p ∈ paths)
    {x : Location × Entry} (hf : (sweep cwd paths fs).1.find cwd false p = .ok x) :
    (sweep cwd paths fs).2.countP (keeps p) = 1 := by
  induction paths generalizing fs with
  | nil => simp at hp
  | cons q rest ih =>
    have hrest : ∀ p ∈ rest, root.IsChild p := fun p hp => h p (.tail _ hp)
    obtain ⟨hq, hn⟩ := List.nodup_cons.mp hn
    rw [sweep_cons, List.countP_append]
    rcases List.mem_cons.mp hp with rfl | hp
    · have hfs := (sweep_within h).find hf
      have hk := (scratchAt_eq_none_of_find hf).mp (scratchAt_sweep cwd fs h p (.head _))
      rw [removeScratch_snd_of_find (h p (.head _)) hfs hk, countP_keeps_sweep_of_not_mem hq]
      simp [keeps, Event.level]
    · have hne : q ≠ p := fun heq => hq (heq ▸ hp)
      rw [countP_keeps_removeScratch_of_ne cwd fs hne, Nat.zero_add]
      exact ih hrest hn hp hf

end Sweep

/-! ### The cleanup of a workdir -/

section Cleanup

variable (w : Workdir)

/-- Whatever is found at a scratch path is neither a directory nor a link. -/
def Swept (cwd : Location) (fs : FileSystem) : Prop :=
  ∀ p ∈ w.scratchPaths, ∀ loc entry, fs.find cwd false p = .ok (loc, entry) → entry.isDirOrLink = false

theorem swept_cleanScratch (cwd : Location) (fs : FileSystem) : w.Swept cwd (w.cleanScratch cwd fs).1 := by
  intro p hp loc entry hf
  rw [cleanScratch_eq_sweep] at hf
  exact (scratchAt_eq_none_of_find hf).mp (scratchAt_sweep cwd fs w.scratchPaths_isChild p hp)

theorem cleanScratch_within (cwd : Location) (fs : FileSystem) : (w.cleanScratch cwd fs).1.Within fs := by
  rw [cleanScratch_eq_sweep]
  exact sweep_within w.scratchPaths_isChild

end Cleanup

end Workdir

end AlloyGrade
