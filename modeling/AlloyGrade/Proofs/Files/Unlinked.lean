import AlloyGrade.Proofs.Files.Trail

/-! Canonical paths and walks. Writing a location down name by name comes to the place where a walk along the same names
ends, and to the same error where the walk fails, as long as no path that is written on the way is too long for the
system. So a path that starts from a directory and denotes an object has a canonical form, which spells the location of
the object, unless some location on the way cannot be spelled in fewer octets than the system takes. -/

namespace AlloyGrade

/-- The number of octets it takes to spell a location. -/
def Location.width (loc : Location) : Nat := loc.path.bytes.length

namespace FileSystem

variable {fs : FileSystem} {cwd : Location} {p : Path}

/-! ### What is written down -/

/-- The location to write down where a walk ends, if it does not end at a free name. -/
def Progress.written (atLink : Location → Path → List Name → Except IoError Location) :
    Progress → Except IoError Location
  | .arrived loc _ => .ok loc
  | .absent .. => .error .noEntry
  | .redirected dir target rest => atLink dir target rest
  | .failed e => .error e

/-- One name is written down where a walk takes it, unless the path becomes too long. -/
theorem writeOut_cons (atLink : Location → Path → List Name → Except IoError Location) (written : Location) (step : Name)
    (rest : List Name) :
    (fs.writeOut atLink written (step :: rest) = (match fs.hop written step with
        | .into dir => fs.writeOut atLink dir rest
        | .onto _ => if rest.isEmpty then .ok (written ++ [step]) else .error .notDirectory
        | .link target => atLink written target rest
        | .missing => .error .noEntry
        | .failed e => .error e) ∧ ∀ loc ∈ peeks written step, loc.width < maxPathLength) ∨
      fs.writeOut atLink written (step :: rest) = .error .nameTooLong ∧
        ∃ loc ∈ peeks written step, maxPathLength ≤ loc.width + 1 := by
  by_cases hdown : leadsDown step
  · have hne : step ≠ [Bytes.dot] ∧ step ≠ [Bytes.dot, Bytes.dot] := by simpa [leadsDown] using hdown
    have hpeeks : peeks written step = [written ++ [step]] := if_pos hdown
    rw [writeOut, if_neg hne.1, if_neg hne.2, hop_down written hdown, hpeeks, ← Location.width]
    by_cases hlong : maxPathLength ≤ (written ++ [step]).width
    · exact .inr ⟨by simp [hlong], _, .head _, Nat.le_succ_of_le hlong⟩
    by_cases hname : maxNameLength < step.length
    · exact .inl ⟨by simp [hname], by simpa using hlong⟩
    simp only [hlong, hname, decide_false, Bool.or_self, Bool.false_eq_true, if_false]
    cases fs.lookup (written ++ [step]) with
    | none => exact .inl ⟨rfl, by simpa using hlong⟩
    | some entry =>
      cases entry with
      | dir =>
        -- A slash may be added to what is written so far.
        by_cases hslash : asksForDir rest && maxPathLength ≤ (written ++ [step]).width + 1
        · simp only [Bool.and_eq_true, decide_eq_true_eq] at hslash
          exact .inr ⟨by simp [hslash], _, .head _, hslash.2⟩
        · exact .inl ⟨if_neg hslash, by simpa using hlong⟩
      | file | link | fifo | device => exact .inl ⟨rfl, by simpa using hlong⟩
  · have hpeeks : peeks written step = [] := if_neg hdown
    rw [hpeeks]
    rcases eq_dots_of_not_leadsDown hdown with rfl | rfl <;> exact .inl ⟨rfl, List.forall_mem_nil _⟩

/-- Up to the next link, what is written down is where the walk is. -/
theorem writeOut_cases (atLink : Location → Path → List Name → Except IoError Location) (written : Location)
    (steps : List Name) :
    (fs.writeOut atLink written steps = (fs.advance true written steps).written atLink ∧
        ∀ loc ∈ fs.looked written steps, loc.width < maxPathLength) ∨
      fs.writeOut atLink written steps = .error .nameTooLong ∧
        ∃ loc ∈ fs.looked written steps, maxPathLength ≤ loc.width + 1 := by
  induction steps generalizing written with
  | nil => exact .inl ⟨rfl, List.forall_mem_nil _⟩
  | cons step rest ih =>
    rw [advance_cons, looked]
    rcases writeOut_cons atLink written step rest with ⟨heq, hshort⟩ | ⟨heq, loc, hl, hlong⟩
    · rw [heq]
      cases fs.hop written step with
      | into dir =>
        rcases ih dir with ⟨hrest, hmore⟩ | ⟨hrest, loc, hl, hlong⟩
        · exact .inl ⟨hrest, fun loc hl => (List.mem_append.mp hl).elim (hshort loc) (hmore loc)⟩
        · exact .inr ⟨hrest, loc, List.mem_append_right _ hl, hlong⟩
      | onto entry => exact .inl ⟨by cases rest <;> rfl, by simpa using hshort⟩
      | link target => exact .inl ⟨by simp [Progress.written], by simpa using hshort⟩
      | missing =>
        refine .inl ⟨?_, by simpa using hshort⟩
        dsimp only
        split_ifs <;> rfl
      | failed e => exact .inl ⟨rfl, by simpa using hshort⟩
    · exact .inr ⟨heq, loc, List.mem_append_left _ hl, hlong⟩

/-- Across links, too, writing a location down and walking to it come to the same. -/
theorem unlinked_cases (links : Nat) (start : Location) (steps : List Name) :
    (fs.unlinked links start steps = (fs.walk true links start steps >>= Place.object).map Prod.fst ∧
        ∀ loc ∈ fs.trail true links start steps, loc.width < maxPathLength) ∨
      fs.unlinked links start steps = .error .nameTooLong ∧
        ∃ loc ∈ fs.trail true links start steps, maxPathLength ≤ loc.width + 1 := by
  induction links generalizing start steps with
  | zero =>
    rw [unlinked, walk_object, trail]
    rcases writeOut_cases (fun _ _ _ => .error .linkLoop) start steps with ⟨heq, hshort⟩ | ⟨heq, loc, hl, hlong⟩
    · rw [heq]
      cases fs.advance true start steps <;> exact .inl ⟨rfl, by simpa using hshort⟩
    · exact .inr ⟨heq, loc, List.mem_append_left _ hl, hlong⟩
  | succ links ih =>
    rw [unlinked, walk_object, trail]
    rcases writeOut_cases
      (fun dir target rest => fs.unlinked links (if target.isAbsolute then [] else dir) (target.steps ++ rest))
      start steps
      with ⟨heq, hshort⟩ | ⟨heq, loc, hl, hlong⟩
    · rw [heq]
      cases fs.advance true start steps with
      | redirected dir target rest =>
        rcases ih (if target.isAbsolute then [] else dir) (target.steps ++ rest) with
          ⟨hrest, hmore⟩ | ⟨hrest, loc, hl, hlong⟩
        · exact .inl ⟨hrest, fun loc hl => (List.mem_append.mp hl).elim (hshort loc) (hmore loc)⟩
        · exact .inr ⟨hrest, loc, List.mem_append_right _ hl, hlong⟩
      | arrived | absent | failed => exact .inl ⟨rfl, by simpa using hshort⟩
    · exact .inr ⟨heq, loc, List.mem_append_left _ hl, hlong⟩

theorem startAt_eq_ok_iff {start dir : Location} :
    fs.startAt start = .ok dir ↔ start = dir ∧ fs.lookup start = some .dir := by
  rw [startAt]
  cases fs.lookup start with
  | none => simp
  | some entry => cases entry <;> simp

/-! ### What is looked at -/

section Congr

variable {a b : FileSystem}

theorem writeOut_congr {atA atB : Location → Path → List Name → Except IoError Location} {written : Location}
    {steps : List Name} (h : ∀ loc ∈ a.looked written steps, b.lookup loc = a.lookup loc)
    (hat : ∀ dir target rest, a.advance true written steps = .redirected dir target rest →
      atB dir target rest = atA dir target rest) :
    b.writeOut atB written steps = a.writeOut atA written steps := by
  induction steps generalizing written with
  | nil => rfl
  | cons step rest ih =>
    rw [looked] at h
    rw [advance_cons] at hat
    have hinto {dir : Location} (hh : a.hop written step = .into dir) :
        b.writeOut atB dir rest = a.writeOut atA dir rest := by
      simp only [hh] at h hat
      exact ih (fun loc hl => h loc (List.mem_append_right _ hl)) hat
    by_cases hdown : leadsDown step
    · have hne : step ≠ [Bytes.dot] ∧ step ≠ [Bytes.dot, Bytes.dot] := by simpa [leadsDown] using hdown
      rw [writeOut, writeOut, if_neg hne.1, if_neg hne.2, if_neg hne.1, if_neg hne.2,
        h (written ++ [step]) (List.mem_append_left _ (by simp [peeks, hdown]))]
      by_cases hlong : maxNameLength < step.length ||
          maxPathLength ≤ (Location.path (written ++ [step])).bytes.length
      · simp only [if_pos hlong]
      · have hname : ¬maxNameLength < step.length := by simp_all
        simp only [if_neg hlong]
        rw [hop_down written hdown, if_neg hname] at hinto hat
        cases hl : a.lookup (written ++ [step]) with
        | none => rfl
        | some entry =>
          cases entry with
          | dir =>
            dsimp only
            rw [hinto (by rw [hl])]
          | link target => exact hat written target rest (by simp [hl])
          | file | fifo | device => rfl
    · rcases eq_dots_of_not_leadsDown hdown with rfl | rfl
      · exact hinto (hop_dot written)
      · exact hinto (hop_up written)

theorem unlinked_congr {links : Nat} {start : Location} {steps : List Name}
    (h : ∀ loc ∈ a.trail true links start steps, b.lookup loc = a.lookup loc) :
    b.unlinked links start steps = a.unlinked links start steps := by
  induction links generalizing start steps with
  | zero => exact writeOut_congr (fun loc hl => h loc (mem_trail_of_mem_looked hl)) fun _ _ _ _ => rfl
  | succ links ih =>
    refine writeOut_congr (fun loc hl => h loc (mem_trail_of_mem_looked hl)) fun dir target rest ha =>
      ih fun loc hl => ?_
    refine h loc ?_
    rw [trail, ha]
    exact List.mem_append_right _ hl

/-- Two file systems that agree on where a path starts and on what its resolution looks at agree on its canonical
form. -/
theorem canonicalize_congr (horigin : b.lookup (origin cwd p) = a.lookup (origin cwd p))
    (h : ∀ loc ∈ a.visits cwd true p, b.lookup loc = a.lookup loc) : b.canonicalize cwd p = a.canonicalize cwd p := by
  have hstart : b.startAt (origin cwd p) = a.startAt (origin cwd p) := by rw [startAt, startAt, horigin]
  rw [canonicalize, canonicalize, hstart]
  cases hs : a.startAt (origin cwd p) with
  | error e => simp only [bind, Except.bind]
  | ok dir =>
    obtain ⟨rfl, -⟩ := startAt_eq_ok_iff.mp hs
    simp only [bind, Except.bind, unlinked_congr h]

end Congr

/-! ### Canonical paths -/

/-- From a directory, a path has a canonical form just if it denotes an object, unless the form becomes too long. -/
theorem canonicalize_cases (h : fs.lookup (origin cwd p) = some .dir) :
    (fs.canonicalize cwd p = (fs.denoted cwd true p).map (fun object => Location.path object.1) ∧
        ((fs.denoted cwd true p).isOk → ∀ loc ∈ fs.visits cwd true p, loc.width < maxPathLength)) ∨
      fs.canonicalize cwd p = .error .nameTooLong ∧ ∃ loc ∈ fs.visits cwd true p, maxPathLength ≤ loc.width + 1 := by
  rw [canonicalize, denoted, lead]
  by_cases hnul : p.hasNul
  · simp only [if_pos hnul]
    exact .inl ⟨rfl, fun hok => absurd hok Bool.false_ne_true⟩
  by_cases hempty : p.bytes.isEmpty
  · simp only [if_neg hnul, if_pos hempty]
    exact .inl ⟨rfl, fun hok => absurd hok Bool.false_ne_true⟩
  simp only [if_neg hnul, if_neg hempty, startAt_eq_ok_iff.mpr ⟨rfl, h⟩]
  rcases @unlinked_cases fs maxLinks (origin cwd p) p.steps with ⟨heq, hshort⟩ | ⟨heq, hlong⟩
  · refine .inl ⟨?_, fun _ => hshort⟩
    simp only [bind, Except.bind, heq]
    cases fs.walk true maxLinks (origin cwd p) p.steps with
    | error e => rfl
    | ok place => cases place <;> rfl
  · refine .inr ⟨?_, hlong⟩
    simp only [bind, Except.bind, heq]

/-- Where every location on the way can be spelled with a slash behind it, what a path denotes has a canonical path. -/
theorem canonicalize_eq_denoted (h : fs.lookup (origin cwd p) = some .dir)
    (hshort : ∀ loc ∈ fs.visits cwd true p, loc.width + 1 < maxPathLength) :
    fs.canonicalize cwd p = (fs.denoted cwd true p).map fun object => Location.path object.1 := by
  rcases canonicalize_cases h with ⟨heq, -⟩ | ⟨-, loc, hl, hlong⟩
  · exact heq
  · exact absurd (hshort loc hl) (Nat.not_lt.mpr hlong)

theorem canonicalize_of_startAt_error {e : IoError} (h : fs.startAt (origin cwd p) = .error e) :
    ∃ e, fs.canonicalize cwd p = .error e := by
  rw [canonicalize]
  split_ifs
  · exact ⟨_, rfl⟩
  · exact ⟨_, rfl⟩
  · rw [h]
    exact ⟨_, rfl⟩

/-- A canonical path spells the location of the object that the path denotes. The path starts from a directory, and every
location on its way can be spelled. -/
theorem denoted_of_canonicalize_eq {canonical : Path} (h : fs.canonicalize cwd p = .ok canonical) :
    ∃ object, fs.denoted cwd true p = .ok object ∧ canonical = Location.path object.1 ∧
      fs.lookup (origin cwd p) = some .dir ∧ ∀ loc ∈ fs.visits cwd true p, loc.width < maxPathLength := by
  cases hs : fs.startAt (origin cwd p) with
  | error e =>
    obtain ⟨e, he⟩ := canonicalize_of_startAt_error hs
    rw [he] at h
    cases h
  | ok dir =>
    obtain ⟨-, hdir⟩ := startAt_eq_ok_iff.mp hs
    rcases canonicalize_cases hdir with ⟨heq, hshort⟩ | ⟨heq, -⟩
    · rw [heq] at h
      cases hd : fs.denoted cwd true p with
      | error e => simp [hd, Except.map] at h
      | ok object =>
        rw [hd] at h hshort
        exact ⟨object, rfl, (by simpa [Except.map] using h : Location.path object.1 = canonical).symm, hdir, hshort rfl⟩
    · rw [heq] at h
      cases h

/-- Why a path that denotes something has no canonical form: the path does not start from a directory, or a location on
the way takes too many octets to spell. -/
def Unspellable (fs : FileSystem) (cwd : Location) (p : Path) (e : IoError) : Prop :=
  fs.startAt (origin cwd p) = .error e ∨
    e = .nameTooLong ∧ ∃ loc ∈ fs.visits cwd true p, maxPathLength ≤ loc.width + 1

theorem unspellable_of_canonicalize {object : Location × Entry} {e : IoError} (hd : fs.denoted cwd true p = .ok object)
    (h : fs.canonicalize cwd p = .error e) : fs.Unspellable cwd p e := by
  cases hs : fs.startAt (origin cwd p) with
  | error reason =>
    left
    have hwritten : ¬p.hasNul ∧ ¬p.bytes.isEmpty := by
      constructor <;> intro hp
      · simp [denoted, lead, hp, bind, Except.bind] at hd
      · rw [denoted, lead, if_pos hp] at hd
        split_ifs at hd <;> cases hd
    rw [canonicalize, if_neg hwritten.1, if_neg hwritten.2, hs] at h
    cases h
    exact hs
  | ok dir =>
    right
    rcases canonicalize_cases (startAt_eq_ok_iff.mp hs).2 with ⟨heq, -⟩ | ⟨heq, hlong⟩
    · rw [heq, hd] at h
      cases h
    · rw [heq] at h
      cases h
      exact ⟨rfl, hlong⟩

end FileSystem

end AlloyGrade
