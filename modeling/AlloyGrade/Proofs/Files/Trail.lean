import AlloyGrade.Files.Resolve
import Mathlib.Tactic.SplitIfs

/-! The locations that the resolution of a path looks at. Resolution depends on the file system through
these alone, and it succeeds only if something stands at each of them. Hence a path that resolves in a
file system with less in it resolves to the same object in the larger one. -/

namespace AlloyGrade.FileSystem

/-- What one name does to a walk. -/
inductive Hop where
  | into (dir : Location)
  /-- Something at which a walk ends. -/
  | onto (entry : Entry)
  | link (target : Path)
  | missing
  | failed (error : IoError)

def hop (fs : FileSystem) (current : Location) (step : Name) : Hop :=
  if step = [Bytes.dot] then .into current
  else if step = [Bytes.dot, Bytes.dot] then .into current.dropLast
  else if maxNameLength < step.length then .failed .nameTooLong
  else match fs.lookup (current ++ [step]) with
    | none => .missing
    | some .dir => .into (current ++ [step])
    | some (.link target) => .link target
    | some entry => .onto entry

/-- Whether a name leads down, and not to the directory itself or the one above. -/
def leadsDown (step : Name) : Bool := step != [Bytes.dot] && step != [Bytes.dot, Bytes.dot]

/-- What one name makes a walk look at. -/
def peeks (current : Location) (step : Name) : List Location :=
  if leadsDown step then [current ++ [step]] else []

/-- What `advance` looks at. -/
def looked (fs : FileSystem) : Location → List Name → List Location
  | _, [] => []
  | current, step :: rest =>
    peeks current step ++ match fs.hop current step with
      | .into dir => looked fs dir rest
      | _ => []

/-- What `walk` looks at. -/
def trail (fs : FileSystem) (follow : Bool) : Nat → Location → List Name → List Location
  | links, current, steps =>
    fs.looked current steps ++
      match fs.advance follow current steps with
      | .redirected dir target rest =>
        match links with
        | 0 => []
        | links + 1 => trail fs follow links (if target.isAbsolute then [] else dir) (target.steps ++ rest)
      | _ => []

/-- What the resolution of a path looks at. -/
def visits (fs : FileSystem) (cwd : Location) (follow : Bool) (p : Path) : List Location :=
  fs.trail follow maxLinks (origin cwd p) p.steps

/-- To a walk that needs an object, a free name is an entry that is not there. -/
def Progress.strict : Progress → Progress
  | .absent .. => .failed .noEntry
  | progress => progress

variable {a b fs : FileSystem} {follow : Bool}

/-! ### One name -/

theorem hop_dot (current : Location) : fs.hop current [Bytes.dot] = .into current := rfl

theorem hop_up (current : Location) : fs.hop current [Bytes.dot, Bytes.dot] = .into current.dropLast := rfl

/-- A name that leads down is looked up, if it is not too long. -/
theorem hop_down (current : Location) {step : Name} (h : leadsDown step) :
    fs.hop current step = if maxNameLength < step.length then .failed .nameTooLong
      else match fs.lookup (current ++ [step]) with
        | none => .missing
        | some .dir => .into (current ++ [step])
        | some (.link target) => .link target
        | some entry => .onto entry := by
  have h : step ≠ [Bytes.dot] ∧ step ≠ [Bytes.dot, Bytes.dot] := by simpa [leadsDown] using h
  rw [hop, if_neg h.1, if_neg h.2]

theorem eq_dots_of_not_leadsDown {step : Name} (h : ¬leadsDown step) :
    step = [Bytes.dot] ∨ step = [Bytes.dot, Bytes.dot] := by
  simp only [leadsDown, Bool.and_eq_true, bne_iff_ne] at h
  by_cases h1 : step = [Bytes.dot]
  · exact .inl h1
  · exact .inr (Classical.not_not.mp fun h2 => h ⟨h1, h2⟩)

theorem advance_cons (current : Location) (step : Name) (rest : List Name) :
    fs.advance follow current (step :: rest) = match fs.hop current step with
      | .into dir => fs.advance follow dir rest
      | .onto entry => if rest.isEmpty then .arrived (current ++ [step]) entry else .failed .notDirectory
      | .link target =>
        if rest.isEmpty && !follow then .arrived (current ++ [step]) (.link target)
        else .redirected current target rest
      | .missing => if rest.isEmpty && fs.isDirAt current then .absent current step else .failed .noEntry
      | .failed e => .failed e := by
  rw [advance]
  by_cases hdown : leadsDown step
  · have h : step ≠ [Bytes.dot] ∧ step ≠ [Bytes.dot, Bytes.dot] := by simpa [leadsDown] using hdown
    rw [if_neg h.1, if_neg h.2, hop_down current hdown]
    by_cases hlong : maxNameLength < step.length
    · rw [if_pos hlong, if_pos hlong]
    · rw [if_neg hlong, if_neg hlong]
      cases fs.lookup (current ++ [step]) with
      | none => rfl
      | some entry => cases entry <;> rfl
  · rcases eq_dots_of_not_leadsDown hdown with rfl | rfl <;> rfl

/-- An object is what a walk arrives at, as long as links are left. -/
theorem walk_object (links : Nat) (current : Location) (steps : List Name) :
    fs.walk follow links current steps >>= Place.object = match (fs.advance follow current steps).strict with
      | .arrived loc entry => .ok (loc, entry)
      | .absent .. => .error .noEntry
      | .failed e => .error e
      | .redirected dir target rest => match links with
        | 0 => .error .linkLoop
        | links + 1 =>
          fs.walk follow links (if target.isAbsolute then [] else dir) (target.steps ++ rest) >>= Place.object := by
  rw [walk]
  cases fs.advance follow current steps with
  | arrived | absent | failed => rfl
  | redirected dir target rest => cases links <;> rfl

theorem mem_trail_of_mem_looked {links : Nat} {current loc : Location} {steps : List Name}
    (h : loc ∈ fs.looked current steps) : loc ∈ fs.trail follow links current steps := by
  rw [trail]
  exact List.mem_append_left _ h

/-! ### Resolution depends only on what it looks at -/

theorem hop_congr {current : Location} {step : Name}
    (h : ∀ loc ∈ peeks current step, b.lookup loc = a.lookup loc) : b.hop current step = a.hop current step := by
  by_cases hdown : leadsDown step
  · rw [hop_down current hdown, hop_down current hdown, h (current ++ [step]) (by simp [peeks, hdown])]
  · rcases eq_dots_of_not_leadsDown hdown with rfl | rfl <;> rfl

theorem advance_congr (follow : Bool) (current : Location) (steps : List Name)
    (h : ∀ loc ∈ a.looked current steps, b.lookup loc = a.lookup loc) :
    b.looked current steps = a.looked current steps ∧
      (b.advance follow current steps).strict = (a.advance follow current steps).strict := by
  induction steps generalizing current with
  | nil => exact ⟨rfl, rfl⟩
  | cons step rest ih =>
    have hhop : b.hop current step = a.hop current step := hop_congr fun loc hl => h loc (by simp [looked, hl])
    rw [looked, looked, advance_cons, advance_cons, hhop]
    cases ha : a.hop current step with
    | into dir =>
      have := ih dir fun x hx => h x (by simp [looked, ha, hx])
      exact ⟨congrArg (peeks current step ++ ·) this.1, this.2⟩
    | onto | link | failed => exact ⟨rfl, rfl⟩
    | missing =>
      refine ⟨rfl, ?_⟩
      dsimp only
      split_ifs <;> rfl

theorem strict_eq_redirected_iff {progress : Progress} {dir : Location} {target : Path} {rest : List Name} :
    progress.strict = .redirected dir target rest ↔ progress = .redirected dir target rest := by
  cases progress <;> simp [Progress.strict]

/-- Only a redirected walk looks at more than `advance` does. -/
theorem trail_of_not_redirected {links : Nat} {current : Location} {steps : List Name}
    (h : ∀ dir target rest, fs.advance follow current steps ≠ .redirected dir target rest) :
    fs.trail follow links current steps = fs.looked current steps := by
  rw [trail]
  cases ha : fs.advance follow current steps with
  | redirected dir target rest => exact absurd ha (h dir target rest)
  | arrived | absent | failed => simp

theorem walk_congr (links : Nat) (current : Location) (steps : List Name)
    (h : ∀ loc ∈ a.trail follow links current steps, b.lookup loc = a.lookup loc) :
    b.trail follow links current steps = a.trail follow links current steps ∧
      b.walk follow links current steps >>= Place.object = a.walk follow links current steps >>= Place.object := by
  induction links generalizing current steps with
  | zero =>
    obtain ⟨hlooked, hadv⟩ := advance_congr follow current steps fun x hx => h x (mem_trail_of_mem_looked hx)
    refine ⟨?_, by rw [walk_object, walk_object, hadv]⟩
    rw [trail, trail, hlooked]
    cases a.advance follow current steps <;> cases b.advance follow current steps <;> rfl
  | succ links ih =>
    obtain ⟨hlooked, hadv⟩ := advance_congr follow current steps fun x hx => h x (mem_trail_of_mem_looked hx)
    rw [walk_object, walk_object, hadv]
    cases ha : a.advance follow current steps with
    | redirected dir target rest =>
      have hb : b.advance follow current steps = .redirected dir target rest := by
        rw [← strict_eq_redirected_iff, hadv, strict_eq_redirected_iff, ha]
      have hrest := ih (if target.isAbsolute then [] else dir) (target.steps ++ rest) fun x hx =>
        h x (by rw [trail, ha]; exact List.mem_append_right _ hx)
      refine ⟨?_, hrest.2⟩
      rw [trail, trail, ha, hb, hlooked]
      exact congrArg (a.looked current steps ++ ·) hrest.1
    | arrived | absent | failed =>
      refine ⟨?_, rfl⟩
      have hnone : ∀ dir target rest, a.advance follow current steps ≠ .redirected dir target rest := by
        intro dir target rest
        rw [ha]
        nofun
      rw [trail_of_not_redirected hnone, trail_of_not_redirected, hlooked]
      intro dir target rest hb
      exact hnone dir target rest (by rwa [← strict_eq_redirected_iff, hadv, strict_eq_redirected_iff] at hb)

/-! ### A path that resolves passes only what exists -/

theorem isSome_of_mem_peeks {current : Location} {step : Name} (hmissing : fs.hop current step ≠ .missing)
    (hfailed : ∀ e, fs.hop current step ≠ .failed e) : ∀ loc ∈ peeks current step, (fs.lookup loc).isSome := by
  intro loc hl
  by_cases hdown : leadsDown step
  · obtain rfl : loc = current ++ [step] := by simpa [peeks, hdown] using hl
    rw [hop_down current hdown] at hmissing hfailed
    split_ifs at hmissing hfailed
    · exact absurd rfl (hfailed _)
    · cases hn : fs.lookup (current ++ [step]) with
      | none => simp [hn] at hmissing
      | some entry => rfl
  · simp [peeks, hdown] at hl

/-- Up to where it arrives or is redirected, a walk passes only what exists. -/
theorem isSome_of_mem_looked (follow : Bool) {current : Location} {steps : List Name}
    (h : ∀ e, (fs.advance follow current steps).strict ≠ .failed e) :
    ∀ x ∈ fs.looked current steps, (fs.lookup x).isSome := by
  induction steps generalizing current with
  | nil => exact nofun
  | cons step rest ih =>
    intro x hx
    rw [advance_cons] at h
    rw [looked, List.mem_append] at hx
    have hmissing : fs.hop current step ≠ .missing := by
      intro hh
      simp only [hh] at h
      split_ifs at h <;> exact h _ rfl
    have hfailed : ∀ e, fs.hop current step ≠ .failed e := by
      intro e hh
      simp only [hh] at h
      exact h _ rfl
    rcases hx with hx | hx
    · exact isSome_of_mem_peeks hmissing hfailed x hx
    · cases hh : fs.hop current step with
      | into dir =>
        simp only [hh] at h hx
        exact ih h x hx
      | onto | link | missing | failed => simp [hh] at hx

/-- What holds when a walk arrives, and is passed back over each link, holds of every walk that ends at
an object. -/
theorem walk_present_induction {motive : Nat → Location → List Name → Prop} {object : Location × Entry}
    (arrived : ∀ links current steps, fs.advance follow current steps = .arrived object.1 object.2 →
      motive links current steps)
    (redirected : ∀ links current steps dir target rest,
      fs.advance follow current steps = .redirected dir target rest →
      motive links (if target.isAbsolute then [] else dir) (target.steps ++ rest) →
      motive (links + 1) current steps)
    {links : Nat} {current : Location} {steps : List Name}
    (h : fs.walk follow links current steps >>= Place.object = .ok object) : motive links current steps := by
  induction links generalizing current steps with
  | zero =>
    rw [walk_object] at h
    cases ha : fs.advance follow current steps with
    | arrived loc entry =>
      obtain rfl : (loc, entry) = object := by simpa [ha, Progress.strict] using h
      exact arrived _ _ _ ha
    | absent | redirected | failed => simp [ha, Progress.strict] at h
  | succ links ih =>
    rw [walk_object] at h
    cases ha : fs.advance follow current steps with
    | arrived loc entry =>
      obtain rfl : (loc, entry) = object := by simpa [ha, Progress.strict] using h
      exact arrived _ _ _ ha
    | redirected dir target rest =>
      simp only [ha, Progress.strict] at h
      exact redirected _ _ _ _ _ _ ha (ih h)
    | absent | failed => simp [ha, Progress.strict] at h

theorem isSome_of_mem_trail {links : Nat} {current : Location} {steps : List Name} {object : Location × Entry}
    (h : fs.walk follow links current steps >>= Place.object = .ok object) :
    ∀ x ∈ fs.trail follow links current steps, (fs.lookup x).isSome := by
  refine walk_present_induction
    (motive := fun n c s => ∀ x ∈ fs.trail follow n c s, (fs.lookup x).isSome) ?_ ?_ h
  · intro n c s ha x hx
    rw [trail, ha, List.append_nil] at hx
    exact isSome_of_mem_looked follow (by simp [ha, Progress.strict]) x hx
  · intro n c s dir target rest ha ih x hx
    rw [trail, ha, List.mem_append] at hx
    rcases hx with hx | hx
    · exact isSome_of_mem_looked follow (by simp [ha, Progress.strict]) x hx
    · exact ih x hx

/-! ### Objects -/

/-- The object that a path denotes, however long the path is written. -/
def denoted (fs : FileSystem) (cwd : Location) (follow : Bool) (p : Path) : Except IoError (Location × Entry) :=
  fs.lead cwd follow p >>= Place.object

/-- What a path denotes is found, unless the path is too long. -/
theorem find_eq (fs : FileSystem) (cwd : Location) (follow : Bool) (p : Path) :
    fs.find cwd follow p =
      if !p.hasNul && maxPathLength ≤ p.bytes.length then .error .nameTooLong else fs.denoted cwd follow p := by
  rw [find, resolve, denoted]
  split_ifs <;> rfl

theorem find_eq_denoted {cwd : Location} {p : Path} (h : p.bytes.length < maxPathLength) :
    fs.find cwd follow p = fs.denoted cwd follow p := by
  rw [find_eq, if_neg (by simp [h])]

theorem denoted_of_find {cwd : Location} {p : Path} {object : Location × Entry}
    (h : fs.find cwd follow p = .ok object) : fs.denoted cwd follow p = .ok object := by
  rw [find_eq] at h
  split_ifs at h
  exact h

/-- Nothing is found at a path that is too long for the system. -/
theorem find_of_long {cwd : Location} {p : Path} (h : maxPathLength ≤ p.bytes.length) :
    ∃ e, fs.find cwd follow p = .error e := by
  rw [find_eq]
  split_ifs with hlong
  · exact ⟨_, rfl⟩
  · have hnul : p.hasNul := by simpa [h] using hlong
    exact ⟨.nulInName, by rw [denoted, lead, if_pos hnul]; rfl⟩

theorem walk_of_denoted {cwd : Location} {p : Path} {object : Location × Entry}
    (h : fs.denoted cwd follow p = .ok object) :
    fs.walk follow maxLinks (origin cwd p) p.steps >>= Place.object = .ok object := by
  rw [denoted, lead] at h
  split_ifs at h <;> first | exact h | cases h

theorem isSome_of_mem_visits {cwd : Location} {p : Path} {object : Location × Entry}
    (h : fs.find cwd follow p = .ok object) : ∀ loc ∈ fs.visits cwd follow p, (fs.lookup loc).isSome :=
  isSome_of_mem_trail (walk_of_denoted (denoted_of_find h))

theorem denoted_congr {cwd : Location} {p : Path}
    (h : ∀ loc ∈ a.visits cwd follow p, b.lookup loc = a.lookup loc) :
    b.visits cwd follow p = a.visits cwd follow p ∧ b.denoted cwd follow p = a.denoted cwd follow p := by
  have hw := walk_congr maxLinks (origin cwd p) p.steps h
  refine ⟨hw.1, ?_⟩
  rw [denoted, denoted, lead, lead]
  split_ifs
  · rfl
  · rfl
  · exact hw.2

/-- Two file systems that agree on what the resolution of a path looks at agree on the path. -/
theorem find_congr {cwd : Location} {p : Path}
    (h : ∀ loc ∈ a.visits cwd follow p, b.lookup loc = a.lookup loc) :
    b.visits cwd follow p = a.visits cwd follow p ∧ b.find cwd follow p = a.find cwd follow p := by
  obtain ⟨hvisits, hdenoted⟩ := denoted_congr h
  exact ⟨hvisits, by rw [find_eq, find_eq, hdenoted]⟩

/-! ### File systems with less in them -/

/-- Everything that stands in the first file system stands in the second one too. -/
def Within (small big : FileSystem) : Prop := ∀ loc entry, small.lookup loc = some entry → big.lookup loc = some entry

namespace Within

theorem refl (fs : FileSystem) : fs.Within fs := fun _ _ h => h

theorem trans {a b c : FileSystem} (hab : a.Within b) (hbc : b.Within c) : a.Within c :=
  fun loc entry h => hbc loc entry (hab loc entry h)

theorem lookup_eq (h : a.Within b) {loc : Location} (hl : (a.lookup loc).isSome) :
    b.lookup loc = a.lookup loc := by
  obtain ⟨entry, he⟩ := Option.isSome_iff_exists.mp hl
  rw [he, h loc entry he]

theorem lookup_eq_none (h : a.Within b) {loc : Location} (hl : b.lookup loc = none) : a.lookup loc = none := by
  cases ha : a.lookup loc with
  | none => rfl
  | some entry => rw [h loc entry ha] at hl; cases hl

theorem hop (h : a.Within b) (current : Location) (step : Name) :
    a.hop current step = b.hop current step ∨ a.hop current step = .missing := by
  by_cases hdown : leadsDown step
  · rw [hop_down current hdown, hop_down current hdown]
    split_ifs
    · exact .inl rfl
    · cases ha : a.lookup (current ++ [step]) with
      | none => exact .inr rfl
      | some entry => rw [h _ _ ha]; exact .inl rfl
  · rcases eq_dots_of_not_leadsDown hdown with rfl | rfl <;> exact .inl rfl

theorem advance (h : a.Within b) (follow : Bool) (current : Location) (steps : List Name) :
    (a.advance follow current steps).strict = (b.advance follow current steps).strict ∨
      (a.advance follow current steps).strict = .failed .noEntry := by
  induction steps generalizing current with
  | nil => exact .inl rfl
  | cons step rest ih =>
    rw [advance_cons, advance_cons]
    rcases h.hop current step with hh | hh
    · rw [hh]
      cases b.hop current step with
      | into dir => exact ih dir
      | onto | link | failed => exact .inl rfl
      | missing => right; dsimp only; split_ifs <;> rfl
    · rw [hh]
      right
      dsimp only
      split_ifs <;> rfl

/-- In the smaller file system a path denotes what it denotes in the larger one, or something on its way is gone. -/
theorem walk (h : a.Within b) (links : Nat) (current : Location) (steps : List Name) :
    a.walk follow links current steps >>= Place.object = b.walk follow links current steps >>= Place.object ∨
      a.walk follow links current steps >>= Place.object = .error .noEntry := by
  induction links generalizing current steps with
  | zero =>
    rw [walk_object, walk_object]
    rcases h.advance follow current steps with ha | ha
    · exact .inl (by rw [ha])
    · exact .inr (by rw [ha])
  | succ links ih =>
    rw [walk_object, walk_object]
    rcases h.advance follow current steps with ha | ha
    · rw [ha]
      cases (b.advance follow current steps).strict with
      | redirected dir target rest => exact ih _ _
      | arrived | absent | failed => exact .inl rfl
    · exact .inr (by rw [ha])

theorem find_cases (h : a.Within b) (follow : Bool) (cwd : Location) (p : Path) :
    a.find cwd follow p = b.find cwd follow p ∨ a.find cwd follow p = .error .noEntry := by
  rw [find_eq, find_eq, denoted, denoted, lead, lead]
  split_ifs
  · exact .inl rfl
  · exact .inl rfl
  · exact .inl rfl
  · exact h.walk maxLinks (origin cwd p) p.steps

/-- What a path denotes in the smaller file system it denotes in the larger one. -/
theorem find (h : a.Within b) {cwd : Location} {p : Path} {object : Location × Entry}
    (ha : a.find cwd follow p = .ok object) : b.find cwd follow p = .ok object := by
  rcases h.find_cases follow cwd p with hb | hb
  · rw [← hb, ha]
  · rw [ha] at hb
    cases hb

/-- A path keeps its object in the smaller file system if and only if nothing on its way is gone. -/
theorem find_eq_ok_iff (h : a.Within b) {cwd : Location} {p : Path} {object : Location × Entry}
    (hb : b.find cwd follow p = .ok object) :
    a.find cwd follow p = .ok object ↔ ∀ loc ∈ b.visits cwd follow p, (a.lookup loc).isSome := by
  constructor
  · intro ha
    have hsome := isSome_of_mem_visits ha
    rwa [(find_congr fun loc hl => h.lookup_eq (hsome loc hl)).1]
  · intro hs
    rw [← hb]
    exact (find_congr fun loc hl => (h.lookup_eq (hs loc hl)).symm).2

/-- What resolves at all in the smaller file system resolves as in the larger one. -/
theorem find_isOk_iff (h : a.Within b) {cwd : Location} {p : Path} {object : Location × Entry}
    (hb : b.find cwd follow p = .ok object) : (a.find cwd follow p).isOk ↔ a.find cwd follow p = .ok object := by
  rcases h.find_cases follow cwd p with ha | ha
  · rw [ha, hb]
    exact ⟨fun _ => rfl, fun _ => rfl⟩
  · rw [ha]
    exact ⟨nofun, nofun⟩

end Within

end AlloyGrade.FileSystem
