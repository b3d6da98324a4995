import AlloyGrade.Proofs.Files.Trail
import Mathlib.Data.List.Basic

/-! Paths made by writing one name after a directory's path. Such a path is resolved by resolving the
directory and then taking one step, whatever the spelling of the directory. -/

namespace AlloyGrade

/-- A name that leads down by one step. -/
structure Name.Plain (name : Name) : Prop where
  nonempty : name ≠ []
  down : FileSystem.leadsDown name
  slashless : Bytes.slash ∉ name

instance (name : Name) : Decidable name.Plain :=
  decidable_of_iff (name ≠ [] ∧ FileSystem.leadsDown name ∧ Bytes.slash ∉ name)
    ⟨fun ⟨h1, h2, h3⟩ => ⟨h1, h2, h3⟩, fun ⟨h1, h2, h3⟩ => ⟨h1, h2, h3⟩⟩

/-- A path that names something directly below another one. -/
def Path.IsChild (p child : Path) : Prop := ∃ name : Name, name.Plain ∧ child = p.join ⟨name⟩

namespace Bytes

variable {sep : UInt8}

theorem splitOn_ne_nil (bytes : Bytes) : splitOn sep bytes ≠ [] := by
  cases bytes with
  | nil => simp [splitOn]
  | cons b rest =>
    rw [splitOn]
    split
    · simp
    · split_ifs <;> simp

theorem splitOn_cons_self (rest : Bytes) : splitOn sep (sep :: rest) = [] :: splitOn sep rest := by
  rw [splitOn]
  cases h : splitOn sep rest with
  | nil => exact absurd h (splitOn_ne_nil rest)
  | cons piece pieces => simp

theorem splitOn_append (left right : Bytes) :
    splitOn sep (left ++ sep :: right) = splitOn sep left ++ splitOn sep right := by
  induction left with
  | nil => exact splitOn_cons_self right
  | cons b rest ih =>
    rw [List.cons_append, splitOn, splitOn, ih]
    cases h : splitOn sep rest with
    | nil => exact absurd h (splitOn_ne_nil rest)
    | cons piece pieces => simp only [List.cons_append]; split_ifs <;> rfl

theorem splitOn_of_not_mem {bytes : Bytes} (h : sep ∉ bytes) : splitOn sep bytes = [bytes] := by
  induction bytes with
  | nil => rfl
  | cons b rest ih =>
    simp only [List.mem_cons, not_or] at h
    rw [splitOn, ih h.2]
    simp [Ne.symm h.1]

end Bytes

theorem Component.ofPiece_plain {name : Name} (h : name.Plain) : ofPiece name = .name name := by
  have hdown : name ≠ [Bytes.dot] ∧ name ≠ [Bytes.dot, Bytes.dot] := by simpa [FileSystem.leadsDown] using h.down
  rw [ofPiece, if_neg hdown.1, if_neg hdown.2]

namespace Path

variable {name : Name}

theorem head?_ne_slash (h : name.Plain) : name.head? ≠ some Bytes.slash := by
  intro hs
  exact h.slashless (List.mem_of_mem_head? hs)

theorem getLast?_ne_slash (h : name.Plain) : name.getLast? ≠ some Bytes.slash := by
  intro hs
  exact h.slashless (List.mem_of_getLast? hs)

theorem isAbsolute_plain (h : name.Plain) : (Path.mk name).isAbsolute = false := by
  simpa [isAbsolute] using head?_ne_slash h

/-- The octets of a joined path: the name alone, or the name behind a slash. -/
theorem join_bytes (p : Path) (h : name.Plain) :
    (p.bytes = [] ∧ (p.join ⟨name⟩).bytes = name) ∨
      ∃ before, (p.bytes = before ∨ p.bytes = before ++ [Bytes.slash]) ∧ p.bytes ≠ [] ∧
        (p.join ⟨name⟩).bytes = before ++ Bytes.slash :: name := by
  rw [join, isAbsolute_plain h]
  rcases List.eq_nil_or_concat p.bytes with he | ⟨before, last, hl⟩
  · exact .inl ⟨he, by simp [he]⟩
  · by_cases hs : last = Bytes.slash
    · subst hs
      refine .inr ⟨before, .inr (by simpa using hl), by simp [hl], ?_⟩
      simp [hl]
    · refine .inr ⟨p.bytes, .inl rfl, by simp [hl], ?_⟩
      simp [hl, hs]

theorem length_join (p : Path) (h : name.Plain) : p.bytes.length + name.length ≤ (p.join ⟨name⟩).bytes.length := by
  rcases join_bytes p h with ⟨he, hj⟩ | ⟨before, hb, -, hj⟩
  · simp [he, hj]
  · rcases hb with hb | hb
    · simp [hb, hj]
    · simp [hb, hj]
      omega

theorem pieces_eq_of_append (before after : Bytes) :
    (Path.mk (before ++ Bytes.slash :: after)).pieces = (Path.mk before).pieces ++ (Path.mk after).pieces := by
  simp [pieces, Bytes.splitOn_append]

theorem pieces_plain (h : name.Plain) : (Path.mk name).pieces = [name] := by
  simp [pieces, Bytes.splitOn_of_not_mem h.slashless, h.nonempty]

theorem pieces_join (p : Path) (h : name.Plain) : (p.join ⟨name⟩).pieces = p.pieces ++ [name] := by
  rcases join_bytes p h with ⟨he, hj⟩ | ⟨before, hb, -, hj⟩
  · have hp : p.pieces = [] := by simp [pieces, he, Bytes.splitOn]
    rw [hp, List.nil_append, ← pieces_plain h]
    exact congrArg (fun b => (Path.mk b).pieces) hj
  · have hp : p.pieces = (Path.mk before).pieces := by
      rcases hb with hb | hb
      · exact congrArg (fun b => (Path.mk b).pieces) hb
      · have hn : (Path.mk []).pieces = [] := by simp [pieces, Bytes.splitOn]
        have := congrArg (fun b => (Path.mk b).pieces) hb
        simpa [pieces_eq_of_append, hn] using this
    have := congrArg (fun b => (Path.mk b).pieces) hj
    rw [hp, ← pieces_plain h, ← pieces_eq_of_append]
    exact this

theorem getLast?_join (p : Path) (h : name.Plain) : (p.join ⟨name⟩).bytes.getLast? = name.getLast? := by
  obtain ⟨last, hl⟩ := Option.ne_none_iff_exists'.mp (mt List.getLast?_eq_none_iff.mp h.nonempty)
  rcases join_bytes p h with ⟨-, hj⟩ | ⟨before, -, -, hj⟩
  · rw [hj]
  · simp [hj, List.getLast?_cons, hl]

theorem steps_join (p : Path) (h : name.Plain) : (p.join ⟨name⟩).steps = p.pieces ++ [name] := by
  rw [steps, getLast?_join p h, pieces_join p h]
  simp [getLast?_ne_slash h]

theorem isAbsolute_join (p : Path) (h : name.Plain) : (p.join ⟨name⟩).isAbsolute = p.isAbsolute := by
  have hn := head?_ne_slash h
  rcases join_bytes p h with ⟨he, hj⟩ | ⟨before, hb, hne, hj⟩
  · simp [isAbsolute, he, hj, hn]
  · cases before with
    | nil =>
      rcases hb with hb | hb
      · exact absurd hb hne
      · simp [isAbsolute, hb, hj]
    | cons b rest => rcases hb with hb | hb <;> simp [isAbsolute, hb, hj]

end Path

namespace FileSystem

variable {fs : FileSystem} {follow : Bool} {cwd dir : Location} {p : Path} {name : Name}

/-! ### The last of the names -/

theorem ne_dir_of_hop_onto {current : Location} {step : Name} {entry : Entry}
    (h : fs.hop current step = .onto entry) : entry ≠ .dir := by
  rintro rfl
  rw [hop] at h
  split_ifs at h
  split at h <;> simp_all

theorem advance_snoc (follow : Bool) (current : Location) (steps : List Name) (name : Name) :
    fs.advance follow current (steps ++ [name]) = match fs.advance true current steps with
      | .arrived dir .dir => fs.advance follow dir [name]
      | .arrived .. => .failed .notDirectory
      | .absent .. => .failed .noEntry
      | .redirected dir target rest => .redirected dir target (rest ++ [name])
      | .failed e => .failed e := by
  induction steps generalizing current with
  | nil => rfl
  | cons step rest ih =>
    rw [List.cons_append, advance_cons, advance_cons]
    cases hh : fs.hop current step with
    | into dir => exact ih dir
    | onto entry =>
      have hdir := ne_dir_of_hop_onto hh
      cases rest with
      | nil => cases entry <;> first | rfl | exact absurd rfl hdir
      | cons next more => rfl
    | link target => simp
    | missing =>
      cases rest with
      | nil => by_cases hd : fs.isDirAt current <;> simp [hd]
      | cons next more => rfl
    | failed e => rfl

/-- A single name is not left for a link if links are not followed. -/
theorem advance_single_ne_redirected (dir : Location) (name : Name) (d : Location) (target : Path) (rest : List Name) :
    fs.advance false dir [name] ≠ .redirected d target rest := by
  intro h
  rw [advance_cons] at h
  cases hh : fs.hop dir name <;> simp [hh, advance] at h
  split_ifs at h

/-- Goes on from an object by one last name. -/
def andThen (fs : FileSystem) (follow : Bool) (name : Name) : Location × Entry → Except IoError (Location × Entry)
  | (dir, .dir) => fs.walk follow 0 dir [name] >>= Place.object
  | _ => .error .notDirectory

/-- A final name is one step taken in the directory that the names before it lead to, unless it asks for a link to be
followed. -/
theorem walk_snoc (hlast : ∀ dir d target rest, fs.advance follow dir [name] ≠ .redirected d target rest) (links : Nat)
    (current : Location) (steps : List Name) :
    fs.walk follow links current (steps ++ [name]) >>= Place.object =
      (fs.walk true links current steps >>= Place.object) >>= fs.andThen follow name := by
  induction links generalizing current steps with
  | zero =>
    rw [walk_object, walk_object, advance_snoc]
    cases fs.advance true current steps with
    | arrived dir entry =>
      cases entry with
      | dir => exact (walk_object 0 dir [name]).symm
      | file | link | fifo | device => rfl
    | absent | redirected | failed => rfl
  | succ links ih =>
    rw [walk_object, walk_object, advance_snoc]
    cases fs.advance true current steps with
    | arrived dir entry =>
      cases entry with
      | dir =>
        refine Eq.trans ?_ (walk_object 0 dir [name]).symm
        dsimp only
        cases ha : fs.advance follow dir [name] with
        | redirected d target rest => exact absurd ha (hlast dir d target rest)
        | arrived | absent | failed => rfl
      | file | link | fifo | device => rfl
    | redirected dir target rest =>
      dsimp only [Progress.strict]
      rw [← List.append_assoc, ih]
    | absent | failed => rfl

/-- What stands under a name in a directory. -/
theorem andThen_down (hdown : leadsDown name) (object : Location × Entry) :
    fs.andThen false name object = match object with
      | (dir, .dir) => if maxNameLength < name.length then .error .nameTooLong
        else match fs.lookup (dir ++ [name]) with
          | some entry => .ok (dir ++ [name], entry)
          | none => .error .noEntry
      | _ => .error .notDirectory := by
  obtain ⟨dir, entry⟩ := object
  cases entry with
  | dir =>
    rw [andThen, walk_object, advance_cons, hop_down dir hdown]
    by_cases hlong : maxNameLength < name.length
    · simp only [if_pos hlong]
      rfl
    · simp only [if_neg hlong]
      cases fs.lookup (dir ++ [name]) with
      | none => by_cases hd : fs.isDirAt dir <;> simp [hd, Progress.strict]
      | some entry => cases entry <;> rfl
  | file | link | fifo | device => rfl

/-- A final dot asks for a directory. -/
theorem walk_dot (follow : Bool) (links : Nat) (current : Location) (steps : List Name) :
    fs.walk follow links current (steps ++ [[Bytes.dot]]) >>= Place.object =
      (fs.walk true links current steps >>= Place.object) >>= fun
        | (dir, .dir) => .ok (dir, .dir)
        | _ => .error .notDirectory := by
  rw [walk_snoc (by simp [advance])]
  cases fs.walk true links current steps >>= Place.object with
  | error e => rfl
  | ok object =>
    obtain ⟨dir, entry⟩ := object
    cases entry <;> rfl

/-! ### A name after a path -/

/-- What a path leads to, as far as the resolution of a name written after it is concerned. -/
def base (fs : FileSystem) (cwd : Location) (p : Path) : Except IoError (Location × Entry) :=
  fs.walk true maxLinks (origin cwd p) p.pieces >>= Place.object

theorem origin_join (cwd : Location) (p : Path) (hn : name.Plain) : origin cwd (p.join ⟨name⟩) = origin cwd p := by
  rw [origin, origin, Path.isAbsolute_join p hn]

/-- A name after a path is looked up in what the path leads to. -/
theorem denoted_join (hn : name.Plain) (hnul : (p.join ⟨name⟩).hasNul = false) :
    fs.denoted cwd false (p.join ⟨name⟩) = fs.base cwd p >>= fs.andThen false name := by
  have hnonempty : (p.join ⟨name⟩).bytes ≠ [] := by
    rcases Path.join_bytes p hn with ⟨-, hj⟩ | ⟨before, -, -, hj⟩ <;> simp [hj, hn.nonempty]
  rw [denoted, lead, if_neg (by simp [hnul]), if_neg (by simpa using hnonempty), origin_join cwd p hn,
    Path.steps_join p hn, walk_snoc fun dir => advance_single_ne_redirected dir name, base]

theorem hasNul_of_denoted {object : Location × Entry} (h : fs.denoted cwd follow p = .ok object) :
    p.hasNul = false := by
  cases hp : p.hasNul with
  | false => rfl
  | true => simp [denoted, lead, hp, bind, Except.bind] at h

/-- What is found under a name stands under this name in the directory before it. -/
theorem find_join (hn : name.Plain) {loc : Location} {entry : Entry}
    (h : fs.find cwd false (p.join ⟨name⟩) = .ok (loc, entry)) :
    ∃ dir, fs.base cwd p = .ok (dir, .dir) ∧ loc = dir ++ [name] ∧ fs.lookup loc = some entry := by
  have hd := denoted_of_find h
  rw [denoted_join hn (hasNul_of_denoted hd)] at hd
  cases hb : fs.base cwd p with
  | error e => simp [hb, bind, Except.bind] at hd
  | ok object =>
    obtain ⟨dir, kind⟩ := object
    rw [hb] at hd
    replace hd : fs.andThen false name (dir, kind) = .ok (loc, entry) := hd
    rw [andThen_down hn.down] at hd
    cases kind with
    | dir =>
      dsimp only at hd
      split_ifs at hd
      cases hl : fs.lookup (dir ++ [name]) with
      | none => simp [hl] at hd
      | some e =>
        obtain ⟨rfl, rfl⟩ : dir ++ [name] = loc ∧ e = entry := by simpa [hl] using hd
        exact ⟨dir, rfl, rfl, hl⟩
    | file | link | fifo | device => cases hd

/-- What is found under a name written after a path is where it is found. -/
theorem lookup_of_find_child {q : Path} (hq : p.IsChild q) {loc : Location} {entry : Entry}
    (h : fs.find cwd false q = .ok (loc, entry)) : fs.lookup loc = some entry := by
  obtain ⟨name, hn, rfl⟩ := hq
  obtain ⟨-, -, -, hl⟩ := find_join hn h
  exact hl

/-! ### Names in a directory that a path is known to denote -/

/-- A path leads to a directory with the slashes that it ends in just as it does without them. -/
theorem walk_steps_eq_dir_iff :
    fs.walk true maxLinks (origin cwd p) p.steps >>= Place.object = .ok (dir, .dir) ↔
      fs.base cwd p = .ok (dir, .dir) := by
  by_cases hslash : !p.pieces.isEmpty && p.bytes.getLast? == some Bytes.slash
  · rw [Path.steps, if_pos hslash, walk_dot, ← base]
    cases fs.base cwd p with
    | error e => exact Iff.rfl
    | ok object =>
      obtain ⟨loc, entry⟩ := object
      cases entry with
      | dir => exact Iff.rfl
      | file | link | fifo | device => exact ⟨nofun, nofun⟩
  · rw [Path.steps, if_neg hslash, base]

/-- A path that leads to a directory leads there also without the slashes that it ends in. -/
theorem base_of_stat (h : fs.stat cwd p = .ok (dir, .dir)) : fs.base cwd p = .ok (dir, .dir) :=
  walk_steps_eq_dir_iff.mp (walk_of_denoted (denoted_of_find h))

/-- A path without a NUL, followed by a name without one, has none. -/
theorem hasNul_join (hn : name.Plain) (hp : p.hasNul = false) (hnul : 0 ∉ name) :
    (p.join ⟨name⟩).hasNul = false := by
  have hp : 0 ∉ p.bytes := by simpa [Path.hasNul] using hp
  rcases Path.join_bytes p hn with ⟨-, hj⟩ | ⟨before, hb, -, hj⟩
  · simpa [Path.hasNul, hj] using hnul
  · have hbefore : 0 ∉ before := by
      rcases hb with hb | hb
      · exact hb ▸ hp
      · rw [hb] at hp
        exact fun h => hp (List.mem_append_left _ h)
    simpa [Path.hasNul, hj, hbefore, hnul] using (by decide : (0 : UInt8) ≠ Bytes.slash)

theorem plain_of_isEntryName (h : isEntryName name) :
    name.Plain ∧ 0 ∉ name ∧ name.length ≤ maxNameLength := by
  obtain ⟨⟨⟨⟨⟨hne, hdot⟩, hup⟩, hslash⟩, hnul⟩, hlen⟩ : ((((name ≠ [] ∧ name ≠ [Bytes.dot]) ∧
      name ≠ [Bytes.dot, Bytes.dot]) ∧ Bytes.slash ∉ name) ∧ 0 ∉ name) ∧ name.length ≤ maxNameLength := by
    simpa [isEntryName] using h
  exact ⟨⟨hne, by simp [leadsDown, hdot, hup], hslash⟩, hnul, hlen⟩

theorem andThen_entry (hentry : isEntryName name) (dir : Location) :
    fs.andThen false name (dir, .dir) = match fs.lookup (dir ++ [name]) with
      | some entry => .ok (dir ++ [name], entry)
      | none => .error .noEntry := by
  obtain ⟨hn, -, hlen⟩ := plain_of_isEntryName hentry
  rw [andThen_down hn.down]
  exact if_neg (Nat.not_lt.mpr hlen)

/-- What is found under a name in a directory that the path before it is known to denote, as long as the whole
path is not too long for the system. -/
theorem find_join_of_stat (hentry : isEntryName name)
    (h : fs.stat cwd p = .ok (dir, .dir)) (hshort : (p.join ⟨name⟩).bytes.length < maxPathLength) :
    fs.find cwd false (p.join ⟨name⟩) = match fs.lookup (dir ++ [name]) with
      | some entry => .ok (dir ++ [name], entry)
      | none => .error .noEntry := by
  obtain ⟨hn, hnul, -⟩ := plain_of_isEntryName hentry
  rw [find_eq_denoted hshort, denoted_join hn (hasNul_join hn (hasNul_of_denoted (denoted_of_find h)) hnul),
    base_of_stat h]
  exact andThen_entry hentry dir

/-! ### What is looked at on the way -/

theorem looked_snoc (current : Location) (steps : List Name) (name : Name) :
    fs.looked current (steps ++ [name]) = fs.looked current steps ++ match fs.advance true current steps with
      | .arrived dir .dir => peeks dir name
      | _ => [] := by
  induction steps generalizing current with
  | nil =>
    simp only [List.nil_append, looked, advance]
    cases fs.hop current name <;> simp
  | cons step rest ih =>
    rw [List.cons_append, looked, looked, advance_cons, List.append_assoc]
    congr 1
    cases hh : fs.hop current step with
    | into dir => exact ih dir
    | onto entry =>
      have hdir := ne_dir_of_hop_onto hh
      cases rest with
      | nil => cases entry <;> first | rfl | exact absurd rfl hdir
      | cons next more => rfl
    | link target => simp
    | missing => by_cases hd : rest.isEmpty && fs.isDirAt current <;> simp [hd]
    | failed e => rfl

/-- A final name adds itself to the way to the directory before it, unless it asks for a link to be followed. -/
theorem trail_snoc (hlast : ∀ dir d target rest, fs.advance follow dir [name] ≠ .redirected d target rest) {links : Nat}
    {current : Location} {steps : List Name}
    (h : fs.walk true links current steps >>= Place.object = .ok (dir, .dir)) :
    fs.trail follow links current (steps ++ [name]) = fs.trail true links current steps ++ peeks dir name := by
  refine walk_present_induction
    (motive := fun n c s => fs.trail follow n c (s ++ [name]) = fs.trail true n c s ++ peeks dir name) ?_ ?_ h
  · intro n c s ha
    have hend : ∀ d target rest, fs.advance follow c (s ++ [name]) ≠ .redirected d target rest := by
      rw [advance_snoc, ha]
      exact hlast dir
    rw [trail_of_not_redirected hend, looked_snoc, trail, ha, List.append_nil]
  · intro n c s d target rest ha ih
    have hend : fs.advance follow c (s ++ [name]) = .redirected d target (rest ++ [name]) := by
      rw [advance_snoc, ha]
    rw [trail, hend, looked_snoc, trail, ha]
    simp only [List.append_nil, List.append_assoc] at ih ⊢
    rw [ih]

/-- The way to a name in a directory is the way to the directory and then the name. -/
theorem visits_join (hn : name.Plain) (h : fs.stat cwd p = .ok (dir, .dir)) :
    fs.visits cwd false (p.join ⟨name⟩) = fs.visits cwd true p ++ [dir ++ [name]] := by
  have hbase := base_of_stat h
  rw [visits, origin_join cwd p hn, Path.steps_join p hn,
    trail_snoc (fun dir => advance_single_ne_redirected dir name) hbase, peeks, if_pos hn.down]
  congr 1
  by_cases hslash : !p.pieces.isEmpty && p.bytes.getLast? == some Bytes.slash
  · rw [visits, Path.steps, if_pos hslash, trail_snoc (by simp [advance]) hbase]
    exact (List.append_nil _).symm
  · rw [visits, Path.steps, if_neg hslash]

end FileSystem

end AlloyGrade
