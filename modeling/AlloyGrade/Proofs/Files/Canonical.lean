import AlloyGrade.Proofs.Files.Child
import AlloyGrade.Proofs.Files.Unlinked
import Mathlib.Data.List.Induction

/-! Link-free paths. What a path denotes once every link is followed is never a link, and nor is anything
above it. So the absolute path that spells its location leads to it again, seen from any directory. -/

namespace AlloyGrade

/-! ### Spelling a location -/

/-- A location all of whose names can stand in a directory. -/
def Location.Spelled (loc : Location) : Prop := ∀ name ∈ loc, isEntryName name

namespace Path

theorem pieces_slash (bytes : Bytes) : (Path.mk (Bytes.slash :: bytes)).pieces = (Path.mk bytes).pieces := by
  simp [pieces, Bytes.splitOn_cons_self]

end Path

namespace Location

variable {loc : Location}

theorem path_bytes (hne : loc ≠ []) : loc.path.bytes = loc.flatMap (Bytes.slash :: ·) := by
  cases loc with
  | nil => exact absurd rfl hne
  | cons name names => rfl

theorem isAbsolute_path (loc : Location) : loc.path.isAbsolute := by
  cases loc <;> rfl

theorem pieces_flatMap (h : loc.Spelled) : (Path.mk (loc.flatMap (Bytes.slash :: ·))).pieces = loc := by
  induction loc with
  | nil => simp [Path.pieces, Bytes.splitOn]
  | cons name names ih =>
    have hname := (FileSystem.plain_of_isEntryName (h name (.head _))).1
    have hnames := ih fun n hn => h n (.tail _ hn)
    rw [List.flatMap_cons, List.cons_append, Path.pieces_slash]
    cases names with
    | nil => simpa using Path.pieces_plain hname
    | cons next more =>
      rw [List.flatMap_cons, List.cons_append, Path.pieces_slash] at hnames
      rw [List.flatMap_cons, List.cons_append, Path.pieces_eq_of_append, Path.pieces_plain hname, hnames]
      rfl

theorem pieces_path (h : loc.Spelled) : loc.path.pieces = loc := by
  cases loc with
  | nil => decide
  | cons name names => exact pieces_flatMap h

theorem steps_path (h : loc.Spelled) : loc.path.steps = loc := by
  rw [Path.steps, pieces_path h]
  rcases List.eq_nil_or_concat loc with rfl | ⟨dir, name, rfl⟩
  · rfl
  · have hname := (FileSystem.plain_of_isEntryName (h name (by simp))).1
    obtain ⟨last, hlast⟩ := Option.ne_none_iff_exists'.mp (mt List.getLast?_eq_none_iff.mp hname.nonempty)
    have hend : (Location.path (dir ++ [name])).bytes.getLast? = some last := by
      rw [path_bytes (by simp)]
      simp [List.getLast?_cons, hlast]
    have hslash : last ≠ Bytes.slash := by
      rintro rfl
      exact Path.getLast?_ne_slash hname hlast
    simp [hend, hslash]

theorem hasNul_path (h : loc.Spelled) : loc.path.hasNul = false := by
  cases loc with
  | nil => rfl
  | cons name names =>
    have hall : ∀ n ∈ name :: names, (0 : UInt8) ∉ n := fun n hn => (FileSystem.plain_of_isEntryName (h n hn)).2.1
    have hslash : (0 : UInt8) ≠ Bytes.slash := by decide
    rw [Path.hasNul, path_bytes (by simp)]
    simp only [List.contains_eq_mem, List.mem_flatMap, List.mem_cons, decide_eq_false_iff_not]
    rintro ⟨n, hn, h0 | h0⟩
    · exact hslash h0
    · exact hall n (List.mem_cons.mpr hn) h0

end Location

namespace FileSystem

variable {fs : FileSystem} {loc : Location} {entry : Entry}

theorem spelled_of_lookup (h : fs.lookup loc = some entry) : loc.Spelled := by
  induction loc using List.reverseRecOn generalizing entry with
  | nil => exact nofun
  | append_singleton dir name ih =>
    obtain ⟨hdir, hname⟩ := fs.lookup_parent h
    intro n hn
    rcases List.mem_append.mp hn with hn | hn
    · exact ih hdir n hn
    · rwa [List.mem_singleton.mp hn]

/-! ### Places that are no links -/

/-- Something other than a link stands at a location, or nothing. -/
def Direct (fs : FileSystem) (loc : Location) : Prop := ∀ target, fs.lookup loc ≠ some (.link target)

theorem direct_of_dir (h : fs.lookup loc = some .dir) : fs.Direct loc := by
  intro target ht
  rw [h] at ht
  cases ht

/-- The directory above a directory. -/
theorem lookup_dropLast (h : fs.lookup loc = some .dir) : fs.lookup loc.dropLast = some .dir := by
  rcases List.eq_nil_or_concat loc with rfl | ⟨dir, name, rfl⟩
  · exact h
  · rw [List.concat_eq_append] at h ⊢
    rw [List.dropLast_concat]
    exact (fs.lookup_parent h).1

/-- From a directory that is there, one name leads into such a directory, or onto what stands under the name and is
no link. -/
theorem lookup_of_hop {current : Location} {step : Name} (hdir : fs.lookup current = some .dir) :
    (∀ dir, fs.hop current step = .into dir → fs.lookup dir = some .dir) ∧
      ∀ entry, fs.hop current step = .onto entry →
        fs.lookup (current ++ [step]) = some entry ∧ fs.Direct (current ++ [step]) := by
  by_cases hdown : leadsDown step
  · rw [hop_down current hdown]
    split_ifs
    · exact ⟨nofun, nofun⟩
    · cases hl : fs.lookup (current ++ [step]) with
      | none => exact ⟨nofun, nofun⟩
      | some kind =>
        cases kind with
        | dir =>
          refine ⟨fun dir h => ?_, nofun⟩
          cases h
          exact hl
        | link target => exact ⟨nofun, nofun⟩
        | file | fifo | device =>
          refine ⟨nofun, fun entry h => ?_⟩
          cases h
          exact ⟨rfl, fun target ht => by rw [hl] at ht; cases ht⟩
  · rcases eq_dots_of_not_leadsDown hdown with rfl | rfl
    · refine ⟨fun dir h => ?_, nofun⟩
      cases h
      exact hdir
    · refine ⟨fun dir h => ?_, nofun⟩
      cases h
      exact lookup_dropLast hdir

/-- A walk that starts from a directory and follows every link arrives at what stands there, which is no link, or it is
redirected from a directory. -/
theorem lookup_of_advance {current : Location} {steps : List Name} (hdir : fs.lookup current = some .dir) :
    (∀ loc entry, fs.advance true current steps = .arrived loc entry → fs.lookup loc = some entry ∧ fs.Direct loc) ∧
      ∀ dir target rest, fs.advance true current steps = .redirected dir target rest → fs.lookup dir = some .dir := by
  induction steps generalizing current with
  | nil =>
    refine ⟨fun loc entry h => ?_, nofun⟩
    cases h
    exact ⟨hdir, direct_of_dir hdir⟩
  | cons step rest ih =>
    rw [advance_cons]
    cases hh : fs.hop current step with
    | into dir => exact ih ((lookup_of_hop hdir).1 dir hh)
    | onto kind =>
      refine ⟨fun loc entry h => ?_, fun dir target more h => ?_⟩
      · dsimp only at h
        split_ifs at h
        cases h
        exact (lookup_of_hop hdir).2 kind hh
      · dsimp only at h
        split_ifs at h
    | link target =>
      refine ⟨fun loc entry h => by simp at h, fun dir t more h => ?_⟩
      obtain ⟨rfl, -, -⟩ : current = dir ∧ target = t ∧ rest = more := by simpa using h
      exact hdir
    | missing =>
      refine ⟨fun loc entry h => ?_, fun dir target more h => ?_⟩ <;> dsimp only at h <;> split_ifs at h
    | failed e => exact ⟨nofun, nofun⟩

/-- What a path denotes stands at the location it is denoted at, if the path starts from a directory that is there. It
is no link if links are followed. -/
theorem lookup_of_denoted {cwd : Location} {p : Path} {object : Location × Entry}
    (hdir : fs.lookup (origin cwd p) = some .dir) (h : fs.denoted cwd true p = .ok object) :
    fs.lookup object.1 = some object.2 ∧ fs.Direct object.1 := by
  refine walk_present_induction
    (motive := fun _ current _ =>
      fs.lookup current = some .dir → fs.lookup object.1 = some object.2 ∧ fs.Direct object.1)
    ?_ ?_ (walk_of_denoted h) hdir
  · intro _ current steps ha hcurrent
    exact (lookup_of_advance hcurrent).1 _ _ ha
  · intro _ current steps dir target rest ha ih hcurrent
    refine ih ?_
    split_ifs
    · exact fs.lookup_nil
    · exact (lookup_of_advance hcurrent).2 _ _ _ ha

/-! ### The way along a location -/

/-- Along the names of a location nothing leads astray. -/
theorem advance_location (follow : Bool) (h : fs.lookup loc = some entry) (hd : fs.Direct loc) :
    fs.advance follow [] loc = .arrived loc entry := by
  induction loc using List.reverseRecOn generalizing follow entry with
  | nil =>
    cases h
    rfl
  | append_singleton dir name ih =>
    obtain ⟨hdir, hname⟩ := fs.lookup_parent h
    obtain ⟨hplain, -, hlen⟩ := plain_of_isEntryName hname
    rw [advance_snoc, ih true hdir (direct_of_dir hdir)]
    dsimp only
    rw [advance_cons, hop_down dir hplain.down, if_neg (Nat.not_lt.mpr hlen), h]
    cases entry with
    | link target => exact absurd h (hd target)
    | dir | file | fifo | device => rfl

/-- The path that spells a location denotes what stands there, from every directory. -/
theorem denoted_path (h : fs.lookup loc = some entry) (hd : fs.Direct loc) (dir : Location) :
    fs.denoted dir true loc.path = .ok (loc, entry) := by
  have hspelled := spelled_of_lookup h
  have hne : loc.path.bytes ≠ [] := by
    have habs := loc.isAbsolute_path
    intro he
    simp [Path.isAbsolute, he] at habs
  have hwalk : fs.walk true maxLinks [] loc = .ok (.present loc entry) := by
    rw [walk, advance_location true h hd]
  rw [denoted, lead, Location.hasNul_path hspelled, if_neg Bool.false_ne_true, if_neg (by simpa using hne), origin,
    if_pos loc.isAbsolute_path, Location.steps_path hspelled, hwalk]
  rfl

/-- A canonical path is absolute, and from every directory it denotes the object that the path denotes that it was made
for. -/
theorem denoted_of_canonicalize {cwd : Location} {p canonical : Path} (h : fs.canonicalize cwd p = .ok canonical) :
    ∃ object, fs.denoted cwd true p = .ok object ∧ canonical.isAbsolute ∧
      ∀ dir, fs.denoted dir true canonical = .ok object := by
  obtain ⟨object, hobject, rfl, hdir, -⟩ := denoted_of_canonicalize_eq h
  obtain ⟨hl, hd⟩ := lookup_of_denoted hdir hobject
  exact ⟨object, hobject, Location.isAbsolute_path _, denoted_path hl hd⟩

/-! ### Too deep to be spelled -/

/-- A name of the greatest length. -/
def longName : Name := List.replicate maxNameLength 0x64

/-- Long names, one below the other. -/
def nested (n : Nat) : Location := List.replicate n longName

/-- A file below fifteen directories with long names, and a link to the last of these. -/
def nestedRows : List (Location × Entry) :=
  ([Bytes.ofString "l"], .link (nested 15).path) :: (nested 16, .file (.plain [])) ::
    ((List.range 15).map fun n => nested (n + 1)).map fun loc => (loc, .dir)

/-- The file by way of the link. -/
def nestedPath : Path := (Path.ofString "l").join ⟨longName⟩

theorem isEntryName_longName : isEntryName longName := by decide +kernel

theorem nested_succ (n : Nat) : nested (n + 1) = nested n ++ [longName] := List.replicate_succ'

theorem width_nested (n : Nat) : (nested (n + 1)).width = (n + 1) * 256 := by
  rw [Location.width, Location.path_bytes (by simp [nested]), List.length_flatMap]
  simp [nested, longName, maxNameLength, -List.reduceReplicate]

section Nested

variable (rows : List (Location × Entry))

theorem row_nested {n : Nat} (h : n ≤ 15) : (nestedRows ++ rows).lookup (nested (n + 1)) =
    some (if n = 15 then .file (.plain []) else .dir) := by
  have hlink : (nested (n + 1) == [Bytes.ofString "l"]) = false := by
    have hname : longName ≠ Bytes.ofString "l" := by decide
    simp [nested, List.replicate_succ, hname]
  rw [List.lookup_append, nestedRows, List.lookup_cons, hlink, List.lookup_cons]
  by_cases hlast : n = 15
  · subst hlast
    simp
  · have hne : (nested (n + 1) == nested 16) = false := by
      simpa [nested, -List.reduceReplicate] using hlast
    have hmem : nested (n + 1) ∈ (List.range 15).map fun n => nested (n + 1) :=
      List.mem_map_of_mem (List.mem_range.mpr (Nat.lt_of_le_of_ne h hlast))
    rw [hne, List.lookup_graph (fun _ => Entry.dir) hmem]
    simp [hlast]

theorem lookup_nested {n : Nat} (h : n ≤ 16) :
    (⟨nestedRows ++ rows⟩ : FileSystem).lookup (nested n) = some (if n = 16 then .file (.plain []) else .dir) := by
  induction n with
  | zero => rfl
  | succ n ih =>
    have hdir := ih (Nat.le_of_succ_le h)
    rw [if_neg (by omega)] at hdir
    rw [nested_succ, lookup_child, hdir]
    dsimp only
    rw [if_pos isEntryName_longName, ← nested_succ, row_nested rows (Nat.le_of_succ_le_succ h)]
    simp

/-- The names of the path lead to the link, and from there along the long names. -/
theorem advance_nestedPath : (⟨nestedRows ++ rows⟩ : FileSystem).advance true [] nestedPath.steps =
    .redirected [] (nested 15).path [longName] := by
  have hsteps : nestedPath.steps = [Bytes.ofString "l", longName] :=
    Path.steps_join (.ofString "l") (plain_of_isEntryName isEntryName_longName).1
  have hlink : (⟨nestedRows ++ rows⟩ : FileSystem).lookup ([] ++ [Bytes.ofString "l"]) =
      some (.link (nested 15).path) := by
    rw [lookup_child]
    rfl
  rw [hsteps, advance_cons, hop_down [] (by decide), if_neg (by decide), hlink]
  rfl

theorem steps_nested : (nested 15).path.steps ++ [longName] = nested 16 := by
  have hspelled : (nested 15).Spelled := by
    intro name hname
    obtain rfl := List.eq_of_mem_replicate hname
    exact isEntryName_longName
  rw [Location.steps_path hspelled, ← nested_succ]

theorem denoted_nestedPath :
    (⟨nestedRows ++ rows⟩ : FileSystem).denoted [] true nestedPath = .ok (nested 16, .file (.plain [])) := by
  have hfile := lookup_nested rows (Nat.le_refl 16)
  have hdirect : (⟨nestedRows ++ rows⟩ : FileSystem).Direct (nested 16) := by
    intro target
    rw [hfile]
    nofun
  rw [denoted, lead, if_neg (by decide), if_neg (by decide), origin, if_neg (by decide), walk_object,
    advance_nestedPath]
  simp only [Progress.strict, Location.isAbsolute_path, if_true, maxLinks, steps_nested]
  rw [walk_object, advance_location true hfile hdirect]
  rfl

/-- The file is found. -/
theorem stat_nestedPath :
    (⟨nestedRows ++ rows⟩ : FileSystem).stat [] nestedPath = .ok (nested 16, .file (.plain [])) := by
  rw [stat, find_eq_denoted (by decide +kernel), denoted_nestedPath]

/-- It has no canonical path. -/
theorem canonicalize_nestedPath :
    (⟨nestedRows ++ rows⟩ : FileSystem).canonicalize [] nestedPath = .error .nameTooLong := by
  rcases @canonicalize_cases ⟨nestedRows ++ rows⟩ [] nestedPath rfl with ⟨-, hshort⟩ | ⟨heq, -⟩
  · have hdir := lookup_nested rows (by decide : 15 ≤ 16)
    have hmem : nested 16 ∈ (⟨nestedRows ++ rows⟩ : FileSystem).visits [] true nestedPath := by
      rw [visits, origin, if_neg (by decide), trail, advance_nestedPath]
      simp only [maxLinks, Location.isAbsolute_path, if_true, steps_nested]
      refine List.mem_append_right _ (mem_trail_of_mem_looked ?_)
      rw [nested_succ, looked_snoc, advance_location true hdir (direct_of_dir hdir)]
      exact List.mem_append_right _ (by simp [peeks, show leadsDown longName by decide])
    rw [denoted_nestedPath] at hshort
    exact absurd (hshort rfl _ hmem) (by rw [width_nested]; decide)
  · exact heq

end Nested

end FileSystem

end AlloyGrade
