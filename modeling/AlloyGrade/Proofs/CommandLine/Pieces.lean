import AlloyGrade.Proofs.CommandLine.Values

/-! Argument vectors in pieces. Every argument vector that is accepted is a list of pieces, each of which asks for one
thing, and perhaps two dashes with nothing but files behind them. The pieces can be put in another order, as long as
the files stay in theirs. -/

namespace AlloyGrade.CommandLine

/-- What a piece asks for, however it is spelled. -/
inductive Request where
  | option (o : ValueOption) (value : Bytes)
  | flag (f : Flag)
  | file (bytes : Bytes)
deriving DecidableEq, Repr

namespace Request

def file? : Request → Option Bytes
  | .file bytes => some bytes
  | .option .. | .flag _ => none

/-- The item of a request that is not for a file. -/
def item? : Request → Option Item
  | .option o value => some (.option o (some value) true)
  | .flag f => some (.flag f)
  | .file _ => none

/-- The value that a request has for an option. -/
def value? (o : ValueOption) : Request → Option Bytes
  | .option o' value => if o' = o then some value else none
  | .flag _ | .file _ => none

end Request

inductive Piece where
  /-- An option and its value in one argument. -/
  | joined (o : ValueOption) (value : Bytes)
  /-- An option with its value as the next argument. -/
  | spaced (o : ValueOption) (value : Bytes) (h : isValue value)
  | flag (f : Flag)
  /-- The only flag that has a letter. -/
  | letter
  | file (bytes : Bytes) (h : isValue bytes)

namespace Piece

def args : Piece → List Bytes
  | .joined o value => [long o.name ++ equalsSign :: value]
  | .spaced o value _ => [long o.name, value]
  | .flag f => [long f.name]
  | .letter => [[dash, Bytes.ofAscii 'v']]
  | .file bytes _ => [bytes]

def request : Piece → Request
  | .joined o value | .spaced o value _ => .option o value
  | .flag f => .flag f
  | .letter => .flag .verbose
  | .file bytes _ => .file bytes

end Piece

def requests (pieces : List Piece) : List Request := pieces.map Piece.request

/-- The arguments of some pieces, and then two dashes with files behind them, if there are any. -/
def line (pieces : List Piece) (tail : Option (List Bytes)) : List Bytes :=
  pieces.flatMap Piece.args ++ (tail.map ([dash, dash] :: ·)).getD []

/-- The same requests in another order and perhaps in another spelling, with the files as they were. -/
structure Reordered (pieces pieces' : List Piece) : Prop where
  requests : (requests pieces).Perm (requests pieces')
  files : (CommandLine.requests pieces).filterMap Request.file? = (CommandLine.requests pieces').filterMap Request.file?

/-! ### Splitting pieces -/

theorem split_joined (o : ValueOption) (v : Bytes) (place : Option FileRole) (args : List Bytes) :
    split place ((long o.name ++ equalsSign :: v) :: args) = .cons (.option o (some v) true) (split place args) := by
  have hescape : long o.name ++ equalsSign :: v ≠ [dash, dash] := by cases o <;> simp [long, Bytes.ofString]
  have hdashes : [dash, dash].isPrefixOf (long o.name ++ equalsSign :: v) = true := by simp [long, List.isPrefixOf]
  have hdrop : (long o.name ++ equalsSign :: v).drop 2 = Bytes.ofString o.name ++ equalsSign :: v := rfl
  have hname : splitName (Bytes.ofString o.name ++ equalsSign :: v) = (Bytes.ofString o.name, some v) := by
    have hplain : (Bytes.ofString o.name).all (· != equalsSign) := by cases o <;> decide
    have htake : (Bytes.ofString o.name ++ equalsSign :: v).takeWhile (· != equalsSign) = Bytes.ofString o.name := by
      rw [List.takeWhile_append_of_pos (List.all_eq_true.mp hplain), List.takeWhile_cons_of_neg (by simp),
        List.append_nil]
    simp [splitName, htake]
  rw [split]
  simp only [hescape, if_false, hdashes, if_true, hdrop, hname, ofName?_option]

theorem split_letter (place : Option FileRole) (args : List Bytes) :
    split place ([dash, Bytes.ofAscii 'v'] :: args) = .cons (.flag .verbose) (split place args) := by
  rw [split_letters (by decide)]
  rfl

/-- The item without regard to how its value was attached. -/
def Item.closed : Item → Item
  | .option o value _ => .option o value true
  | item => item

def Item.isFile : Item → Bool
  | .file .. => true
  | _ => false

/-- A split that has placed some files and has found some other items. It has a fault if there are too many files. -/
structure Laid (place : Option FileRole) (others : List Item) (files : List Bytes) (s : Split) : Prop where
  fault : s.fault = none ↔ files.length ≤ (placesFrom place).length
  others : s.fault = none → (s.items.filter (!·.isFile)).map Item.closed = others
  files : s.fault = none → s.items.filter Item.isFile = ((placesFrom place).zip files).map fun (r, bytes) => .file r bytes

namespace Laid

variable {place : Option FileRole} {others : List Item} {files : List Bytes} {s : Split}

theorem done (place : Option FileRole) : Laid place [] [] .done :=
  ⟨by simp [Split.done], fun _ => rfl, fun _ => by simp [Split.done]⟩

theorem cons (item : Item) (hitem : item.isFile = false) (h : Laid place others files s) :
    Laid place (item.closed :: others) files (s.cons item) where
  fault := h.fault
  others hfault := by simp [Split.cons, hitem, ← h.others hfault]
  files hfault := by simp [Split.cons, hitem, h.files hfault]

theorem placeFile {bytes : Bytes} {rest : Option FileRole → Split} (h : ∀ next, Laid next others files (rest next)) :
    Laid place others (bytes :: files) (placeFile place bytes rest) := by
  have hplace (r : FileRole) {next : Option FileRole} (hplaces : placesFrom place = r :: placesFrom next) :
      Laid place others (bytes :: files) (.cons (.file r bytes) (rest next)) := by
    refine ⟨?_, (h next).others, fun hfault => ?_⟩
    · rw [hplaces, List.length_cons, List.length_cons, Nat.succ_le_succ_iff]
      exact (h next).fault
    · rw [hplaces, List.zip_cons_cons, List.map_cons, ← (h next).files hfault]
      rfl
  rcases place with _ | _ | _
  · exact ⟨⟨nofun, fun h => absurd h (by simp [placesFrom])⟩, nofun, nofun⟩
  · exact hplace .original rfl
  · exact hplace .generated rfl

theorem splitFiles (place : Option FileRole) (files : List Bytes) : Laid place [] files (splitFiles place files) := by
  induction files generalizing place with
  | nil => exact .done place
  | cons bytes files ih => exact .placeFile ih

end Laid

/-- The files of a line, those behind the two dashes last. -/
def filesOf (pieces : List Piece) (tail : Option (List Bytes)) : List Bytes :=
  (requests pieces).filterMap Request.file? ++ tail.getD []

/-- What splitting makes of a line. -/
theorem laid_line (place : Option FileRole) (pieces : List Piece) (tail : Option (List Bytes)) :
    Laid place ((requests pieces).filterMap Request.item?) (filesOf pieces tail) (split place (line pieces tail)) := by
  induction pieces generalizing place with
  | nil =>
    cases tail with
    | none => exact .done place
    | some files =>
      have hsplit : split place (line [] (some files)) = splitFiles place files := split_escape place files
      rw [hsplit]
      exact .splitFiles place files
  | cons piece pieces ih =>
    cases piece with
    | joined o value =>
      have hsplit := split_joined o value place (line pieces tail)
      exact hsplit ▸ .cons (.option o (some value) true) rfl (ih place)
    | spaced o value h =>
      have hsplit := split_next_cons o place value (line pieces tail)
      rw [if_pos h] at hsplit
      exact hsplit ▸ .cons (.option o (some value) false) rfl (ih place)
    | flag f =>
      have hsplit := split_flag f place (line pieces tail)
      exact hsplit ▸ .cons (.flag f) rfl (ih place)
    | letter =>
      have hsplit := split_letter place (line pieces tail)
      exact hsplit ▸ .cons (.flag .verbose) rfl (ih place)
    | file bytes h =>
      have hsplit := split_value h place (line pieces tail)
      exact hsplit ▸ .placeFile ih

/-! ### Another order -/

theorem Given.take_closed (g : Given) (item : Item) : g.take item.closed = g.take item := by
  cases item with
  | option o value attached => cases value <;> rfl
  | flag | file | inquiry => rfl

theorem foldlM_take_closed (items : List Item) (g : Given) :
    (items.map Item.closed).foldlM Given.take g = items.foldlM Given.take g := by
  rw [List.foldlM_map]
  simp only [Given.take_closed]

theorem Laid.perm {place : Option FileRole} {others : List Item} {files : List Bytes} {s : Split}
    (h : Laid place others files s) (hfault : s.fault = none) : (s.items.map Item.closed).Perm
      (((placesFrom place).zip files).map (fun (r, bytes) => .file r bytes) ++ others) := by
  have hparts := (List.filter_append_perm Item.isFile s.items).map Item.closed
  rw [List.map_append, h.others hfault, h.files hfault, List.map_map] at hparts
  exact hparts.symm

/-- The two files go to different places, and nothing else goes there. -/
theorem pairwise_apart (pieces : List Piece) (files : List Bytes) :
    (((placesFrom (some .original)).zip files).map (fun (r, bytes) => Item.file r bytes) ++
      (requests pieces).filterMap Request.item?).Pairwise Item.Apart := by
  have hothers : ∀ item ∈ (requests pieces).filterMap Request.item?, ∀ r bytes, item ≠ .file r bytes := by
    intro item hitem r bytes
    obtain ⟨request, -, hrequest⟩ := List.mem_filterMap.mp hitem
    cases request <;> cases hrequest <;> nofun
  refine List.pairwise_append.mpr ⟨?_, ?_, ?_⟩
  · match files with
    | [] => exact .nil
    | [_] => exact List.pairwise_singleton _ _
    | _ :: _ :: _ => exact List.pairwise_pair.mpr nofun
  · exact List.pairwise_of_forall_mem_list fun i hi j _ r bytes bytes' heq => absurd heq (hothers i hi r bytes)
  · intro i _ j hj r bytes bytes' _
    exact hothers j hj r bytes'

theorem ofArgs_of_items {args : List Bytes} {g : Given} (hfault : (split (some .original) args).fault = none)
    (hitems : (split (some .original) args).items.foldlM Given.take .nothing = .ok g) : Given.ofArgs args = .ok g := by
  refine bind_eq_ok_iff.mpr ⟨g, ?_, ?_⟩
  · rwa [Split.examined, hfault]
  · rw [hfault]
    rfl

/-- Settings do not depend on the order of the pieces. -/
theorem ofArgs_reordered {pieces pieces' : List Piece} {tail : Option (List Bytes)} {g : Given}
    (h : Reordered pieces pieces') (hargs : Given.ofArgs (line pieces tail) = .ok g) :
    Given.ofArgs (line pieces' tail) = .ok g := by
  obtain ⟨hfault, hitems⟩ := items_of_ofArgs hargs
  have hlaid := laid_line (some .original) pieces tail
  have hlaid' := laid_line (some .original) pieces' tail
  have hfiles : filesOf pieces tail = filesOf pieces' tail := by rw [filesOf, filesOf, h.files]
  rw [← hfiles] at hlaid'
  have hfault' : (split (some .original) (line pieces' tail)).fault = none :=
    hlaid'.fault.mpr (hlaid.fault.mp hfault)
  refine ofArgs_of_items hfault' ?_
  have hothers := (h.requests.filterMap Request.item?).append_left
    (((placesFrom (some .original)).zip (filesOf pieces tail)).map fun (r, bytes) => Item.file r bytes)
  have hperm := hlaid.perm hfault
  have hperm' := hlaid'.perm hfault'
  rw [← foldlM_take_closed] at hitems ⊢
  refine foldlM_take_perm (hperm.trans (hothers.trans hperm'.symm)) ?_ hitems
  exact (hperm.pairwise_iff Item.Apart.symm).mpr (pairwise_apart pieces _)

/-! ### Every accepted line -/

theorem take_of_cons {item : Item} {s : Split} {g g' : Given}
    (h : (s.cons item).items.foldlM Given.take g = .ok g') :
    ∃ next, g.take item = .ok next ∧ s.items.foldlM Given.take next = .ok g' :=
  bind_eq_ok_iff.mp (by rwa [Split.cons, List.foldlM_cons] at h)

theorem eq_of_isLetters {arg : Bytes} (h : isLetters arg) : ∃ bs, bs ≠ [] ∧ arg = dash :: bs := by
  cases arg with
  | nil => cases h
  | cons b bs =>
    have hb : b = dash := by
      by_contra hne
      simp [isLetters, isValue, hne] at h
    refine ⟨bs, ?_, by rw [hb]⟩
    rintro rfl
    simp [isLetters, isValue, hb] at h

/-- The only letter that is accepted is the one for a flag. -/
theorem letter_of_take {rest : Split} {b : UInt8} {more : Bytes} {g g' : Given}
    (hfault : (splitLetters rest (b :: more)).fault = none)
    (hitems : (splitLetters rest (b :: more)).items.foldlM Given.take g = .ok g') :
    b = Bytes.ofAscii 'v' ∧ (splitLetters rest more).fault = none ∧
      ∃ next, g.take (.flag .verbose) = .ok next ∧ (splitLetters rest more).items.foldlM Given.take next = .ok g' := by
  rw [splitLetters] at hfault hitems
  split_ifs at hfault hitems with hv hh hV
  · exact ⟨hv, hfault, take_of_cons hitems⟩
  · obtain ⟨next, htake, -⟩ := take_of_cons hitems
    cases htake
  · obtain ⟨next, htake, -⟩ := take_of_cons hitems
    cases htake
  · split at hfault <;> cases hfault

/-- A flag is not given twice, so there is one letter. -/
theorem letters_of_take {rest : Split} {bs : Bytes} {g g' : Given} (hbs : bs ≠ [])
    (hfault : (splitLetters rest bs).fault = none)
    (hitems : (splitLetters rest bs).items.foldlM Given.take g = .ok g') :
    bs = [Bytes.ofAscii 'v'] ∧ rest.fault = none ∧ ∃ next, rest.items.foldlM Given.take next = .ok g' := by
  match bs with
  | [] => exact absurd rfl hbs
  | [b] =>
    obtain ⟨rfl, hrest, next, -, hitems⟩ := letter_of_take hfault hitems
    exact ⟨rfl, hrest, next, hitems⟩
  | b :: b' :: more =>
    obtain ⟨-, hfault, next, htake, hitems⟩ := letter_of_take hfault hitems
    obtain ⟨-, -, last, htake', -⟩ := letter_of_take hfault hitems
    obtain ⟨-, w, hw, rfl⟩ := Given.take_eq_ok_iff.mp htake
    obtain ⟨hlacks, -⟩ := Given.take_eq_ok_iff.mp htake'
    cases hw
    cases hlacks

/-- Every argument vector whose items are accepted is a line of pieces. -/
theorem exists_line {place : Option FileRole} {args : List Bytes} {g g' : Given}
    (hfault : (split place args).fault = none) (hitems : (split place args).items.foldlM Given.take g = .ok g') :
    ∃ pieces tail, args = line pieces tail := by
  induction args using positionals.induct generalizing place g with
  | case1 => exact ⟨[], none, rfl⟩
  | case2 args => exact ⟨[], some args, rfl⟩
  | case3 arg args _ hvalue ih =>
    rw [split_value hvalue] at hfault hitems
    rcases placeFile_cases place arg fun place => split place args with ⟨r, next, -, hp⟩ | ⟨e, hp⟩
    · rw [hp] at hfault hitems
      obtain ⟨g, -, hitems⟩ := take_of_cons hitems
      obtain ⟨pieces, tail, rfl⟩ := ih hfault hitems
      exact ⟨.file arg hvalue :: pieces, tail, rfl⟩
    · rw [hp] at hfault
      cases hfault
  | case4 arg _ _ hnext =>
    obtain ⟨o, rfl⟩ := exists_of_takesNext hnext
    rw [split_next_nil] at hitems
    obtain ⟨g, htake, -⟩ := take_of_cons hitems
    cases htake
  | case5 arg _ _ hnext v rest hv ih =>
    obtain ⟨o, rfl⟩ := exists_of_takesNext hnext
    rw [split_next_cons, if_pos hv] at hfault hitems
    obtain ⟨g, -, hitems⟩ := take_of_cons hitems
    obtain ⟨pieces, tail, rfl⟩ := ih hfault hitems
    exact ⟨.spaced o v hv :: pieces, tail, rfl⟩
  | case6 arg _ _ hnext v rest hv =>
    obtain ⟨o, rfl⟩ := exists_of_takesNext hnext
    rw [split_next_cons, if_neg hv] at hitems
    obtain ⟨g, htake, -⟩ := take_of_cons hitems
    cases htake
  | case7 arg args hescape hvalue hnext ih =>
    cases kind_of_arg arg with
    | escape harg => exact absurd harg hescape
    | value harg => exact absurd harg hvalue
    | letters harg =>
      rw [split_letters harg] at hfault hitems
      obtain ⟨bs, hbs, rfl⟩ := eq_of_isLetters harg
      obtain ⟨rfl, hfault, g, hitems⟩ := letters_of_take hbs hfault hitems
      obtain ⟨pieces, tail, rfl⟩ := ih hfault hitems
      exact ⟨.letter :: pieces, tail, rfl⟩
    | next o harg => exact absurd (harg ▸ takesNext_long o) hnext
    | whole item harg hspelled =>
      rw [harg] at hfault hitems
      obtain ⟨g, htake, hitems⟩ := take_of_cons hitems
      obtain ⟨pieces, tail, rfl⟩ := ih hfault hitems
      cases hspelled with
      | option o v => exact ⟨.joined o v :: pieces, tail, rfl⟩
      | flag f => exact ⟨.flag f :: pieces, tail, rfl⟩
      | help => cases htake
      | version => cases htake
    | misplaced e harg =>
      rw [harg] at hfault
      cases hfault

end AlloyGrade.CommandLine
