import AlloyGrade.CommandLine.Item
import Mathlib.Tactic.SplitIfs

/-! What an argument vector says. Which of its arguments are files, whether it asks for help or for the version,
and what is left of it without the log flags is said from the arguments alone, and compared with the items that
splitting finds. -/

namespace AlloyGrade.CommandLine

/-- The argument that gives a name in full. -/
def long (name : String) : Bytes := [dash, dash] ++ Bytes.ofString name

/-- An argument with one dash, and letters behind it. -/
def isLetters (arg : Bytes) : Bool := !isValue arg && !([dash, dash].isPrefixOf arg)

/-- An option whose value is the next argument. -/
def takesNext (arg : Bytes) : Bool := ValueOption.all.any fun o => arg == long o.name

/-! ### Names -/

theorem splitName_ofString (o : ValueOption) : splitName (Bytes.ofString o.name) = (Bytes.ofString o.name, none) := by
  cases o <;> decide

theorem ofName?_option (o : ValueOption) : Argument.ofName? (Bytes.ofString o.name) = some (.option o) := by
  cases o <;> decide

theorem name_of_splitName {body name : Bytes} (h : splitName body = (name, none)) : name = body := by
  simp only [splitName, Prod.mk.injEq] at h
  obtain ⟨hname, hlength⟩ := h
  split_ifs at hlength with hlt
  rw [← hname]
  exact (List.takeWhile_prefix _).eq_of_length_le (Nat.le_of_not_lt hlt)

theorem body_of_splitName {body name v : Bytes} (h : splitName body = (name, some v)) :
    body = name ++ equalsSign :: v := by
  simp only [splitName, Prod.mk.injEq] at h
  obtain ⟨rfl, hvalue⟩ := h
  split_ifs at hvalue with hlt
  cases hvalue
  induction body with
  | nil => cases hlt
  | cons b body ih =>
    by_cases hb : b = equalsSign
    · simp [hb]
    · rw [List.takeWhile_cons_of_pos (by simpa using hb), List.length_cons, List.length_cons] at hlt
      rw [List.takeWhile_cons_of_pos (by simpa using hb), List.cons_append, List.length_cons, List.drop_succ_cons,
        ← ih (Nat.lt_of_succ_lt_succ hlt)]

/-- The name that an argument is known by. -/
def Argument.longName : Argument → String
  | .option o => o.name
  | .flag f => f.name
  | .file _ => ""
  | .help => "help"
  | .version => "version"

theorem longName_of_ofName? {name : Bytes} {argument : Argument} (h : Argument.ofName? name = some argument) :
    name = Bytes.ofString argument.longName := by
  rw [Argument.ofName?, Option.map_eq_some_iff] at h
  obtain ⟨⟨known, argument⟩, hfind, rfl⟩ := h
  have hknown : known = argument.longName := by
    rcases List.mem_append.mp (List.mem_of_find?_eq_some hfind) with hmem | hmem
    · rcases List.mem_append.mp hmem with hmem | hmem
      all_goals
        obtain ⟨_, -, heq⟩ := List.mem_map.mp hmem
        cases heq
        rfl
    · rcases hmem with _ | ⟨_, _ | ⟨_, ⟨⟩⟩⟩ <;> rfl
  have hbeq := List.find?_some hfind
  have heq : Bytes.ofString known = name := eq_of_beq hbeq
  rw [← heq, hknown]

theorem isPrefixOf_long (name : String) : [dash, dash].isPrefixOf (long name) = true := by
  simp [long, List.isPrefixOf]

/-! ### What an argument can be -/

/-- How an argument spells an item of its own. -/
inductive Item.SpelledBy : Item → Bytes → Prop
  | option (o : ValueOption) (v : Bytes) : SpelledBy (.option o (some v) true) (long o.name ++ equalsSign :: v)
  | flag (f : Flag) : SpelledBy (.flag f) (long f.name)
  | help : SpelledBy (.inquiry (.help true)) (long "help")
  | version : SpelledBy (.inquiry .version) (long "version")

theorem Item.SpelledBy.ne_file {item : Item} {arg : Bytes} (h : item.SpelledBy arg) (r : FileRole) (bytes : Bytes) :
    item ≠ .file r bytes := by
  cases h <;> nofun

/-- What one argument can be, and what splitting makes of it. -/
inductive Kind (arg : Bytes) : Prop
  | escape (harg : arg = [dash, dash])
  | value (harg : isValue arg)
  | letters (harg : isLetters arg)
  | next (o : ValueOption) (harg : arg = long o.name)
  /-- An item of its own. -/
  | whole (item : Item) (harg : ∀ place args, split place (arg :: args) = .cons item (split place args))
      (hspelled : item.SpelledBy arg)
  | misplaced (e : UsageError) (harg : ∀ place args, split place (arg :: args) = .stop e)

theorem split_escape (place : Option FileRole) (args : List Bytes) :
    split place ([dash, dash] :: args) = splitFiles place args := by
  rw [split, if_pos rfl]

theorem eq_of_isPrefixOf {arg : Bytes} (h : [dash, dash].isPrefixOf arg) : arg = [dash, dash] ++ arg.drop 2 := by
  obtain ⟨rest, rfl⟩ := List.isPrefixOf_iff_prefix.mp h
  rfl

theorem not_isValue_of_isPrefixOf {arg : Bytes} (h : [dash, dash].isPrefixOf arg) : isValue arg = false := by
  rw [eq_of_isPrefixOf h]
  simp [isValue, dash]

theorem split_value {arg : Bytes} (h : isValue arg) (place : Option FileRole) (args : List Bytes) :
    split place (arg :: args) = placeFile place arg fun place => split place args := by
  have hdashes : ¬[dash, dash].isPrefixOf arg := by
    intro hp
    rw [not_isValue_of_isPrefixOf hp] at h
    cases h
  have hescape : arg ≠ [dash, dash] := by
    rintro rfl
    exact hdashes rfl
  rw [split, if_neg hescape, if_neg hdashes, if_pos h]

theorem split_letters {arg : Bytes} (h : isLetters arg) (place : Option FileRole) (args : List Bytes) :
    split place (arg :: args) = splitLetters (split place args) (arg.drop 1) := by
  simp only [isLetters, Bool.and_eq_true, Bool.not_eq_true'] at h
  have hescape : arg ≠ [dash, dash] := by
    rintro rfl
    exact absurd h.2 (by decide)
  rw [split, if_neg hescape, h.1, h.2]
  rfl

theorem split_next_nil (o : ValueOption) (place : Option FileRole) :
    split place [long o.name] = .cons (.option o none false) .done := by
  cases o <;> rfl

theorem split_next_cons (o : ValueOption) (place : Option FileRole) (v : Bytes) (rest : List Bytes) :
    split place (long o.name :: v :: rest) =
      if isValue v then .cons (.option o (some v) false) (split place rest)
      else .cons (.option o none false) (split place (v :: rest)) := by
  have hescape : long o.name ≠ [dash, dash] := by cases o <;> decide
  have hdrop : (long o.name).drop 2 = Bytes.ofString o.name := rfl
  rw [split]
  simp only [hescape, if_false, isPrefixOf_long, if_true, hdrop, splitName_ofString, ofName?_option]

/-- Every argument is of some kind. -/
theorem kind_of_arg (arg : Bytes) : Kind arg := by
  by_cases hvalue : isValue arg
  · exact .value hvalue
  by_cases hdashes : [dash, dash].isPrefixOf arg
  · by_cases hescape : arg = [dash, dash]
    · exact .escape hescape
    have harg : arg = [dash, dash] ++ arg.drop 2 := eq_of_isPrefixOf hdashes
    rcases hsplit : splitName (arg.drop 2) with ⟨name, value⟩
    have hunfold (place : Option FileRole) (args : List Bytes) := split.eq_2 place arg args
    simp only [hescape, if_false, hdashes, if_true, hsplit] at hunfold
    cases hname : Argument.ofName? name with
    | none => exact .misplaced _ fun place args => by rw [hunfold, hname]
    | some argument =>
      simp only [hname] at hunfold
      cases value with
      | none =>
        have hlong : arg = long argument.longName := by
          rw [harg, ← name_of_splitName hsplit, longName_of_ofName? hname, long]
        cases argument with
        | option o => exact .next o hlong
        | flag f => exact .whole (.flag f) hunfold (hlong ▸ .flag f)
        | help => exact .whole (.inquiry (.help true)) hunfold (hlong ▸ .help)
        | version => exact .whole (.inquiry .version) hunfold (hlong ▸ .version)
        | file r => exact .misplaced _ hunfold
      | some v =>
        cases argument with
        | option o =>
          have hlong : arg = long o.name ++ equalsSign :: v := by
            rw [harg, body_of_splitName hsplit, longName_of_ofName? hname, long, List.append_assoc]
            rfl
          exact .whole (.option o (some v) true) hunfold (hlong ▸ .option o v)
        | flag f => exact .misplaced _ hunfold
        | help => exact .misplaced _ hunfold
        | version => exact .misplaced _ hunfold
        | file r => exact .misplaced _ hunfold
  · exact .letters (by simp [isLetters, hvalue, hdashes])

theorem exists_of_takesNext {arg : Bytes} (h : takesNext arg) : ∃ o : ValueOption, arg = long o.name := by
  obtain ⟨o, -, ho⟩ := List.any_eq_true.mp h
  exact ⟨o, eq_of_beq ho⟩

theorem takesNext_long (o : ValueOption) : takesNext (long o.name) := by
  cases o <;> decide

/-! ### Files -/

/-- The files that an argument vector names. An option's value is none of them, and behind two dashes alone
everything is. -/
def positionals : List Bytes → List Bytes
  | [] => []
  | arg :: args =>
    if arg = [dash, dash] then args
    else if isValue arg then arg :: positionals args
    else if takesNext arg then
      match args with
      | [] => []
      | v :: rest => if isValue v then positionals rest else positionals (v :: rest)
    else positionals args

def Item.file? : Item → Option (FileRole × Bytes)
  | .file r bytes => some (r, bytes)
  | _ => none

/-- The places that are free from a place on. -/
def placesFrom : Option FileRole → List FileRole
  | some .original => [.original, .generated]
  | some .generated => [.generated]
  | none => []

/-- The files of some items are the given ones, each in its place. -/
structure Filled (place : Option FileRole) (items : List Item) (args : List Bytes) : Prop where
  fits : args.length ≤ (placesFrom place).length
  files : items.filterMap Item.file? = (placesFrom place).zip args

theorem Filled.done (place : Option FileRole) : Filled place [] [] := ⟨Nat.zero_le _, by simp⟩

theorem Filled.cons {place : Option FileRole} {items : List Item} {args : List Bytes} {item : Item}
    (hfile : ∀ r bytes, item ≠ .file r bytes) (h : Filled place items args) : Filled place (item :: items) args := by
  have hnone : item.file? = none := by
    cases item with
    | file r bytes => exact absurd rfl (hfile r bytes)
    | option | flag | inquiry => rfl
  exact ⟨h.fits, by rw [List.filterMap_cons_none hnone, h.files]⟩

theorem placeFile_cases (place : Option FileRole) (arg : Bytes) (rest : Option FileRole → Split) :
    (∃ r next, placesFrom place = r :: placesFrom next ∧ placeFile place arg rest = .cons (.file r arg) (rest next)) ∨
      ∃ e, placeFile place arg rest = .stop e := by
  rcases place with _ | _ | _
  · exact .inr ⟨_, rfl⟩
  · exact .inl ⟨.original, some .generated, rfl, rfl⟩
  · exact .inl ⟨.generated, none, rfl, rfl⟩

theorem filled_placeFile {place : Option FileRole} {arg : Bytes} {args : List Bytes} {rest : Option FileRole → Split}
    (h : (placeFile place arg rest).fault = none)
    (hrest : ∀ next, (rest next).fault = none → Filled next (rest next).items args) :
    Filled place (placeFile place arg rest).items (arg :: args) := by
  rcases placeFile_cases place arg rest with ⟨r, next, hplaces, hp⟩ | ⟨e, hp⟩
  · rw [hp] at h ⊢
    obtain ⟨hfits, hfiles⟩ := hrest next h
    refine ⟨by rw [hplaces]; exact Nat.succ_le_succ hfits, ?_⟩
    have hsome : (Item.file r arg).file? = some (r, arg) := rfl
    rw [hplaces, List.zip_cons_cons, ← hfiles]
    exact List.filterMap_cons_some hsome
  · rw [hp] at h
    cases h

theorem filled_splitFiles {place : Option FileRole} {args : List Bytes} (h : (splitFiles place args).fault = none) :
    Filled place (splitFiles place args).items args := by
  induction args generalizing place with
  | nil => exact .done place
  | cons arg args ih => exact filled_placeFile h fun next => ih

theorem filled_splitLetters {place : Option FileRole} {args : List Bytes} {rest : Split} {bs : Bytes}
    (h : (splitLetters rest bs).fault = none) (hrest : rest.fault = none → Filled place rest.items args) :
    Filled place (splitLetters rest bs).items args := by
  fun_induction splitLetters rest bs with
  | case1 => exact hrest h
  | case2 more ih | case3 more _ ih | case4 more _ _ ih => exact .cons nofun (ih h)
  | case5 | case6 => cases h

/-- If splitting finds no fault, the files that it finds are the positional arguments. -/
theorem filled_split {place : Option FileRole} {args : List Bytes} (h : (split place args).fault = none) :
    Filled place (split place args).items (positionals args) := by
  fun_induction positionals args generalizing place with
  | case1 => exact .done place
  | case2 args =>
    rw [split_escape] at h ⊢
    exact filled_splitFiles h
  | case3 arg args _ hvalue ih =>
    rw [split_value hvalue] at h ⊢
    exact filled_placeFile h fun next => ih
  | case4 arg _ _ hnext =>
    obtain ⟨o, rfl⟩ := exists_of_takesNext hnext
    rw [split_next_nil]
    exact .cons nofun (.done place)
  | case5 arg _ _ hnext v rest hv ih =>
    obtain ⟨o, rfl⟩ := exists_of_takesNext hnext
    rw [split_next_cons, if_pos hv] at h ⊢
    exact .cons nofun (ih h)
  | case6 arg _ _ hnext v rest hv ih =>
    obtain ⟨o, rfl⟩ := exists_of_takesNext hnext
    rw [split_next_cons, if_neg hv] at h ⊢
    exact .cons nofun (ih h)
  | case7 arg args hescape hvalue hnext ih =>
    cases kind_of_arg arg with
    | escape harg => exact absurd harg hescape
    | value harg => exact absurd harg hvalue
    | letters harg =>
      rw [split_letters harg] at h ⊢
      exact filled_splitLetters h ih
    | next o harg => exact absurd (harg ▸ takesNext_long o) hnext
    | whole item harg hspelled =>
      rw [harg] at h ⊢
      exact .cons hspelled.ne_file (ih h)
    | misplaced e harg =>
      rw [harg] at h
      cases h

/-! ### Inquiries -/

/-- An argument that asks for help or for the version. -/
def asksFor (arg : Bytes) : Bool :=
  arg == long "help" || arg == long "version" ||
    isLetters arg && (arg.drop 1).any fun b => b == Bytes.ofAscii 'h' || b == Bytes.ofAscii 'V'

/-- An argument vector that asks for help or for the version. -/
def asks (args : List Bytes) : Bool := (args.takeWhile (· != [dash, dash])).any asksFor

theorem asks_cons {arg : Bytes} (h : arg ≠ [dash, dash]) (args : List Bytes) :
    asks (arg :: args) = (asksFor arg || asks args) := by
  have hne : (arg != [dash, dash]) = true := by simpa using h
  simp [asks, hne]

theorem not_inquiry_splitFiles (i : Inquiry) (place : Option FileRole) (args : List Bytes) :
    .inquiry i ∉ (splitFiles place args).items := by
  induction args generalizing place with
  | nil => exact List.not_mem_nil
  | cons arg args ih =>
    rw [splitFiles]
    rcases placeFile_cases place arg fun place => splitFiles place args with ⟨r, next, -, hp⟩ | ⟨e, hp⟩
    · rw [hp]
      rintro (_ | ⟨_, hmem⟩)
      exact ih next hmem
    · rw [hp]
      exact List.not_mem_nil

theorem inquiry_splitLetters {i : Inquiry} {rest : Split} {bs : Bytes}
    (h : .inquiry i ∈ (splitLetters rest bs).items) :
    (bs.any fun b => b == Bytes.ofAscii 'h' || b == Bytes.ofAscii 'V') ∨ .inquiry i ∈ rest.items := by
  fun_induction splitLetters rest bs with
  | case1 => exact .inr h
  | case2 more ih =>
    rcases h with _ | ⟨_, h⟩
    exact (ih h).imp_left fun hmore => by rw [List.any_cons, hmore, Bool.or_true]
  | case3 more | case4 more => exact .inl (by simp)
  | case5 | case6 => cases h

/-- Only an argument that asks makes an inquiry. -/
theorem asks_of_inquiry {i : Inquiry} {place : Option FileRole} {args : List Bytes}
    (h : .inquiry i ∈ (split place args).items) : asks args := by
  -- Splitting goes through the arguments as `positionals` does.
  induction args using positionals.induct generalizing place with
  | case1 => cases h
  | case2 args =>
    rw [split_escape] at h
    exact absurd h (not_inquiry_splitFiles i place args)
  | case3 arg args hescape hvalue ih =>
    rw [asks_cons hescape, Bool.or_eq_true]
    rw [split_value hvalue] at h
    rcases placeFile_cases place arg fun place => split place args with ⟨r, next, -, hp⟩ | ⟨e, hp⟩
    · rw [hp] at h
      rcases h with _ | ⟨_, h⟩
      exact .inr (ih h)
    · rw [hp] at h
      cases h
  | case4 arg hescape hvalue hnext =>
    obtain ⟨o, rfl⟩ := exists_of_takesNext hnext
    rw [split_next_nil] at h
    simp [Split.cons, Split.done] at h
  | case5 arg hescape hvalue hnext v rest hv ih =>
    obtain ⟨o, rfl⟩ := exists_of_takesNext hnext
    have hv' : v ≠ [dash, dash] := by
      rintro rfl
      cases hv
    rw [asks_cons hescape, asks_cons hv', Bool.or_eq_true, Bool.or_eq_true]
    rw [split_next_cons, if_pos hv] at h
    rcases h with _ | ⟨_, h⟩
    exact .inr (.inr (ih h))
  | case6 arg hescape hvalue hnext v rest hv ih =>
    obtain ⟨o, rfl⟩ := exists_of_takesNext hnext
    rw [asks_cons hescape, Bool.or_eq_true]
    rw [split_next_cons, if_neg hv] at h
    rcases h with _ | ⟨_, h⟩
    exact .inr (ih h)
  | case7 arg args hescape hvalue hnext ih =>
    rw [asks_cons hescape, Bool.or_eq_true]
    cases kind_of_arg arg with
    | escape harg => exact absurd harg hescape
    | value harg => exact absurd harg hvalue
    | letters harg =>
      rw [split_letters harg] at h
      refine (inquiry_splitLetters h).imp (fun hletter => ?_) ih
      simp only [asksFor, harg, hletter, Bool.and_true, Bool.or_true]
    | next o harg => exact absurd (harg ▸ takesNext_long o) hnext
    | whole item harg hspelled =>
      rw [harg] at h
      rcases h with _ | ⟨_, h⟩
      · left
        cases hspelled <;> rfl
      · exact .inr (ih h)
    | misplaced e harg =>
      rw [harg] at h
      cases h

/-! ### Log flags -/

/-- The flags that are about logging only. -/
def Flag.isLogging : Flag → Bool
  | .equivalenceOnly => false
  | .verbose | .jsonLogs => true

def Item.isLogging : Item → Bool
  | .flag f => f.isLogging
  | _ => false

/-- What is left of an argument without log flags. Letters are left alone where they would become an argument with two
dashes. -/
def quieted (arg : Bytes) : List Bytes :=
  if arg = long Flag.verbose.name ∨ arg = long Flag.jsonLogs.name then []
  else if isLetters arg then
    match (arg.drop 1).filter (· != Bytes.ofAscii 'v') with
    | [] => []
    | b :: more => if b = dash then [arg] else [dash :: b :: more]
  else [arg]

/-- What is left of an argument vector without log flags. Nothing is taken out behind an option that lacks its value. -/
def withoutLogging : List Bytes → List Bytes
  | [] => []
  | arg :: args =>
    if arg = [dash, dash] then arg :: args
    else if takesNext arg then
      match args with
      | [] => [arg]
      | v :: rest => if isValue v then arg :: v :: withoutLogging rest else arg :: v :: rest
    else quieted arg ++ withoutLogging args

/-- Two splits with the same items but for log flags, and both with a fault or both without. -/
structure Split.SameButLogging (s t : Split) : Prop where
  items : s.items.filter (!·.isLogging) = t.items.filter (!·.isLogging)
  fault : s.fault.isSome = t.fault.isSome

namespace Split.SameButLogging

variable {s t : Split}

theorem refl (s : Split) : s.SameButLogging s := ⟨rfl, rfl⟩

theorem stop (e e' : UsageError) : (Split.stop e).SameButLogging (.stop e') := ⟨rfl, rfl⟩

theorem cons (item : Item) (h : s.SameButLogging t) : (s.cons item).SameButLogging (t.cons item) :=
  ⟨by simp only [Split.cons, List.filter_cons, h.items], h.fault⟩

theorem skip {item : Item} (hitem : item.isLogging) (h : s.SameButLogging t) : (s.cons item).SameButLogging t :=
  ⟨by simp only [Split.cons, List.filter_cons, hitem, h.items]; rfl, h.fault⟩

theorem placeFile {place : Option FileRole} {arg : Bytes} {f g : Option FileRole → Split}
    (h : ∀ place, (f place).SameButLogging (g place)) :
    (placeFile place arg f).SameButLogging (placeFile place arg g) := by
  rcases place with _ | _ | _
  · exact .stop _ _
  · exact .cons _ (h _)
  · exact .cons _ (h _)

end Split.SameButLogging

/-- What one letter can be. -/
theorem letter_cases (b : UInt8) :
    (∃ item, (b = Bytes.ofAscii 'v' → item = .flag .verbose) ∧
      ∀ rest more, splitLetters rest (b :: more) = .cons item (splitLetters rest more)) ∨
    b ≠ Bytes.ofAscii 'v' ∧ ∀ rest more, ∃ e, splitLetters rest (b :: more) = .stop e := by
  by_cases hv : b = Bytes.ofAscii 'v'
  · exact .inl ⟨_, fun _ => rfl, fun rest more => by rw [splitLetters, if_pos hv]⟩
  by_cases hh : b = Bytes.ofAscii 'h'
  · exact .inl ⟨_, fun h => absurd h hv, fun rest more => by rw [splitLetters, if_neg hv, if_pos hh]⟩
  by_cases hV : b = Bytes.ofAscii 'V'
  · exact .inl ⟨_, fun h => absurd h hv, fun rest more => by rw [splitLetters, if_neg hv, if_neg hh, if_pos hV]⟩
  refine .inr ⟨hv, fun rest more => ?_⟩
  rw [splitLetters, if_neg hv, if_neg hh, if_neg hV]
  split <;> exact ⟨_, rfl⟩

theorem sameButLogging_splitLetters {s t : Split} (h : s.SameButLogging t) (bs : Bytes) :
    (splitLetters s bs).SameButLogging (splitLetters t bs) := by
  induction bs with
  | nil => exact h
  | cons b more ih =>
    rcases letter_cases b with ⟨item, -, hb⟩ | ⟨-, hb⟩
    · rw [hb, hb]
      exact .cons item ih
    · obtain ⟨e, he⟩ := hb s more
      obtain ⟨e', he'⟩ := hb t more
      rw [he, he']
      exact .stop e e'

theorem sameButLogging_filter {s t : Split} (h : s.SameButLogging t) (bs : Bytes) :
    (splitLetters s bs).SameButLogging (splitLetters t (bs.filter (· != Bytes.ofAscii 'v'))) := by
  induction bs with
  | nil => exact h
  | cons b more ih =>
    by_cases hv : b = Bytes.ofAscii 'v'
    · rcases letter_cases b with ⟨item, hitem, hb⟩ | ⟨hb, -⟩
      · rw [hb, hitem hv, List.filter_cons_of_neg (by simp [hv])]
        exact .skip rfl ih
      · exact absurd hv hb
    · rw [List.filter_cons_of_pos (by simpa using hv)]
      rcases letter_cases b with ⟨item, -, hb⟩ | ⟨-, hb⟩
      · rw [hb, hb]
        exact .cons item ih
      · obtain ⟨e, he⟩ := hb s more
        obtain ⟨e', he'⟩ := hb t (more.filter (· != Bytes.ofAscii 'v'))
        rw [he, he']
        exact .stop e e'

theorem split_flag (f : Flag) (place : Option FileRole) (args : List Bytes) :
    split place (long f.name :: args) = .cons (.flag f) (split place args) := by
  have hescape : long f.name ≠ [dash, dash] := by cases f <;> decide
  have hname : splitName ((long f.name).drop 2) = (Bytes.ofString f.name, none) := by cases f <;> decide
  have hknown : Argument.ofName? (Bytes.ofString f.name) = some (.flag f) := by cases f <;> decide
  rw [split]
  simp only [hescape, if_false, isPrefixOf_long, if_true, hname, hknown]

/-- Letters without a `v` among them are letters still, or nothing. -/
theorem sameButLogging_letters {arg : Bytes} (harg : isLetters arg) {args args' : List Bytes}
    (h : ∀ place, (split place args).SameButLogging (split place args')) (place : Option FileRole) :
    (split place (arg :: args)).SameButLogging (split place (quieted arg ++ args')) := by
  have hflag : ¬(arg = long Flag.verbose.name ∨ arg = long Flag.jsonLogs.name) := by
    rintro (rfl | rfl) <;> exact absurd harg (by decide)
  rw [split_letters harg, quieted, if_neg hflag, if_pos harg]
  have hletters := sameButLogging_filter (h place) (arg.drop 1)
  cases hleft : (arg.drop 1).filter (· != Bytes.ofAscii 'v') with
  | nil =>
    rw [hleft] at hletters
    exact hletters
  | cons b more =>
    rw [hleft] at hletters
    by_cases hb : b = dash
    · simp only [hb, if_true]
      rw [List.singleton_append, split_letters harg]
      exact sameButLogging_splitLetters (h place) _
    · have hquiet : isLetters (dash :: b :: more) := by
        simp [isLetters, isValue, List.isPrefixOf, Ne.symm hb]
      simp only [hb, if_false]
      rw [List.singleton_append, split_letters hquiet]
      exact hletters

/-- An argument that is not an option with its value behind it, before what it was and after. -/
theorem sameButLogging_quieted {arg : Bytes} (hescape : arg ≠ [dash, dash]) (hnext : ¬takesNext arg)
    {args args' : List Bytes} (h : ∀ place, (split place args).SameButLogging (split place args'))
    (place : Option FileRole) : (split place (arg :: args)).SameButLogging (split place (quieted arg ++ args')) := by
  by_cases hletters : isLetters arg
  · exact sameButLogging_letters hletters h place
  by_cases hflag : arg = long Flag.verbose.name ∨ arg = long Flag.jsonLogs.name
  · rw [quieted, if_pos hflag]
    rcases hflag with rfl | rfl <;> rw [split_flag] <;> exact .skip rfl (h place)
  · rw [quieted, if_neg hflag, if_neg hletters, List.singleton_append]
    cases kind_of_arg arg with
    | escape harg => exact absurd harg hescape
    | value harg =>
      rw [split_value harg, split_value harg]
      exact .placeFile h
    | letters harg => exact absurd harg hletters
    | next o harg => exact absurd (harg ▸ takesNext_long o) hnext
    | whole item harg =>
      rw [harg, harg]
      exact .cons item (h place)
    | misplaced e harg =>
      rw [harg, harg]
      exact .stop e e

/-- Taking the log flags out takes them out of the items, and nothing else. -/
theorem split_withoutLogging (place : Option FileRole) (args : List Bytes) :
    (split place args).SameButLogging (split place (withoutLogging args)) := by
  fun_induction withoutLogging args generalizing place with
  | case1 => exact .refl _
  | case2 args => exact .refl _
  | case3 arg => exact .refl _
  | case4 arg _ hnext v rest hv ih =>
    obtain ⟨o, rfl⟩ := exists_of_takesNext hnext
    rw [split_next_cons, split_next_cons, if_pos hv, if_pos hv]
    exact .cons _ (ih place)
  | case5 arg => exact .refl _
  | case6 arg args hescape hnext ih => exact sameButLogging_quieted hescape hnext ih place

end AlloyGrade.CommandLine
