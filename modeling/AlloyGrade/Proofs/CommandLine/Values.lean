import AlloyGrade.Proofs.CommandLine.Settings

/-! The values of options. Settings are a store with a place for each option; what an item writes there depends on the
item alone, and items for different places can be taken in either order. -/

namespace AlloyGrade.CommandLine

/-! ### Numerals -/

/-- The number that decimal digits spell behind the digits of another one. -/
def decimal (ds : Bytes) (n : Nat) : Nat := ds.foldl (fun n b => 10 * n + (b.toNat - 48)) n

structure IsDigits (ds : Bytes) : Prop where
  ne_nil : ds ≠ []
  digits : ∀ b ∈ ds, 0x30 ≤ b ∧ b ≤ 0x39

/-- A number in decimal digits, with or without a sign. -/
inductive Spells : Bytes → Int → Prop
  | unsigned {ds : Bytes} (h : IsDigits ds) : Spells ds (decimal ds 0)
  | plus {ds : Bytes} (h : IsDigits ds) : Spells (Number.plus :: ds) (decimal ds 0)
  | minus {ds : Bytes} (h : IsDigits ds) : Spells (Number.minus :: ds) (-(decimal ds 0 : Nat))

theorem IsDigits.head_ne {b : UInt8} {ds : Bytes} (h : IsDigits (b :: ds)) : b ≠ Number.plus ∧ b ≠ Number.minus := by
  have hb := h.digits b (.head _)
  constructor
  · rintro rfl
    exact absurd hb (by decide)
  · rintro rfl
    exact absurd hb (by decide)

/-- A text spells one number at most. -/
theorem Spells.unique {v : Bytes} {m n : Int} (hm : Spells v m) (hn : Spells v n) : m = n := by
  cases hm with
  | unsigned h =>
    cases hn with
    | unsigned _ => rfl
    | plus _ => exact absurd rfl h.head_ne.1
    | minus _ => exact absurd rfl h.head_ne.2
  | plus h =>
    cases hn with
    | unsigned h' => exact absurd rfl h'.head_ne.1
    | plus _ => rfl
  | minus h =>
    cases hn with
    | unsigned h' => exact absurd rfl h'.head_ne.2
    | minus _ => rfl

namespace Number

theorem digit?_eq_some {b : UInt8} {d : Nat} (h : digit? b = some d) : (0x30 ≤ b ∧ b ≤ 0x39) ∧ d = b.toNat - 48 := by
  rw [digit?] at h
  split_ifs at h with hb
  cases h
  simpa using hb

/-- Digits that are read are digits, and their number is within the limit. -/
theorem digits_eq_ok {limit n m : Nat} {overflow : NumberFault} {ds : Bytes} (hn : n ≤ limit)
    (h : digits limit overflow ds n = .ok m) : (∀ b ∈ ds, 0x30 ≤ b ∧ b ≤ 0x39) ∧ m = decimal ds n ∧ m ≤ limit := by
  fun_induction digits limit overflow ds n with
  | case1 n =>
    cases h
    exact ⟨nofun, rfl, hn⟩
  | case2 => cases h
  | case3 => cases h
  | case4 n b rest d hd hlimit ih =>
    obtain ⟨hrest, hm, hle⟩ := ih (Nat.le_of_not_lt hlimit) h
    obtain ⟨hb, rfl⟩ := digit?_eq_some hd
    exact ⟨List.forall_mem_cons.mpr ⟨hb, hrest⟩, hm, hle⟩

theorem spells_of_natural {limit n : Nat} {v : Bytes} (h : natural limit v = .ok n) : Spells v n ∧ n ≤ limit := by
  cases v with
  | nil => cases h
  | cons first rest =>
    rw [natural] at h
    split_ifs at h with hplus
    · simp only [Bool.and_eq_true, decide_eq_true_eq, Bool.not_eq_true', List.isEmpty_eq_false_iff] at hplus
      obtain ⟨hdigits, rfl, hle⟩ := digits_eq_ok (Nat.zero_le _) h
      rw [hplus.1]
      exact ⟨.plus ⟨hplus.2, hdigits⟩, hle⟩
    · obtain ⟨hdigits, rfl, hle⟩ := digits_eq_ok (Nat.zero_le _) h
      exact ⟨.unsigned ⟨nofun, hdigits⟩, hle⟩

theorem spells_of_integer {n : Int} {v : Bytes} (h : integer v = .ok n) : Spells v n := by
  cases v with
  | nil => cases h
  | cons first rest =>
    rw [integer] at h
    split_ifs at h with hminus
    · simp only [Bool.and_eq_true, decide_eq_true_eq, Bool.not_eq_true', List.isEmpty_eq_false_iff] at hminus
      cases hd : digits (Nat.pow 2 63) .tooSmall rest 0 with
      | error e => simp [hd, Except.map] at h
      | ok m =>
        obtain ⟨hdigits, rfl, -⟩ := digits_eq_ok (Nat.zero_le _) hd
        rw [hd] at h
        cases h
        rw [hminus.1]
        exact .minus ⟨hminus.2, hdigits⟩
    · cases hd : natural (Nat.pow 2 63 - 1) (first :: rest) with
      | error e => simp [hd, Except.map] at h
      | ok m =>
        rw [hd] at h
        cases h
        exact (spells_of_natural hd).1

/-- A scope is the number that its text spells. -/
theorem spells_of_scope {n : UInt32} {v : Bytes} (h : scope v = .ok n) : Spells v n.toNat := by
  obtain ⟨m, hm, h⟩ := bind_eq_ok_iff.mp h
  split_ifs at h with hrange
  cases h
  obtain ⟨k, rfl⟩ := Int.eq_ofNat_of_zero_le hrange.1
  have hk : (k : Int) < 4294967296 := hrange.2
  have hsame : (UInt32.ofNat k).toNat = k := UInt32.toNat_ofNat_of_lt' (by simp only [UInt32.size]; omega)
  rw [Int.toNat_natCast, hsame]
  exact spells_of_integer hm

/-- A limit is the number that its text spells, and is not zero. -/
theorem spells_of_seconds {n : UInt64} {v : Bytes} (h : seconds v = .ok n) : Spells v n.toNat ∧ 1 ≤ n := by
  obtain ⟨m, hm, h⟩ := bind_eq_ok_iff.mp h
  split_ifs at h with hzero
  cases h
  obtain ⟨hspells, hlimit⟩ := spells_of_natural hm
  have hlt : m < 18446744073709551616 := by
    have hpow : Nat.pow 2 64 - 1 = 18446744073709551615 := by decide
    omega
  have hsame : (UInt64.ofNat m).toNat = m := UInt64.toNat_ofNat_of_lt' (by simp only [UInt64.size]; omega)
  refine ⟨by rw [hsame]; exact hspells, UInt64.le_iff_toNat_le.mpr ?_⟩
  rw [hsame]
  exact Nat.pos_of_ne_zero hzero

end Number

/-! ### The store -/

/-- What the value of an option is read as. -/
def ValueOption.Setting : ValueOption → Type
  | .format => OutputFormat
  | .java | .toolsDir | .workdir => Path
  | .scope => UInt32
  | .solver => String
  | .timeoutSecs => UInt64

def ValueOption.setting : (o : ValueOption) → Bytes → Except UsageError o.Setting
  | .format => formatValue
  | .java => pathValue (.option .java)
  | .toolsDir => pathValue (.option .toolsDir)
  | .scope => numberValue .scope Number.scope
  | .solver => textValue
  | .timeoutSecs => numberValue .timeoutSecs Number.seconds
  | .workdir => pathValue (.option .workdir)

namespace Given

def get? (g : Given) : (o : ValueOption) → Option o.Setting
  | .format => g.format
  | .java => g.java
  | .toolsDir => g.toolsDir
  | .scope => g.scope
  | .solver => g.solver
  | .timeoutSecs => g.timeoutSecs
  | .workdir => g.workdir

def put (g : Given) : (o : ValueOption) → o.Setting → Given
  | .format, format => { g with format := some format }
  | .java, java => { g with java := some java }
  | .toolsDir, toolsDir => { g with toolsDir := some toolsDir }
  | .scope, scope => { g with scope := some scope }
  | .solver, solver => { g with solver := some solver }
  | .timeoutSecs, timeoutSecs => { g with timeoutSecs := some timeoutSecs }
  | .workdir, workdir => { g with workdir := some workdir }

variable (g : Given) {o o' : ValueOption}

theorem set_eq (o : ValueOption) (v : Bytes) : g.set o v = (o.setting v).map (g.put o) := by
  cases o <;> rw [set, map_eq_bind] <;> rfl

theorem has_eq (o : ValueOption) : g.has o = (g.get? o).isSome := by
  cases o <;> rfl

theorem get?_put_self (x : o.Setting) : (g.put o x).get? o = some x := by
  cases o <;> rfl

theorem get?_put_of_ne (x : o.Setting) (h : o' ≠ o) : (g.put o x).get? o' = g.get? o' := by
  cases o <;> cases o' <;> trivial

theorem put_comm (x : o.Setting) (y : o'.Setting) (h : o' ≠ o) : (g.put o x).put o' y = (g.put o' y).put o x := by
  cases o <;> cases o' <;> trivial

theorem hasFlag_put (x : o.Setting) (f : Flag) : (g.put o x).hasFlag f = g.hasFlag f := by
  cases o <;> rfl

theorem get?_setFlag (f : Flag) (o : ValueOption) : (g.setFlag f).get? o = g.get? o := by
  cases f <;> rfl

theorem get?_setFile (r : FileRole) (p : Path) (o : ValueOption) : (g.setFile r p).get? o = g.get? o := by
  cases r <;> rfl

theorem hasFlag_setFile (r : FileRole) (p : Path) (f : Flag) : (g.setFile r p).hasFlag f = g.hasFlag f := by
  cases r <;> rfl

theorem hasFlag_setFlag (f f' : Flag) : (g.setFlag f).hasFlag f' = (f' == f || g.hasFlag f') := by
  cases f <;> cases f' <;> rfl

end Given

/-! ### Items -/

/-- What an item writes, wherever it is taken. -/
inductive Item.Writes : Item → (Given → Given) → Prop
  | option {o : ValueOption} {v : Bytes} {attached : Bool} {x : o.Setting} (h : o.setting v = .ok x) :
      Writes (.option o (some v) attached) (·.put o x)
  | flag (f : Flag) : Writes (.flag f) (·.setFlag f)
  | file {r : FileRole} {bytes : Bytes} (h : bytes.isEmpty = false) : Writes (.file r bytes) (·.setFile r ⟨bytes⟩)

/-- There is room for an item. Files are never in the way of each other. -/
def Given.Lacks (g : Given) : Item → Prop
  | .option o _ _ => g.get? o = none
  | .flag f => g.hasFlag f = false
  | .file .. | .inquiry _ => True

/-- An item is taken if it can be read and there is room for it. -/
theorem Given.take_eq_ok_iff {g g' : Given} {item : Item} :
    g.take item = .ok g' ↔ g.Lacks item ∧ ∃ w, item.Writes w ∧ g' = w g := by
  constructor
  · intro h
    cases item with
    | option o value attached =>
      cases value with
      | none => cases h
      | some v =>
        rw [take, has_eq, set_eq] at h
        split_ifs at h with hhas
        cases hx : o.setting v with
        | error e =>
          rw [hx] at h
          cases h
        | ok x =>
          rw [hx] at h
          cases h
          exact ⟨by simpa [Lacks] using hhas, _, .option hx, rfl⟩
    | flag f =>
      rw [take] at h
      split_ifs at h with hhas
      cases h
      exact ⟨by simpa [Lacks] using hhas, _, .flag f, rfl⟩
    | file r bytes =>
      rw [take, pathValue] at h
      split_ifs at h with hempty
      · cases h
      · cases h
        exact ⟨trivial, _, .file (by simpa using hempty), rfl⟩
    | inquiry i => cases h
  · rintro ⟨hlacks, w, hw, rfl⟩
    cases hw with
    | option hx =>
      have hfree : g.get? _ = none := hlacks
      rw [take, has_eq, hfree, set_eq, hx]
      rfl
    | flag f =>
      have hfree : g.hasFlag f = false := hlacks
      rw [take, hfree]
      rfl
    | file hbytes =>
      rw [take, pathValue, hbytes]
      rfl

/-- Items that are not two files for one place. -/
def Item.Apart (i j : Item) : Prop := ∀ r bytes bytes', i = .file r bytes → j ≠ .file r bytes'

theorem Item.Apart.symm {i j : Item} (h : i.Apart j) : j.Apart i :=
  fun r bytes bytes' hj hi => h r bytes' bytes hi hj

/-- If there is room for `j` behind `i`, there is room for `i` behind `j`, and it comes to the same. -/
theorem Item.Writes.swap {i j : Item} {w u : Given → Given} {g : Given} (hi : i.Writes w) (hj : j.Writes u)
    (hapart : i.Apart j) (hlacks : g.Lacks i) (hlacks' : (w g).Lacks j) :
    g.Lacks j ∧ (u g).Lacks i ∧ u (w g) = w (u g) := by
  cases hi with
  | option hx =>
    rename_i o v attached x
    cases hj with
    | option hy =>
      rename_i o' v' attached' y
      have hfree : (g.put o x).get? o' = none := hlacks'
      by_cases ho : o' = o
      · subst ho
        simp [Given.get?_put_self] at hfree
      · refine ⟨?_, ?_, g.put_comm x y ho⟩
        · rwa [Given.get?_put_of_ne g x ho] at hfree
        · exact (g.get?_put_of_ne y (Ne.symm ho)).trans hlacks
    | flag f =>
      refine ⟨(g.hasFlag_put x f).symm.trans hlacks', (g.get?_setFlag f o).trans hlacks, ?_⟩
      cases o <;> cases f <;> rfl
    | file hbytes =>
      rename_i r bytes
      refine ⟨trivial, (g.get?_setFile r ⟨bytes⟩ o).trans hlacks, ?_⟩
      cases o <;> cases r <;> rfl
  | flag f =>
    cases hj with
    | option hy =>
      rename_i o v attached y
      refine ⟨(g.get?_setFlag f o).symm.trans hlacks', (g.hasFlag_put y f).trans hlacks, ?_⟩
      cases o <;> cases f <;> rfl
    | flag f' =>
      have hfree : (f' == f || g.hasFlag f') = false := (g.hasFlag_setFlag f f').symm.trans hlacks'
      obtain ⟨hne, hfree⟩ := Bool.or_eq_false_iff.mp hfree
      refine ⟨hfree, ?_, ?_⟩
      · exact (g.hasFlag_setFlag f' f).trans (Bool.or_eq_false_iff.mpr ⟨by rw [BEq.comm]; exact hne, hlacks⟩)
      · cases f <;> cases f' <;> rfl
    | file hbytes =>
      rename_i r bytes
      refine ⟨trivial, (g.hasFlag_setFile r ⟨bytes⟩ f).trans hlacks, ?_⟩
      cases f <;> cases r <;> rfl
  | file hbytes =>
    rename_i r bytes
    cases hj with
    | option hy =>
      rename_i o v attached y
      refine ⟨(g.get?_setFile r ⟨bytes⟩ o).symm.trans hlacks', trivial, ?_⟩
      cases o <;> cases r <;> rfl
    | flag f =>
      refine ⟨(g.hasFlag_setFile r ⟨bytes⟩ f).symm.trans hlacks', trivial, ?_⟩
      cases f <;> cases r <;> rfl
    | file hbytes' =>
      rename_i r' bytes'
      refine ⟨trivial, trivial, ?_⟩
      cases r <;> cases r'
      · exact absurd rfl (hapart _ _ _ rfl)
      · rfl
      · rfl
      · exact absurd rfl (hapart _ _ _ rfl)

/-- Items that are accepted in some order are accepted in every order, and come to the same. -/
theorem foldlM_take_perm {items items' : List Item} (hperm : items.Perm items') (hapart : items.Pairwise Item.Apart)
    {g g' : Given} (h : items.foldlM Given.take g = .ok g') : items'.foldlM Given.take g = .ok g' := by
  induction hperm generalizing g with
  | nil => exact h
  | cons item _ ih =>
    rw [List.foldlM_cons] at h ⊢
    obtain ⟨next, htake, hrest⟩ := bind_eq_ok_iff.mp h
    exact bind_eq_ok_iff.mpr ⟨next, htake, ih (List.pairwise_cons.mp hapart).2 hrest⟩
  | swap i j items =>
    rw [List.foldlM_cons] at h
    obtain ⟨first, hfirst, h⟩ := bind_eq_ok_iff.mp h
    rw [List.foldlM_cons] at h
    obtain ⟨second, hsecond, hrest⟩ := bind_eq_ok_iff.mp h
    obtain ⟨hlacks, w, hw, rfl⟩ := Given.take_eq_ok_iff.mp hfirst
    obtain ⟨hlacks', u, hu, rfl⟩ := Given.take_eq_ok_iff.mp hsecond
    obtain ⟨hi, hj, hsame⟩ := hw.swap hu ((List.pairwise_cons.mp hapart).1 i (.head _)) hlacks hlacks'
    rw [List.foldlM_cons]
    refine bind_eq_ok_iff.mpr ⟨u g, Given.take_eq_ok_iff.mpr ⟨hi, u, hu, rfl⟩, ?_⟩
    rw [List.foldlM_cons]
    exact bind_eq_ok_iff.mpr ⟨_, Given.take_eq_ok_iff.mpr ⟨hj, w, hw, hsame⟩, hrest⟩
  | trans hperm _ ih ih' =>
    exact ih' ((hperm.pairwise_iff Item.Apart.symm).mp hapart) (ih hapart h)

/-! ### Where a setting comes from -/

/-- The value that an item has for an option. -/
def Item.value? (o : ValueOption) : Item → Option Bytes
  | .option o' value _ => if o' = o then value else none
  | .flag _ | .file .. | .inquiry _ => none

/-- The settings hold what a value is read as, and nothing if there is no value. -/
def Given.Holds (g : Given) (o : ValueOption) (value : Option Bytes) : Prop :=
  value.map o.setting = (g.get? o).map .ok

namespace Given.Holds

variable {g g' : Given} {o : ValueOption} {value : Option Bytes}

theorem eq_none_iff (h : g.Holds o value) : value = none ↔ g.get? o = none := by
  rw [← Option.map_eq_none_iff, h, Option.map_eq_none_iff]

theorem setting_of_some {v : Bytes} (h : g.Holds o (some v)) : ∃ x, g.get? o = some x ∧ o.setting v = .ok x := by
  obtain ⟨x, hx, hv⟩ := Option.map_eq_some_iff.mp h.symm
  exact ⟨x, hx, hv.symm⟩

theorem congr (h : g.Holds o value) (hget : g'.get? o = g.get? o) : g'.Holds o value := by
  rw [Holds, hget]
  exact h

theorem put {v : Bytes} {x : o.Setting} (hx : o.setting v = .ok x) : (g.put o x).Holds o (some v) := by
  rw [Holds, get?_put_self, Option.map_some, Option.map_some, hx]

theorem writes {i : Item} {w : Given → Given} (h : g.Holds o value) (hw : i.Writes w) (hlacks : g.Lacks i) :
    (w g).Holds o (value.or (i.value? o)) := by
  cases hw with
  | option hx =>
    rename_i o' v attached x
    by_cases ho : o' = o
    · subst ho
      rw [h.eq_none_iff.mpr hlacks, Item.value?, if_pos rfl, Option.none_or]
      exact .put hx
    · rw [Item.value?, if_neg ho, Option.or_none]
      exact h.congr (g.get?_put_of_ne x (Ne.symm ho))
  | flag f =>
    rw [Item.value?, Option.or_none]
    exact h.congr (g.get?_setFlag f o)
  | file hbytes =>
    rw [Item.value?, Option.or_none]
    exact h.congr (g.get?_setFile _ _ o)

/-- After some items, an option has the first value that they have for it. -/
theorem foldlM_take {items : List Item} (h : g.Holds o value) (hfold : items.foldlM take g = .ok g') :
    g'.Holds o (value.or (items.findSome? (Item.value? o))) := by
  induction items generalizing g value with
  | nil =>
    cases hfold
    rwa [List.findSome?_nil, Option.or_none]
  | cons item items ih =>
    rw [List.foldlM_cons] at hfold
    obtain ⟨next, htake, hrest⟩ := bind_eq_ok_iff.mp hfold
    obtain ⟨hlacks, w, hw, rfl⟩ := take_eq_ok_iff.mp htake
    have hitems := ih (h.writes hw hlacks) hrest
    rw [Option.or_assoc] at hitems
    rw [List.findSome?_cons]
    cases hvalue : item.value? o with
    | none => rwa [hvalue, Option.none_or] at hitems
    | some v => rwa [hvalue, Option.some_or] at hitems

variable {env : Environment}

theorem fill {o' : ValueOption} (h : g.Holds o value) (hfill : g.fill env o' = .ok g') :
    g'.Holds o (if o' = o then value.or (o.envVariable.bind env.get?) else value) := by
  rw [Given.fill, has_eq] at hfill
  split_ifs at hfill with hhas
  · cases hfill
    split_ifs with ho
    · subst ho
      cases value with
      | none => simp [h.eq_none_iff.mp rfl] at hhas
      | some v => exact h
    · exact h
  · cases henv : o'.envVariable.bind env.get? with
    | none =>
      rw [henv] at hfill
      cases hfill
      split_ifs with ho
      · subst ho
        rwa [henv, Option.or_none]
      · exact h
    | some v =>
      rw [henv] at hfill
      change g.set o' v = .ok g' at hfill
      rw [set_eq] at hfill
      cases hx : o'.setting v with
      | error e =>
        rw [hx] at hfill
        cases hfill
      | ok x =>
        rw [hx] at hfill
        cases hfill
        split_ifs with ho
        · subst ho
          have hnone : value = none := h.eq_none_iff.mpr (by simpa using hhas)
          rw [hnone, henv, Option.none_or]
          exact .put hx
        · exact h.congr (g.get?_put_of_ne x (Ne.symm ho))

/-- After some variables, an option without a value has that of its variable, if it was among them. -/
theorem foldlM_fill {options : List ValueOption} (h : g.Holds o value)
    (hfold : options.foldlM (Given.fill env) g = .ok g') :
    g'.Holds o (if o ∈ options then value.or (o.envVariable.bind env.get?) else value) := by
  induction options generalizing g value with
  | nil =>
    cases hfold
    exact h
  | cons o' options ih =>
    rw [List.foldlM_cons] at hfold
    obtain ⟨next, hfill, hrest⟩ := bind_eq_ok_iff.mp hfold
    have hnext := ih (h.fill hfill) hrest
    by_cases ho : o' = o
    · subst ho
      simpa [Option.or_assoc] using hnext
    · simpa [ho, Ne.symm ho] using hnext

end Given.Holds

theorem Given.holds_nothing (o : ValueOption) : nothing.Holds o none := by
  cases o <;> rfl

end AlloyGrade.CommandLine
