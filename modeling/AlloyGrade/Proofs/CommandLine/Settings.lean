import AlloyGrade.CommandLine.Program
import AlloyGrade.Proofs.CommandLine.Split
import AlloyGrade.Proofs.Except
import Mathlib.Data.List.Basic

/-! Reading settings from an argument vector and an environment. The files that are read are the positional
arguments, an inquiry comes from an argument that asks, and the log flags have no part in the other settings. -/

namespace AlloyGrade.CommandLine

/-! ### Files -/

namespace Given

/-- The files of the settings, after another one has been named. -/
def named (files : Option Path × Option Path) : FileRole × Bytes → Option Path × Option Path
  | (.original, bytes) => (some ⟨bytes⟩, files.2)
  | (.generated, bytes) => (files.1, some ⟨bytes⟩)

def files (g : Given) : Option Path × Option Path := (g.original, g.generated)

theorem files_set {g g' : Given} {o : ValueOption} {value : Bytes} (h : g.set o value = .ok g') :
    g'.files = g.files := by
  cases o <;> simp only [set, bind, Except.bind, pure, Except.pure] at h <;> split at h <;> cases h <;> rfl

theorem files_take {g g' : Given} {item : Item} (h : g.take item = .ok g') :
    g'.files = (item.file?.map (named g.files)).getD g.files := by
  cases item with
  | option o value attached =>
    cases value with
    | none => cases h
    | some value =>
      rw [take] at h
      split_ifs at h
      cases hset : g.set o value with
      | error e => simp [hset, usage] at h
      | ok set =>
        obtain rfl : set = g' := by simpa [hset, usage] using h
        exact files_set hset
  | flag f =>
    rw [take] at h
    split_ifs at h
    cases h
    cases f <;> rfl
  | file r bytes =>
    rw [take, pathValue] at h
    split_ifs at h with hempty
    · cases h
    · cases h
      cases r <;> rfl
  | inquiry i => cases h

theorem files_items {g g' : Given} {items : List Item} (h : items.foldlM take g = .ok g') :
    g'.files = (items.filterMap Item.file?).foldl named g.files := by
  rw [List.foldl_filterMap]
  refine view_of_foldlM files _ (fun {g item g'} htake => ?_) h
  rw [files_take htake]
  cases item.file? <;> rfl

theorem files_fill {env : Environment} {g g' : Given} {o : ValueOption} (h : g.fill env o = .ok g') :
    g'.files = g.files := by
  rw [fill] at h
  split_ifs at h
  · cases h
    rfl
  · split at h
    · exact files_set h
    · cases h
      rfl

theorem files_options {env : Environment} {g g' : Given} {options : List ValueOption}
    (h : options.foldlM (fill env) g = .ok g') : g'.files = g.files := by
  rw [view_of_foldlM files (fun files _ => files) files_fill h, List.foldl_fixed]

end Given

/-- What is read from an argument vector that is accepted. -/
theorem items_of_ofArgs {args : List Bytes} {g : Given} (h : Given.ofArgs args = .ok g) :
    (split (some .original) args).fault = none ∧
      (split (some .original) args).items.foldlM Given.take .nothing = .ok g := by
  obtain ⟨taken, htaken, hrest⟩ := bind_eq_ok_iff.mp h
  cases hfault : (split (some .original) args).fault with
  | some e => simp [hfault] at hrest
  | none =>
    rw [hfault] at hrest
    cases hrest
    rw [Split.examined, hfault] at htaken
    exact ⟨rfl, htaken⟩

theorem usage_eq_ok_iff {α : Type} {x : Except UsageError α} {a : α} : usage x = .ok a ↔ x = .ok a := by
  cases x <;> simp [usage]

theorem usage_ne_inquiry {α : Type} {x : Except UsageError α} {i : Inquiry} : usage x ≠ .error (.inquiry i) := by
  cases x <;> simp [usage]

theorem files_of_read {env : Environment} {args : List Bytes} {s : Settings} (h : read env args = .ok s) :
    s.given.files = (some s.original, some s.generated) := by
  obtain ⟨g, -, hrest⟩ := bind_eq_ok_iff.mp h
  obtain ⟨filled, -, hrest⟩ := bind_eq_ok_iff.mp hrest
  split at hrest <;> cases hrest
  rename_i ho hg
  exact Prod.ext ho hg

/-- An accepted argument vector has two positional arguments, the original and the generated model. -/
theorem positionals_of_read {env : Environment} {args : List Bytes} {s : Settings} (h : read env args = .ok s) :
    positionals args = [s.original.bytes, s.generated.bytes] := by
  have hread := files_of_read h
  obtain ⟨g, hargs, hrest⟩ := bind_eq_ok_iff.mp h
  obtain ⟨filled, hfill, hrest⟩ := bind_eq_ok_iff.mp hrest
  obtain rfl : filled = s.given := by
    split at hrest <;> cases hrest
    rfl
  obtain ⟨hfault, hitems⟩ := items_of_ofArgs hargs
  obtain ⟨hfits, hfiles⟩ := filled_split hfault
  rw [Given.files_options (usage_eq_ok_iff.mp hfill), Given.files_items hitems, hfiles] at hread
  -- There are two places, and each has to be filled.
  match hp : positionals args, hfits with
  | [], _ => simp [hp, Given.files, Given.nothing] at hread
  | [o], _ => simp [hp, placesFrom, Given.named, Given.files, Given.nothing] at hread
  | [o, g], _ =>
    simp only [hp, placesFrom, List.zip_cons_cons, List.zip_nil_left, List.foldl_cons, List.foldl_nil, Given.named,
      Prod.mk.injEq, Option.some.injEq] at hread
    rw [← hread.1, ← hread.2]

/-! ### Inquiries -/

theorem mem_of_mem_examined {s : Split} {item : Item} (h : item ∈ s.examined) : item ∈ s.items := by
  rw [Split.examined] at h
  split at h
  · exact h
  · split_ifs at h
    · exact List.dropLast_subset _ h
    · exact h

theorem eq_of_take_inquiry {g : Given} {item : Item} {i : Inquiry} (h : g.take item = .error (.inquiry i)) :
    item = .inquiry i := by
  cases item with
  | option o value attached =>
    cases value with
    | none => cases h
    | some value =>
      rw [Given.take] at h
      split_ifs at h
      · cases h
      · exact absurd h usage_ne_inquiry
  | flag f =>
    rw [Given.take] at h
    split_ifs at h
    cases h
  | file r bytes =>
    rcases bind_eq_error_iff.mp h with h | ⟨_, -, h⟩
    · exact absurd h usage_ne_inquiry
    · cases h
  | inquiry j =>
    cases h
    rfl

/-- Only an argument vector that asks is answered. -/
theorem asks_of_read {env : Environment} {args : List Bytes} {i : Inquiry}
    (h : read env args = .error (.inquiry i)) : asks args := by
  rcases bind_eq_error_iff.mp h with hargs | ⟨g, -, hrest⟩
  · rcases bind_eq_error_iff.mp hargs with hitems | ⟨g, -, hfault⟩
    · obtain ⟨item, hitem, g, htake⟩ := step_of_foldlM_error hitems
      exact asks_of_inquiry (eq_of_take_inquiry htake ▸ mem_of_mem_examined hitem)
    · split at hfault <;> cases hfault
  · rcases bind_eq_error_iff.mp hrest with hfill | ⟨filled, -, hrest⟩
    · exact absurd hfill usage_ne_inquiry
    · split at hrest <;> cases hrest

/-! ### Log flags -/

namespace Given

/-- The settings with other log flags. -/
def logging (g : Given) (verbose jsonLogs : Bool) : Given := { g with verbose, jsonLogs }

theorem set_logging (g : Given) (verbose jsonLogs : Bool) (o : ValueOption) (value : Bytes) :
    (g.logging verbose jsonLogs).set o value = (g.set o value).map (·.logging verbose jsonLogs) := by
  cases o <;> rw [set, set, map_bind_pure] <;> rfl

theorem has_logging (g : Given) (verbose jsonLogs : Bool) (o : ValueOption) :
    (g.logging verbose jsonLogs).has o = g.has o := by
  cases o <;> rfl

theorem usage_map {α β : Type} (x : Except UsageError α) (φ : α → β) : usage (x.map φ) = (usage x).map φ := by
  cases x <;> rfl

/-- Items that are not log flags do the same whatever log flags there are. -/
theorem take_logging (g : Given) (verbose jsonLogs : Bool) {item : Item} (h : item.isLogging = false) :
    (g.logging verbose jsonLogs).take item = (g.take item).map (·.logging verbose jsonLogs) := by
  cases item with
  | option o value attached =>
    cases value with
    | none => rfl
    | some value =>
      rw [take, take, has_logging, set_logging, usage_map]
      split_ifs <;> rfl
  | flag f =>
    cases f with
    | equivalenceOnly =>
      have hflag : (g.logging verbose jsonLogs).hasFlag .equivalenceOnly = g.hasFlag .equivalenceOnly := rfl
      rw [take, take, hflag]
      split_ifs <;> rfl
    | verbose | jsonLogs => cases h
  | file r bytes => cases r <;> rw [take, take, map_bind_pure] <;> rfl
  | inquiry i => rfl

theorem fill_logging (env : Environment) (g : Given) (verbose jsonLogs : Bool) (o : ValueOption) :
    (g.logging verbose jsonLogs).fill env o = (g.fill env o).map (·.logging verbose jsonLogs) := by
  rw [fill, fill, has_logging]
  split_ifs
  · rfl
  · split
    · exact set_logging g verbose jsonLogs o _
    · rfl

/-- A log flag is given for the first time, or it is rejected. -/
theorem take_flag_logging (g : Given) (verbose jsonLogs : Bool) {f : Flag} (h : f.isLogging) :
    (g.logging verbose jsonLogs).take (.flag f) = .error (.usage (.repeated (.flag f))) ∨
      ∃ verbose' jsonLogs', (g.logging verbose jsonLogs).take (.flag f) = .ok (g.logging verbose' jsonLogs') := by
  rw [take]
  split_ifs
  · exact .inl rfl
  · cases f with
    | equivalenceOnly => cases h
    | verbose => exact .inr ⟨true, jsonLogs, rfl⟩
    | jsonLogs => exact .inr ⟨verbose, true, rfl⟩

end Given

/-- A refusal because a log flag is given twice. -/
def Refusal.repeatsLogFlag : Refusal → Bool
  | .usage (.repeated (.flag f)) => f.isLogging
  | _ => false

/-- Unless a log flag is repeated, the items come to what they come to without log flags, but for those. -/
theorem foldlM_take_logging (items : List Item) (g : Given) (verbose jsonLogs : Bool) :
    (∃ r, items.foldlM Given.take (g.logging verbose jsonLogs) = .error r ∧ r.repeatsLogFlag) ∨
      ∃ verbose' jsonLogs', items.foldlM Given.take (g.logging verbose jsonLogs) =
        ((items.filter (!·.isLogging)).foldlM Given.take g).map (·.logging verbose' jsonLogs') := by
  induction items generalizing g verbose jsonLogs with
  | nil => exact .inr ⟨verbose, jsonLogs, rfl⟩
  | cons item items ih =>
    rw [List.foldlM_cons]
    by_cases hitem : item.isLogging
    · obtain ⟨f, rfl⟩ : ∃ f, item = .flag f := by
        cases item with
        | flag f => exact ⟨f, rfl⟩
        | option | file | inquiry => cases hitem
      rw [List.filter_cons_of_neg (by simp [hitem])]
      rcases Given.take_flag_logging g verbose jsonLogs hitem with htake | ⟨verbose', jsonLogs', htake⟩
      · exact .inl ⟨.usage (.repeated (.flag f)), by rw [htake]; rfl, hitem⟩
      · rw [htake]
        exact ih g verbose' jsonLogs'
    · rw [List.filter_cons_of_pos (by simp [hitem]), List.foldlM_cons,
        Given.take_logging g verbose jsonLogs (by simpa using hitem)]
      cases g.take item with
      | error r => exact .inr ⟨verbose, jsonLogs, rfl⟩
      | ok taken => exact ih taken verbose jsonLogs

/-- What the items of a split come to. -/
def Split.settled (s : Split) : Except Refusal Given := do
  let g ← s.examined.foldlM Given.take Given.nothing
  match s.fault with
  | some e => throw (.usage e)
  | none => return g

theorem ofArgs_eq_settled (args : List Bytes) : Given.ofArgs args = (split (some .original) args).settled := rfl

theorem examined_cases (s : Split) :
    s.examined = s.items ∨ ∃ item, item.isOpen ∧ s.items = s.examined ++ [item] := by
  rw [Split.examined]
  split
  · exact .inl rfl
  · split_ifs with hopen
    · cases hlast : s.items.getLast? with
      | none => simp [hlast] at hopen
      | some item =>
        rw [hlast] at hopen
        exact .inr ⟨item, hopen, (List.dropLast_append_getLast? item hlast).symm⟩
    · exact .inl rfl

theorem not_isLogging_of_isOpen {item : Item} (h : item.isOpen) : item.isLogging = false := by
  cases item with
  | option | file => rfl
  | flag | inquiry => cases h

/-- What a split comes to, given what its items come to without the log flags. -/
inductive Comes (faulty : Bool) (quiet : Except Refusal Given) : Except Refusal Given → Prop
  | settings {g : Given} (verbose jsonLogs : Bool) (hfault : faulty = false) (hquiet : quiet = .ok g) :
      Comes faulty quiet (.ok (g.logging verbose jsonLogs))
  | inquiry {i : Inquiry} (hquiet : quiet = .error (.inquiry i)) : Comes faulty quiet (.error (.inquiry i))
  | usage (e : UsageError) (hwhy : faulty = true ∨ ∃ e', quiet = .error (.usage e'))
      (hquiet : ∀ i, quiet ≠ .error (.inquiry i)) : Comes faulty quiet (.error (.usage e))

/-- What the items of a split come to without the log flags. -/
def Split.quiet (s : Split) : Except Refusal Given := (s.items.filter (!·.isLogging)).foldlM Given.take .nothing

/-- An item that is not looked at can only be a usage error. -/
theorem quiet_of_examined (s : Split) {quiet : Except Refusal Given}
    (h : (s.examined.filter (!·.isLogging)).foldlM Given.take .nothing = quiet) :
    (∀ r, quiet = .error r → s.quiet = .error r) ∧
      (∀ g, quiet = .ok g → (s.fault = none → s.quiet = .ok g) ∧ ∀ i, s.quiet ≠ .error (.inquiry i)) := by
  rcases examined_cases s with hsame | ⟨item, hopen, hitems⟩
  · rw [hsame] at h
    have hquiet : s.quiet = quiet := h
    refine ⟨fun r hr => hquiet.trans hr, fun g hg => ⟨fun _ => hquiet.trans hg, fun i hi => ?_⟩⟩
    rw [hquiet, hg] at hi
    cases hi
  · -- The last item is left out; it is an option or a file, so it makes no inquiry.
    have hlast : s.quiet = quiet >>= fun g => g.take item := by
      rw [Split.quiet, hitems, List.filter_append, List.foldlM_append, h]
      simp [not_isLogging_of_isOpen hopen]
    constructor
    · rintro r rfl
      exact hlast
    · rintro g rfl
      constructor
      · intro hfault
        simp [Split.examined, hfault] at hitems
      · intro i hi
        rw [hlast] at hi
        rw [eq_of_take_inquiry hi] at hopen
        cases hopen

/-- Unless it repeats a log flag, a split comes to what it comes to without them. -/
theorem settled_cases (s : Split) :
    (∃ r, s.settled = .error r ∧ r.repeatsLogFlag) ∨ Comes s.fault.isSome s.quiet s.settled := by
  have hnothing : Given.nothing = Given.nothing.logging false false := rfl
  rw [Split.settled]
  rcases foldlM_take_logging s.examined .nothing false false with ⟨r, hfold, hr⟩ | ⟨verbose, jsonLogs, hfold⟩
  · left
    rw [← hnothing] at hfold
    exact ⟨r, by rw [hfold]; rfl, hr⟩
  · right
    rw [← hnothing] at hfold
    rw [hfold]
    cases hexamined : (s.examined.filter (!·.isLogging)).foldlM Given.take .nothing with
    | error r =>
      have hquiet := (quiet_of_examined s hexamined).1 r rfl
      cases r with
      | inquiry i => exact .inquiry hquiet
      | usage e => exact .usage e (.inr ⟨e, hquiet⟩) fun i hi => by rw [hquiet] at hi; cases hi
    | ok g =>
      obtain ⟨hsettings, hinquiry⟩ := (quiet_of_examined s hexamined).2 g rfl
      cases hfault : s.fault with
      | none => exact .settings verbose jsonLogs rfl (hsettings hfault)
      | some e => exact .usage e (.inl rfl) hinquiry

/-- Two answers to a command line: related settings, the same inquiry, or a usage error each. -/
inductive Agree {α : Type} (R : α → α → Prop) : Except Refusal α → Except Refusal α → Prop
  | ok {a b : α} (h : R a b) : Agree R (.ok a) (.ok b)
  | inquiry (i : Inquiry) : Agree R (.error (.inquiry i)) (.error (.inquiry i))
  | usage (e e' : UsageError) : Agree R (.error (.usage e)) (.error (.usage e'))

theorem Agree.bind {α β : Type} {R : α → α → Prop} {S : β → β → Prop} {x y : Except Refusal α}
    {f g : α → Except Refusal β} (h : Agree R x y) (hf : ∀ a b, R a b → Agree S (f a) (g b)) :
    Agree S (x >>= f) (y >>= g) := by
  cases h with
  | ok h => exact hf _ _ h
  | inquiry i => exact .inquiry i
  | usage e e' => exact .usage e e'

/-- Settings that differ in log flags at most. -/
def Given.SameButLogging (g h : Given) : Prop := ∃ verbose jsonLogs, h = g.logging verbose jsonLogs

theorem Comes.agree {faulty : Bool} {quiet x y : Except Refusal Given} (hx : Comes faulty quiet x)
    (hy : Comes faulty quiet y) : Agree Given.SameButLogging x y := by
  cases hx with
  | settings verbose jsonLogs hfault hquiet =>
    cases hy with
    | settings verbose' jsonLogs' _ hquiet' =>
      cases hquiet.symm.trans hquiet'
      exact .ok ⟨verbose', jsonLogs', rfl⟩
    | inquiry hquiet' => cases hquiet.symm.trans hquiet'
    | usage e hwhy =>
      rcases hwhy with hfaulty | ⟨e', hquiet'⟩
      · cases hfault.symm.trans hfaulty
      · cases hquiet.symm.trans hquiet'
  | inquiry hquiet =>
    cases hy with
    | settings _ _ _ hquiet' => cases hquiet.symm.trans hquiet'
    | inquiry hquiet' =>
      cases hquiet.symm.trans hquiet'
      exact .inquiry _
    | usage e _ hno => exact absurd hquiet (hno _)
  | usage e hwhy hno =>
    cases hy with
    | settings _ _ hfault hquiet =>
      rcases hwhy with hfaulty | ⟨e', hquiet'⟩
      · cases hfault.symm.trans hfaulty
      · cases hquiet.symm.trans hquiet'
    | inquiry hquiet => exact absurd hquiet (hno _)
    | usage e' => exact .usage e e'

/-- Two splits with the same items but for log flags come to the same, unless one of them repeats a log flag. -/
theorem Split.SameButLogging.agree {s t : Split} (h : s.SameButLogging t)
    (hs : ∀ r, s.settled = .error r → r.repeatsLogFlag = false)
    (ht : ∀ r, t.settled = .error r → r.repeatsLogFlag = false) : Agree Given.SameButLogging s.settled t.settled := by
  have hquiet : s.quiet = t.quiet := by rw [Split.quiet, Split.quiet, h.items]
  rcases settled_cases s with ⟨r, hr, hrepeats⟩ | hcomes
  · exact absurd hrepeats (by simp [hs r hr])
  rcases settled_cases t with ⟨r, hr, hrepeats⟩ | hcomes'
  · exact absurd hrepeats (by simp [ht r hr])
  rw [← hquiet, ← h.fault] at hcomes'
  exact hcomes.agree hcomes'

/-! ### The whole command line -/

/-- Environments that differ in the log filter at most. -/
def Environment.SameButFilter (env env' : Environment) : Prop :=
  ∀ name, name ≠ filterVariable → env.get? name = env'.get? name

theorem get?_envVariable {env env' : Environment} (h : env.SameButFilter env') (o : ValueOption) :
    o.envVariable.bind env.get? = o.envVariable.bind env'.get? := by
  cases o with
  | format => rfl
  | java | toolsDir | scope | solver | timeoutSecs | workdir => exact h _ (by decide)

theorem Given.fill_sameButFilter {env env' : Environment} (h : env.SameButFilter env') :
    Given.fill env = Given.fill env' := by
  funext g o
  rw [fill, fill, get?_envVariable h o]

/-- Settings that differ in log flags at most. -/
structure Settings.SameButLogging (s t : Settings) : Prop where
  original : s.original = t.original
  generated : s.generated = t.generated
  given : s.given.SameButLogging t.given

theorem agree_fill (env : Environment) {g h : Given} (hgh : g.SameButLogging h) :
    Agree Given.SameButLogging (usage (ValueOption.all.foldlM (Given.fill env) g))
      (usage (ValueOption.all.foldlM (Given.fill env) h)) := by
  obtain ⟨verbose, jsonLogs, rfl⟩ := hgh
  rw [foldlM_map fun o _ g => Given.fill_logging env g verbose jsonLogs o]
  cases ValueOption.all.foldlM (Given.fill env) g with
  | error e => exact .usage e e
  | ok filled => exact .ok ⟨verbose, jsonLogs, rfl⟩

/-- The log flags and the log filter have no part in what is read. -/
theorem agree_read {env env' : Environment} {args args' : List Bytes} (henv : env.SameButFilter env')
    (hargs : withoutLogging args = withoutLogging args')
    (h : ∀ r, read env args = .error r → r.repeatsLogFlag = false)
    (h' : ∀ r, read env' args' = .error r → r.repeatsLogFlag = false) :
    Agree Settings.SameButLogging (read env args) (read env' args') := by
  have hsplit : (split (some .original) args).SameButLogging (split (some .original) args') := by
    have hquiet := split_withoutLogging (some .original) args
    have hquiet' := split_withoutLogging (some .original) args'
    rw [← hargs] at hquiet'
    exact ⟨hquiet.items.trans hquiet'.items.symm, hquiet.fault.trans hquiet'.fault.symm⟩
  have hgiven : Agree Given.SameButLogging (Given.ofArgs args) (Given.ofArgs args') := by
    rw [ofArgs_eq_settled, ofArgs_eq_settled]
    refine hsplit.agree (fun r hr => h r ?_) fun r hr => h' r ?_
    · exact bind_eq_error_iff.mpr (.inl hr)
    · exact bind_eq_error_iff.mpr (.inl hr)
  refine hgiven.bind fun g g' hg => ?_
  rw [← Given.fill_sameButFilter henv]
  refine (agree_fill env hg).bind fun filled filled' hfilled => ?_
  obtain ⟨verbose, jsonLogs, rfl⟩ := hfilled
  have hfiles : (filled.logging verbose jsonLogs).original = filled.original ∧
    (filled.logging verbose jsonLogs).generated = filled.generated := ⟨rfl, rfl⟩
  rw [hfiles.1, hfiles.2]
  cases filled.original <;> cases filled.generated
  · exact .usage _ _
  · exact .usage _ _
  · exact .usage _ _
  · exact .ok ⟨rfl, rfl, verbose, jsonLogs, rfl⟩

end AlloyGrade.CommandLine
