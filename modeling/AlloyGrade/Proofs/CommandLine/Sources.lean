import AlloyGrade.Proofs.CommandLine.Contract
import AlloyGrade.Proofs.CommandLine.Pieces
import AlloyGrade.Proofs.Grading.Arguments
import AlloyGrade.Proofs.Text.Utf8

/-! Where a configuration comes from. Each setting has the value of its option, else that of its variable, else its
default, whatever becomes of the others and in whatever order the command line gives them. -/

namespace AlloyGrade.CommandLine

variable {env : Environment} {pieces : List Piece} {tail : Option (List Bytes)} {s : Settings}

/-- The value that counts for an option: that of the command line, else that of the environment. -/
def selected (env : Environment) (pieces : List Piece) (o : ValueOption) : Option Bytes :=
  ((requests pieces).findSome? (Request.value? o)).or (o.envVariable.bind env.get?)

/-! ### Settings -/

theorem Laid.values {place : Option FileRole} {files : List Bytes} {split : Split}
    (h : Laid place ((requests pieces).filterMap Request.item?) files split) (hfault : split.fault = none)
    (o : ValueOption) : split.items.findSome? (Item.value? o) = (requests pieces).findSome? (Request.value? o) := by
  have hitems : split.items.filterMap (Item.value? o) =
      ((split.items.filter (!·.isFile)).map Item.closed).filterMap (Item.value? o) := by
    rw [List.filterMap_map, List.filterMap_filter]
    refine List.filterMap_congr fun item _ => ?_
    cases item <;> rfl
  have hrequests : ((requests pieces).filterMap Request.item?).filterMap (Item.value? o) =
      (requests pieces).filterMap (Request.value? o) := by
    rw [List.filterMap_filterMap]
    refine List.filterMap_congr fun request _ => ?_
    cases request <;> rfl
  rw [← List.head?_filterMap, ← List.head?_filterMap, hitems, h.others hfault, hrequests]

theorem given_of_read {args : List Bytes} (h : read env args = .ok s) :
    ∃ g, Given.ofArgs args = .ok g ∧ ValueOption.all.foldlM (Given.fill env) g = .ok s.given := by
  obtain ⟨g, hargs, hrest⟩ := bind_eq_ok_iff.mp h
  obtain ⟨filled, hfill, hrest⟩ := bind_eq_ok_iff.mp hrest
  split at hrest <;> cases hrest
  exact ⟨g, hargs, usage_eq_ok_iff.mp hfill⟩

/-- Every option has been set to the value that counts for it, and to nothing else. -/
theorem holds_selected (h : read env (line pieces tail) = .ok s) (o : ValueOption) :
    s.given.Holds o (selected env pieces o) := by
  obtain ⟨g, hargs, hfill⟩ := given_of_read h
  obtain ⟨hfault, hitems⟩ := items_of_ofArgs hargs
  have htaken := (Given.holds_nothing o).foldlM_take hitems
  rw [Option.none_or, (laid_line (some .original) pieces tail).values hfault] at htaken
  have hfilled := htaken.foldlM_fill hfill
  rwa [if_pos (by cases o <;> decide)] at hfilled

theorem read_reordered {pieces' : List Piece} (h : Reordered pieces pieces')
    (hread : read env (line pieces tail) = .ok s) : read env (line pieces' tail) = .ok s := by
  obtain ⟨g, hargs, hrest⟩ := bind_eq_ok_iff.mp hread
  exact bind_eq_ok_iff.mpr ⟨g, ofArgs_reordered h hargs, hrest⟩

theorem line_of_read {args : List Bytes} (h : read env args = .ok s) : ∃ pieces tail, args = line pieces tail := by
  obtain ⟨g, hargs, -⟩ := given_of_read h
  obtain ⟨hfault, hitems⟩ := items_of_ofArgs hargs
  exact exists_line hfault hitems

/-! ### Configurations -/

/-- A configuration in which each setting is what its value says, or its default. -/
structure Resolved (around : Surroundings) (value : ValueOption → Option Bytes) (config : Config) : Prop where
  java : config.java = ((value .java).map Path.mk).getD (.ofString Config.defaultJava)
  scope : match value .scope with
    | some v => Spells v config.scope.toNat
    | none => config.scope = Config.defaultScope
  solver : Bytes.ofString config.solver = (value .solver).getD (Bytes.ofString Config.defaultSolver)
  timeoutSecs : match value .timeoutSecs with
    | some v => Spells v config.timeoutSecs.toNat
    | none => config.timeoutSecs = Config.defaultTimeoutSecs
  artifacts : ∃ dir, config.artifacts = .inDir dir ∧
    match value .toolsDir with
    | some v => dir = ⟨v⟩
    | none => around.exeDir = .ok dir
  workdir : config.workdir = ((value .workdir).map Path.mk).getD around.cwd.path

theorem path_of_pathValue {argument : Argument} {v : Bytes} {p : Path} (h : pathValue argument v = .ok p) : p = ⟨v⟩ := by
  rw [pathValue] at h
  split_ifs at h
  cases h
  rfl

theorem octets_of_textValue {v : Bytes} {text : String} (h : textValue v = .ok text) : v = Bytes.ofString text := by
  rw [textValue] at h
  split at h <;> cases h
  rename_i hdecode
  exact Utf8.decode?_eq_some_iff.mp hdecode

theorem number_of_numberValue {α : Type} {o : ValueOption} {number : Bytes → Except NumberFault α} {v : Bytes} {n : α}
    (h : numberValue o number v = .ok n) : number v = .ok n := by
  obtain ⟨text, -, h⟩ := bind_eq_ok_iff.mp h
  cases hn : number v with
  | error e => simp [hn] at h
  | ok m =>
    rw [hn] at h
    cases h
    rfl

/-- How a configuration is made. -/
theorem configure_eq_ok {around : Surroundings} {g : Given} {fs made : FileSystem} {config : Config}
    (h : configure around g fs = (.ok config, made)) :
    ∃ toolsDir, config = g.config toolsDir (g.workdir.getD around.cwd.path) ∧
      (g.toolsDir = some toolsDir ∨ g.toolsDir = none ∧ around.exeDir = .ok toolsDir) := by
  rw [configure] at h
  split at h
  · cases h
  rename_i toolsDir htools
  split at h
  · cases h
  rename_i workdir _ hprepare
  cases h
  refine ⟨toolsDir, ?_, ?_⟩
  · rw [prepareWorkdir] at hprepare
    cases hdir : g.workdir with
    | some path =>
      rw [hdir] at hprepare
      dsimp only at hprepare
      split at hprepare <;> cases hprepare
      rfl
    | none =>
      rw [hdir] at hprepare
      dsimp only at hprepare
      split at hprepare <;> cases hprepare
      rfl
  · rw [findTools] at htools
    split at htools <;> cases htools
    · rename_i hdir
      exact .inl hdir
    · rename_i hdir hexe
      exact .inr ⟨hdir, hexe⟩

/-- A setting that is its value in another form. -/
theorem Given.Holds.eq_map {g : Given} {o : ValueOption} {value : Option Bytes} {form : Bytes → o.Setting}
    (h : g.Holds o value) (hform : ∀ v x, o.setting v = .ok x → x = form v) : g.get? o = value.map form := by
  cases value with
  | none => exact h.eq_none_iff.mp rfl
  | some v =>
    obtain ⟨x, hx, hv⟩ := h.setting_of_some
    rw [hx, hform v x hv, Option.map_some]

theorem spells_scope {g : Given} {v : Bytes} (h : g.Holds .scope (some v)) :
    ∃ n, g.scope = some n ∧ Spells v n.toNat := by
  obtain ⟨n, hn, hv⟩ := h.setting_of_some
  exact ⟨n, hn, Number.spells_of_scope (number_of_numberValue hv)⟩

theorem spells_timeoutSecs {g : Given} {v : Bytes} (h : g.Holds .timeoutSecs (some v)) :
    ∃ n, g.timeoutSecs = some n ∧ Spells v n.toNat ∧ 1 ≤ n := by
  obtain ⟨n, hn, hv⟩ := h.setting_of_some
  exact ⟨n, hn, Number.spells_of_seconds (number_of_numberValue hv)⟩

theorem spells_solver {g : Given} {v : Bytes} (h : g.Holds .solver (some v)) :
    ∃ solver, g.solver = some solver ∧ v = Bytes.ofString solver := by
  obtain ⟨solver, hsolver, hv⟩ := h.setting_of_some
  exact ⟨solver, hsolver, octets_of_textValue hv⟩

theorem resolved_of_configure {around : Surroundings} {g : Given} {fs made : FileSystem} {config : Config}
    {value : ValueOption → Option Bytes} (hholds : ∀ o, g.Holds o (value o))
    (h : configure around g fs = (.ok config, made)) : Resolved around value config := by
  obtain ⟨toolsDir, rfl, htools⟩ := configure_eq_ok h
  have hjava : g.java = (value .java).map Path.mk := (hholds .java).eq_map fun _ _ => path_of_pathValue
  have hworkdir : g.workdir = (value .workdir).map Path.mk := (hholds .workdir).eq_map fun _ _ => path_of_pathValue
  have hdir : g.toolsDir = (value .toolsDir).map Path.mk := (hholds .toolsDir).eq_map fun _ _ => path_of_pathValue
  refine ⟨by rw [← hjava]; rfl, ?_, ?_, ?_, ⟨toolsDir, rfl, ?_⟩, by rw [← hworkdir]; rfl⟩
  · cases hv : value .scope with
    | none =>
      have hnone : g.scope = none := (hholds .scope).eq_none_iff.mp hv
      exact congrArg (Option.getD · Config.defaultScope) hnone
    | some v =>
      obtain ⟨n, hn, hspells⟩ := spells_scope (hv ▸ hholds .scope)
      have hscope : (g.config toolsDir (g.workdir.getD around.cwd.path)).scope = n :=
        congrArg (Option.getD · Config.defaultScope) hn
      rwa [hscope]
  · cases hv : value .solver with
    | none =>
      have hnone : g.solver = none := (hholds .solver).eq_none_iff.mp hv
      exact congrArg (fun solver => Bytes.ofString (Option.getD solver Config.defaultSolver)) hnone
    | some v =>
      obtain ⟨solver, hsolver, htext⟩ := spells_solver (hv ▸ hholds .solver)
      rw [Option.getD_some, htext]
      exact congrArg (fun solver => Bytes.ofString (Option.getD solver Config.defaultSolver)) hsolver
  · cases hv : value .timeoutSecs with
    | none =>
      have hnone : g.timeoutSecs = none := (hholds .timeoutSecs).eq_none_iff.mp hv
      exact congrArg (Option.getD · Config.defaultTimeoutSecs) hnone
    | some v =>
      obtain ⟨n, hn, hspells, -⟩ := spells_timeoutSecs (hv ▸ hholds .timeoutSecs)
      have hlimit : (g.config toolsDir (g.workdir.getD around.cwd.path)).timeoutSecs = n :=
        congrArg (Option.getD · Config.defaultTimeoutSecs) hn
      rwa [hlimit]
  · cases hv : value .toolsDir with
    | none =>
      rw [hv, Option.map_none] at hdir
      rcases htools with hsome | ⟨-, hexe⟩
      · cases hdir.symm.trans hsome
      · exact hexe
    | some v =>
      rw [hv, Option.map_some] at hdir
      rcases htools with hsome | ⟨hnone, -⟩
      · exact Option.some.inj (hsome.symm.trans hdir)
      · cases hdir.symm.trans hnone

/-- The limit is never zero, wherever it comes from. -/
theorem one_le_timeoutSecs {around : Surroundings} {g : Given} {fs made : FileSystem} {config : Config}
    {value : Option Bytes} (hholds : g.Holds .timeoutSecs value)
    (h : configure around g fs = (.ok config, made)) : 1 ≤ config.timeoutSecs := by
  obtain ⟨toolsDir, rfl, -⟩ := configure_eq_ok h
  change 1 ≤ g.timeoutSecs.getD Config.defaultTimeoutSecs
  cases value with
  | none =>
    have hnone : g.timeoutSecs = none := hholds.eq_none_iff.mp rfl
    rw [hnone]
    decide
  | some v =>
    obtain ⟨n, hn, -, hpos⟩ := spells_timeoutSecs hholds
    rwa [hn]

/-! ### Runs -/

theorem calls_of_run {system : System} {timing : Timing} {around : Surroundings} {args : List Bytes}
    {fs made : FileSystem} {config : Config} (hread : read env args = .ok s)
    (hconfig : configure around s.given fs = (.ok config, made)) :
    (run system timing around env args fs).calls = (scoring system timing around s config made).2.calls := by
  have hgrade : (grade system timing around s fs).2.calls = (scoring system timing around s config made).2.calls := by
    rw [grade, hconfig]
    rfl
  rcases hresult : grade system timing around s fs with ⟨e | text, trace⟩
  · rw [run_of_failure hread hresult, ← hgrade, hresult]
  · rw [run_of_text hread hresult, ← hgrade, hresult]

/-- A limit that is not zero is the one that a command runs under. -/
theorem limit_of_call {cwd : Location} {config : Config} {original generated : Path} {call : Call}
    (h : Pipeline.CallKind cwd config original generated call) (hpos : 1 ≤ config.timeoutSecs) :
    call.command.limit = config.timeoutSecs := by
  have hsecs : call.command.timeoutSecs = config.timeoutSecs := by
    cases h with
    | analyzer hcommand => rw [hcommand]; rfl
    | differ hcommand => rw [hcommand]; rfl
  have hmax : max config.timeoutSecs 1 = if config.timeoutSecs ≤ 1 then 1 else config.timeoutSecs := rfl
  rw [ToolCommand.limit, hsecs, ToolCommand.minTimeoutSecs, hmax]
  split_ifs with hle
  · exact UInt64.le_antisymm hpos hle
  · rfl

/-- Every accepted command line is a line of pieces. Its configuration takes each setting from the piece that gives it,
else from the environment, else it is the default; the pieces can be put in another order around the files and
spelled in another way. The limit is at least one second and is the one that every tool runs under. A number that is
out of range is not accepted where it counts. -/
theorem configuration_by_source (env : Environment) (args : List Bytes) :
    (∀ s, read env args = .ok s → ∃ pieces tail, args = line pieces tail) ∧
    ∀ pieces tail, args = line pieces tail →
      (∀ s, read env args = .ok s →
        (∀ pieces', Reordered pieces pieces' → read env (line pieces' tail) = .ok s) ∧
        ∀ system timing around fs config made, configure around s.given fs = (.ok config, made) →
          Resolved around (selected env pieces) config ∧ 1 ≤ config.timeoutSecs ∧
          ∀ call ∈ (run system timing around env args fs).calls, call.command.limit = config.timeoutSecs) ∧
      (∀ v n, selected env pieces .timeoutSecs = some v → Spells v n → n < 1 ∨ 18446744073709551616 ≤ n →
        ∀ s, read env args ≠ .ok s) ∧
      ∀ v n, selected env pieces .scope = some v → Spells v n → n < 0 ∨ 4294967296 ≤ n →
        ∀ s, read env args ≠ .ok s := by
  refine ⟨fun s => line_of_read, ?_⟩
  rintro pieces tail rfl
  refine ⟨fun s hread => ⟨fun pieces' h => read_reordered h hread, ?_⟩, ?_, ?_⟩
  · intro system timing around fs config made hconfig
    have hpos := one_le_timeoutSecs (holds_selected hread .timeoutSecs) hconfig
    refine ⟨resolved_of_configure (holds_selected hread) hconfig, hpos, fun call hcall => ?_⟩
    rw [calls_of_run hread hconfig] at hcall
    exact limit_of_call (Pipeline.callKind_run _ _ _ _ _ _ _ _ call hcall) hpos
  · intro v n hv hspells hrange s hread
    obtain ⟨m, -, hm, hpos⟩ := spells_timeoutSecs (hv ▸ holds_selected hread .timeoutSecs)
    have hsame := hspells.unique hm
    have hlt := m.toNat_lt
    have hpos' := UInt64.le_iff_toNat_le.mp hpos
    simp only [UInt64.toNat_one] at hpos'
    omega
  · intro v n hv hspells hrange s hread
    obtain ⟨m, -, hm⟩ := spells_scope (hv ▸ holds_selected hread .scope)
    have hsame := hspells.unique hm
    have hlt := m.toNat_lt
    omega

/-- A limit that the command line gives and a scope that the environment gives, in two orders. Without the option, the
limit of the environment counts, and it is zero. -/
theorem configuration_by_source_mixed :
    let env : Environment :=
      [(Bytes.ofString "ALLOY_SCOPE", Bytes.ofString "7"), (Bytes.ofString "ALLOY_TIMEOUT_SECS", Bytes.ofString "0")]
    let args := ["--timeout-secs", "+5", "o", "--equivalence-only", "--java=j", "g"].map Bytes.ofString
    let args' := ["o", "--java", "j", "g", "--equivalence-only", "--timeout-secs=+5"].map Bytes.ofString
    let fs := Pipeline.site [] [["o"], ["g"]]
    ∃ s config made, read env args = .ok s ∧ configure atRoot s.given fs = (.ok config, made) ∧
      read env args' = .ok s ∧
      config.java = .ofString "j" ∧ Spells (Bytes.ofString "7") config.scope.toNat ∧
      Spells (Bytes.ofString "+5") config.timeoutSecs.toNat ∧
      (∀ call ∈ (run absent (Pipeline.noon 1) atRoot env args fs).calls, call.command.limit = config.timeoutSecs) ∧
      ∀ s, read env (["o", "g"].map Bytes.ofString) ≠ .ok s := by
  intro env args args' fs
  let pieces : List Piece := [.spaced .timeoutSecs (Bytes.ofString "+5") rfl, .file (Bytes.ofString "o") rfl,
    .flag .equivalenceOnly, .joined .java (Bytes.ofString "j"), .file (Bytes.ofString "g") rfl]
  let pieces' : List Piece := [.file (Bytes.ofString "o") rfl, .spaced .java (Bytes.ofString "j") rfl,
    .file (Bytes.ofString "g") rfl, .flag .equivalenceOnly, .joined .timeoutSecs (Bytes.ofString "+5")]
  let files : List Piece := [.file (Bytes.ofString "o") rfl, .file (Bytes.ofString "g") rfl]
  obtain ⟨-, hlines⟩ := configuration_by_source env args
  obtain ⟨-, hplain⟩ := configuration_by_source env (["o", "g"].map Bytes.ofString)
  obtain ⟨haccepted, -, -⟩ := hlines pieces none (by decide)
  obtain ⟨-, hzero, -⟩ := hplain files none (by decide)
  have hspells : Spells (Bytes.ofString "0") 0 := by
    refine .unsigned ⟨by decide, fun b hb => ?_⟩
    obtain rfl : b = 48 := List.mem_singleton.mp hb
    decide
  have hisOk : (read env args).toOption.any fun s => (configure atRoot s.given fs).1.isOk := by decide
  cases hread : read env args with
  | error r =>
    rw [hread] at hisOk
    cases hisOk
  | ok s =>
    rw [hread] at hisOk
    rcases hconfig : configure atRoot s.given fs with ⟨e | config, made⟩
    · simp [Except.toOption, hconfig, Except.isOk, Except.toBool] at hisOk
    · obtain ⟨hreorder, hconfigure⟩ := haccepted s hread
      obtain ⟨hresolved, -, hlimit⟩ := hconfigure absent (Pipeline.noon 1) atRoot fs config made hconfig
      refine ⟨s, config, made, rfl, hconfig, hreorder pieces' ⟨by decide, rfl⟩, hresolved.java, hresolved.scope,
        hresolved.timeoutSecs, hlimit, ?_⟩
      exact hzero (Bytes.ofString "0") 0 (by decide) hspells (.inl (by decide))

end AlloyGrade.CommandLine
