import AlloyGrade.Proofs.Json.Reading

/-! Records. The printed object of a record is read back member by member, and whatever is accepted as a record
has been put together from what the readers of its members give. -/

namespace AlloyGrade.Json

open Scan

variable {α σ : Type}

/-! ### Printed objects -/

/-- The members of an object, read in this order, take a collection from one state to another. -/
inductive Record.Stores (r : Record σ α) : σ → List (String × Json) → σ → Prop where
  | done (s : σ) : Stores r s [] s
  | next {s between last : σ} {name : String} {document : Json} {members : List (String × Json)} {m : Member σ}
      (found : r.members.find? (·.name == name) = some m) (new : m.seen s = false)
      (read : Reads (m.store s) document between) (rest : Stores r between members last) :
      Stores r s ((name, document) :: members) last

theorem isSpace_of_mem_indent {depth : Nat} : ∀ b ∈ indent depth, isSpace b := by
  intro b hb
  rcases List.mem_cons.mp hb with rfl | hb
  · rfl
  · rw [List.eq_of_mem_replicate hb]
    rfl

theorem delimits_indent (depth : Nat) (rest : List Char) : Delimits (indent depth ++ rest) :=
  fun _ hc => .inr (Option.some.inj hc ▸ rfl)

theorem delimits_comma (rest : List Char) : Delimits (',' :: rest) := fun _ hc => .inl (Option.some.inj hc).symm

section Names

variable {blanks rest : List Char} (hb : ∀ b ∈ blanks, isSpace b)
include hb

theorem nextName_close (first : Bool) : nextName first (blanks ++ '\x7d' :: rest) = .ok (none, '\x7d' :: rest) := by
  rw [nextName, peekToken_bind hb (by decide)]
  rfl

theorem nextName_first (name : String) : nextName true (blanks ++ (quoted name ++ rest)) = .ok (some name, rest) := by
  obtain ⟨cs, hcs, hstring⟩ := string_quoted name rest
  rw [hcs, nextName, peekToken_bind hb (by decide)]
  simp [bind_of_ok hstring]

theorem nextName_next (name : String) :
    nextName false (',' :: (blanks ++ (quoted name ++ rest))) = .ok (some name, rest) := by
  obtain ⟨cs, hcs, hstring⟩ := string_quoted name rest
  have hquote : isSpace '"' = false := by decide
  rw [hcs, nextName, peekToken_here (by decide)]
  simp [peekToken_bind hb hquote, bind_of_ok hstring]

end Names

theorem colon_run (rest : List Char) : colon (':' :: rest) = .ok ((), rest) := by
  rw [colon, peekToken_here (by decide)]
  rfl

/-- One more member. -/
theorem Record.collect_member {r : Record σ α} {fuel : Nat} {first : Bool} {s between : σ} {name : String}
    {document : Json} {m : Member σ} {depth : Nat} {cs rest : List Char}
    (hname : nextName first cs = .ok (some name, ':' :: ' ' :: (prettyChars depth document ++ rest)))
    (found : r.members.find? (·.name == name) = some m) (new : m.seen s = false)
    (read : Reads (m.store s) document between) (hr : Delimits rest) :
    r.collect (fuel + 1) first s cs = r.collect fuel false between rest := by
  have hread := read depth [' '] rest (isSpace_of_mem_singleton rfl) hr
  rw [Record.collect, bind_of_ok hname]
  simp only [found, new]
  rw [if_neg (by decide), bind_of_ok (colon_run _)]
  exact bind_of_ok hread

theorem prettyMembers_cons (depth : Nat) (name : String) (document : Json) (members : List (String × Json))
    (rest : List Char) : prettyMembers depth ((name, document) :: members) ++ rest =
      ',' :: (indent (depth + 1) ++ (quoted name ++ ':' :: ' ' ::
        (prettyChars (depth + 1) document ++ (prettyMembers depth members ++ rest)))) := by
  simp [prettyMembers, prettyMember]

theorem prettyChars_obj (depth : Nat) (name : String) (document : Json) (members : List (String × Json))
    (rest : List Char) : prettyChars depth (.obj ((name, document) :: members)) ++ rest =
      '\x7b' :: (indent (depth + 1) ++ (quoted name ++ ':' :: ' ' ::
        (prettyChars (depth + 1) document ++ (prettyMembers depth members ++ (indent depth ++ '\x7d' :: rest))))) := by
  simp [prettyChars, prettyMember]

theorem delimits_members (depth : Nat) (members : List (String × Json)) (rest : List Char) :
    Delimits (prettyMembers depth members ++ (indent depth ++ rest)) := by
  cases members with
  | nil => exact delimits_indent depth rest
  | cons m members =>
    rw [prettyMembers_cons]
    exact delimits_comma _

theorem length_le_prettyMembers (depth : Nat) (members : List (String × Json)) :
    members.length ≤ (prettyMembers depth members).length := by
  induction members with
  | nil => exact Nat.zero_le _
  | cons m members ih =>
    simp only [prettyMembers, List.length_append, List.length_cons]
    omega

/-- The members behind the first one. -/
theorem Record.Stores.collect {r : Record σ α} {s last : σ} {members : List (String × Json)}
    (h : r.Stores s members last) {fuel : Nat} (hf : members.length < fuel) (depth : Nat) (rest : List Char) :
    r.collect fuel false s (prettyMembers depth members ++ (indent depth ++ '\x7d' :: rest)) =
      .ok (last, '\x7d' :: rest) := by
  induction h generalizing fuel with
  | done s =>
    obtain ⟨fuel, rfl⟩ := Nat.exists_eq_succ_of_ne_zero (Nat.ne_zero_of_lt hf)
    rw [Record.collect, prettyMembers, List.nil_append, bind_of_ok (nextName_close isSpace_of_mem_indent false)]
    rfl
  | next found new read _ ih =>
    obtain ⟨fuel, rfl⟩ := Nat.exists_eq_succ_of_ne_zero (Nat.ne_zero_of_lt hf)
    rw [prettyMembers_cons, Record.collect_member (nextName_next isSpace_of_mem_indent _) found new read
      (delimits_members depth _ _)]
    exact ih (Nat.lt_of_succ_lt_succ hf)

/-- All the members, with as much fuel as there are characters. -/
theorem Record.Stores.collect_all {r : Record σ α} {s last : σ} {name : String} {document : Json}
    {members : List (String × Json)} (h : r.Stores s ((name, document) :: members) last) (depth : Nat)
    (rest : List Char) :
    let cs := indent (depth + 1) ++ (quoted name ++ ':' :: ' ' ::
      (prettyChars (depth + 1) document ++ (prettyMembers depth members ++ (indent depth ++ '\x7d' :: rest))))
    r.collect (cs.length + 1) true s cs = .ok (last, '\x7d' :: rest) := by
  intro cs
  have hfuel : members.length < cs.length := by
    have := length_le_prettyMembers depth members
    simp only [cs, List.length_append, List.length_cons]
    omega
  cases h with
  | next found new read stores =>
    rw [Record.collect_member (nextName_first isSpace_of_mem_indent name) found new read (delimits_members depth _ _)]
    exact stores.collect hfuel depth rest

theorem Record.complete_run {r : Record σ α} {s : σ} {a : α} (hnone : r.missing? s = none) (ha : r.finish s = some a)
    (cs : List Char) : r.complete s cs = .ok (a, cs) := by
  rw [Record.complete, hnone]
  simp only [ha]
  rfl

/-- The printed object of a record is read back. -/
theorem Record.Stores.reads {r : Record σ α} {last : σ} {name : String} {document : Json}
    {members : List (String × Json)} (h : r.Stores r.start ((name, document) :: members) last) {a : α}
    (hnone : r.missing? last = none) (ha : r.finish last = some a) :
    Reads r.read (.obj ((name, document) :: members)) a := by
  intro depth blanks rest hb hr
  rw [prettyChars_obj, Record.read, peekToken_bind hb (by decide), if_neg (by decide), if_pos rfl, skip_bind]
  refine (bind_of_ok (h.collect_all depth rest)).trans ?_
  rw [bind_of_ok (complete_run hnone ha _)]
  rfl

/-! ### What is accepted as a record -/

/-- Nothing is read where something else was expected. -/
theorem yields_unexpected {P : α → Prop} (expected : String) : Yields P (unexpected expected : Reader α) := by
  rw [unexpected]
  refine .after _ fun c => .of_ite (fun _ => .after _ fun _ => .of_fail _) fun _ => ?_
  refine .of_ite (fun _ => .after _ fun _ => .of_fail _) fun _ => .of_ite (fun _ => .after _ fun _ => .of_fail _) fun _ => ?_
  refine .of_ite (fun _ => .after _ fun _ => .of_fail _) fun _ => .of_ite (fun _ => .after _ fun _ => .of_fail _) fun _ => ?_
  exact .of_ite (fun _ => .of_fail _) fun _ => .of_ite (fun _ => .of_fail _) fun _ => .of_fail _

section Accepted

variable {r : Record σ α} {P : α → Prop} {I : σ → Prop} (hstore : ∀ m ∈ r.members, ∀ s, I s → Yields I (m.store s))
include hstore

theorem Record.yields_collect (fuel : Nat) (first : Bool) {s : σ} (hs : I s) : Yields I (r.collect fuel first s) := by
  induction fuel generalizing first s with
  | zero => exact .of_fail _
  | succ fuel ih =>
    rw [Record.collect]
    refine .after _ fun name? => ?_
    cases name? with
    | none => exact .of_pure hs
    | some name =>
      cases hm : r.members.find? (·.name == name) with
      | none =>
        simp only [hm]
        exact .after _ fun _ => .after _ fun _ => ih false hs
      | some m =>
        simp only [hm]
        refine .of_ite (fun _ => .of_fail _) fun _ => .after _ fun _ => ?_
        exact (hstore m (List.mem_of_find?_eq_some hm) s hs).bind fun _ => ih false

theorem Record.yields_fill {members : List (Member σ)} (hsub : ∀ m ∈ members, m ∈ r.members) (count : Nat)
    (first : Bool) {s : σ} (hs : I s) : Yields I (r.fill members count first s) := by
  induction members generalizing count first s with
  | nil => exact .of_pure hs
  | cons m members ih =>
    have hrest : ∀ m ∈ members, m ∈ r.members := fun m hm => hsub m (.tail _ hm)
    rw [Record.fill]
    refine .after _ fun more => .of_ite (fun _ => ?_) fun _ => .of_ite (fun _ => ?_) fun _ => .of_fail _
    · exact (hstore m (hsub m (.head _)) s hs).bind fun _ => ih hrest _ false
    · exact ih hrest _ first hs

/-- What holds of the collection at the start and is kept by every member holds in the end. -/
theorem Record.yields_read (hstart : I r.start) (hfinish : ∀ s a, I s → r.finish s = some a → P a) :
    Yields P r.read := by
  have hcomplete {s : σ} (hs : I s) : Yields P (r.complete s) := by
    rw [Record.complete]
    cases r.missing? s with
    | some name => exact .of_fail _
    | none =>
      cases ha : r.finish s with
      | none => exact .of_fail _
      | some a => exact .of_pure (hfinish s a hs ha)
  rw [Record.read]
  refine .after _ fun c => .of_ite (fun _ => ?_) fun _ => .of_ite (fun _ => ?_) fun _ => ?_
  · refine .after _ fun _ => (r.yields_fill hstore (fun _ => id) 0 true hstart).bind fun s hs => ?_
    refine (hcomplete hs).bind fun a ha => .after _ fun c => .of_ite (fun _ => ?_) fun _ => .of_fail _
    exact .after _ fun _ => .of_pure ha
  · refine .after _ fun _ => .bind (fun cs => r.yields_collect hstore _ true hstart cs) fun s hs => ?_
    exact (hcomplete hs).bind fun a ha => .after _ fun _ => .of_pure ha
  · exact yields_unexpected r.label

end Accepted

/-! ### Whole texts -/

section Texts

variable {reader : Reader α} {document : Json} {a : α}

/-- White space may follow. -/
theorem Reads.read_append (h : Reads reader document a) {rest : List Char} (hrest : ∀ c ∈ rest, isSpace c) :
    Json.read reader (document.pretty ++ String.ofList rest) = .ok a := by
  have hdelimits : Delimits rest := fun c hc => .inr (hrest c (List.mem_of_mem_head? hc))
  have hread := h 0 [] rest isSpace_of_mem_nil hdelimits
  have hempty : (rest ++ []).dropWhile isSpace = [] := dropWhile_append_of_stops hrest stops_nil
  rw [Json.read, String.toList_append, String.toList_ofList, Json.pretty, String.toList_ofList]
  rw [List.nil_append] at hread
  rw [List.append_nil] at hempty
  simp [hread, hempty]

theorem Reads.read_pretty (h : Reads reader document a) : Json.read reader document.pretty = .ok a := by
  have hread := h.read_append isSpace_of_mem_nil
  rwa [String.ofList_nil, String.append_empty] at hread

theorem of_read {P : α → Prop} (h : Yields P reader) {text : String} (ha : Json.read reader text = .ok a) : P a := by
  unfold Json.read at ha
  split at ha
  · cases ha
  · rename_i hread
    split_ifs at ha
    cases ha
    exact h _ _ _ hread

end Texts

end AlloyGrade.Json
