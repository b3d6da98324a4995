import AlloyGrade.Proofs.Json.Records
import AlloyGrade.Proofs.Json.Skipping

/-! Readers of trees. What a reader makes of a tree does not depend on how the tree is laid out. -/

namespace AlloyGrade.Json

open Scan

variable {α β : Type}

/-- The reader takes the tree for the value, however it is laid out. -/
def Means (reader : Reader α) (x : Tree) (a : α) : Prop :=
  ∀ ⦃ts : List (List Char)⦄ ⦃cs : List Char⦄, Ends ts → Layout (x.tokens ++ ts) cs →
    ∃ rest, Layout ts rest ∧ reader cs = .ok (a, rest)

/-- What the reader makes of a tree in one layout it makes of it in all of them. -/
def Blind (reader : Reader α) : Prop :=
  ∀ ⦃x : Tree⦄ ⦃ts : List (List Char)⦄ ⦃cs : List Char⦄ ⦃a : α⦄ ⦃rest : List Char⦄, Ends ts →
    Layout (x.tokens ++ ts) cs → reader cs = .ok (a, rest) → Means reader x a

theorem ends_nil : Ends [] := nofun

theorem Means.unique {reader : Reader α} {x : Tree} {a b : α} (ha : Means reader x a) (hb : Means reader x b) :
    a = b := by
  obtain ⟨cs, hcs⟩ := exists_layout (x.tokens ++ [])
  obtain ⟨_, -, hra⟩ := ha ends_nil hcs
  obtain ⟨_, -, hrb⟩ := hb ends_nil hcs
  rw [hra] at hrb
  cases hrb
  rfl

/-! ### Whole texts -/

section Texts

variable {reader : Reader α} {x : Tree} {t : String} {a : α}

theorem Means.read (h : Means reader x a) (hx : x.Spells t) : Json.read reader t = .ok a := by
  have hcs : Layout (x.tokens ++ []) t.toList := by rwa [List.append_nil]
  obtain ⟨rest, hrest, hread⟩ := h ends_nil hcs
  have hempty : rest.dropWhile isSpace = [] := by
    cases hrest with
    | done hblanks => simpa using dropWhile_append_of_stops hblanks stops_nil
  rw [Json.read, hread]
  simp [hempty]

theorem Blind.means_of_read (hblind : Blind reader) (hx : x.Spells t) (h : Json.read reader t = .ok a) :
    Means reader x a := by
  have hcs : Layout (x.tokens ++ []) t.toList := by rwa [List.append_nil]
  rw [Json.read] at h
  split at h
  · cases h
  · rename_i hread
    split_ifs at h
    cases h
    exact hblind ends_nil hcs hread

end Texts

/-! ### Readers after readers -/

section Bind

variable {reader : Reader α} {x : Tree} {a : α}

theorem Means.bind {f : α → Reader β} {b : β} (h : Means reader x a) (hf : f a = pure b) : Means (reader >>= f) x b := by
  intro ts cs hts hcs
  obtain ⟨rest, hrest, hread⟩ := h hts hcs
  exact ⟨rest, hrest, by rw [bind_of_ok hread, hf, pure_run]⟩

theorem Blind.of_bind_ok {f : α → Reader β} {b : β} {ts : List (List Char)} {cs rest : List Char}
    (hblind : Blind reader) (hf : ∀ a, Settled (f a)) (hts : Ends ts) (hcs : Layout (x.tokens ++ ts) cs)
    (h : (reader >>= f) cs = .ok (b, rest)) : ∃ a, Means reader x a ∧ f a = pure b := by
  obtain ⟨a, left, ha, hb⟩ := bind_eq_ok h
  refine ⟨a, hblind hts hcs ha, ?_⟩
  rcases hf a with ⟨b', hb'⟩ | ⟨e, he⟩
  · rw [hb', pure_run] at hb
    cases hb
    exact hb'
  · rw [he] at hb
    cases hb

/-- What is done with the value looks at nothing else. -/
theorem Blind.bind {f : α → Reader β} (hblind : Blind reader) (hf : ∀ a, Settled (f a)) : Blind (reader >>= f) := by
  intro x ts cs b rest hts hcs h
  obtain ⟨a, ha, hfa⟩ := hblind.of_bind_ok hf hts hcs h
  exact ha.bind hfa

end Bind

/-! ### Single values -/

theorem unexpected_ne_ok (expected : String) (cs : List Char) (a : α) (rest : List Char) :
    unexpected expected cs ≠ .ok (a, rest) :=
  fun h => yields_unexpected (P := fun _ => False) expected cs a rest h

theorem means_text {glyphs : List Glyph} {t : String} (h : spelling? glyphs = some t) (expected : String) :
    Means (text expected) (.string glyphs) t := by
  intro ts cs hts hcs
  obtain ⟨rest, hrest, hpeek⟩ := hcs.scalar (by rw [Tree.tokens])
  refine ⟨rest, hrest, ?_⟩
  rw [text, hpeek, Tree.head, if_pos rfl, string_spelled h]

theorem Tree.eq_string_of_head {x : Tree} (h : x.head = '"') : ∃ glyphs, x = .string glyphs := by
  cases x with
  | string glyphs => exact ⟨glyphs, rfl⟩
  | number n => exact absurd h (head_number_ne n (by decide) (by decide))
  | bool b => cases b <;> exact absurd h (by decide)
  | null | array | object => exact absurd h (by simp [head])

theorem blind_text (expected : String) : Blind (text expected) := by
  intro x ts cs a rest hts hcs h
  by_cases hhead : x.head = '"'
  · obtain ⟨glyphs, rfl⟩ := Tree.eq_string_of_head hhead
    cases hspelling : spelling? glyphs with
    | some t =>
      obtain ⟨_, -, ht⟩ := means_text hspelling expected hts hcs
      rw [ht] at h
      cases h
      exact means_text hspelling expected
    | none =>
      obtain ⟨left, -, hpeek⟩ := hcs.scalar (by rw [Tree.tokens])
      obtain ⟨e, he⟩ := string_unspelled hspelling left
      rw [text, hpeek, if_pos hhead, he] at h
      cases h
  · obtain ⟨cs', -, hpeek⟩ := hcs.tree
    rw [text, hpeek, if_neg hhead] at h
    exact absurd h (unexpected_ne_ok expected cs' a rest)

theorem Tree.eq_number_of_head {x : Tree} (h : x.head = '-' ∨ x.head.isDigit) : ∃ n, x = .number n := by
  cases x with
  | number n => exact ⟨n, rfl⟩
  | bool b => cases b <;> exact absurd h (by decide)
  | null | string | array | object => exact absurd h (by simp [head])

theorem settled_upTo (top : Nat) (expected : String) (m : Number) : Settled (m.upTo top expected) := by
  cases m with
  | unsigned n => exact settled_ite (settled_pure _) (settled_fail _)
  | negative | float => exact settled_fail _

theorem blind_natural (top : Nat) (expected : String) : Blind (natural top expected) := by
  intro x ts cs a rest hts hcs h
  by_cases hhead : x.head = '-' ∨ x.head.isDigit
  · obtain ⟨n, rfl⟩ := Tree.eq_number_of_head hhead
    obtain ⟨number, hsettled, hrun⟩ := number_settles n
    have hread ⦃ts : List (List Char)⦄ ⦃cs : List Char⦄ (hts : Ends ts)
        (hcs : Layout ((Tree.number n).tokens ++ ts) cs) :
        ∃ rest, Layout ts rest ∧ natural top expected cs = (number >>= Number.upTo top expected) rest := by
      obtain ⟨rest, hrest, hpeek⟩ := hcs.scalar (by rw [Tree.tokens])
      refine ⟨rest, hrest, ?_⟩
      rw [natural, hpeek, if_pos hhead, bind_run, hrun rest (hrest.follows hts)]
      rfl
    rcases hsettled.bind (settled_upTo top expected) with ⟨b, hb⟩ | ⟨e, he⟩
    · rw [hb] at hread
      obtain ⟨_, -, hcs⟩ := hread hts hcs
      rw [hcs] at h
      cases h
      exact hread
    · obtain ⟨left, -, hcs⟩ := hread hts hcs
      rw [hcs, he] at h
      cases h
  · obtain ⟨cs', -, hpeek⟩ := hcs.tree
    rw [natural, hpeek, if_neg hhead] at h
    exact absurd h (unexpected_ne_ok expected cs' a rest)

/-! ### Values that may be null -/

section Nullable

variable {value : Reader α} {x : Tree}

theorem Tree.eq_null_of_head (h : x.head = 'n') : x = .null := by
  cases x with
  | null => rfl
  | number n => exact absurd h (head_number_ne n (by decide) (by decide))
  | bool b => cases b <;> exact absurd h (by decide)
  | string | array | object => exact absurd h (by simp [head])

theorem means_null (value : Reader α) : Means (nullable value) .null none := by
  intro ts cs hts hcs
  rw [Tree.tokens] at hcs
  obtain ⟨rest, hrest, hskip⟩ := Layout.skipSpace_bind hcs (by decide)
  refine ⟨rest, hrest, ?_⟩
  rw [nullable, hskip, peek?_bind, List.head?_cons, if_pos rfl]
  exact bind_of_ok (letters_run ['n', 'u', 'l', 'l'] rest)

/-- What is not `null` goes to the reader of the value. -/
theorem nullable_run (value : Reader α) {ts : List (List Char)} {cs : List Char} (hx : x ≠ .null)
    (hcs : Layout (x.tokens ++ ts) cs) :
    ∃ cs', Layout (x.tokens ++ ts) cs' ∧ nullable value cs = (value >>= fun a => pure (some a)) cs' := by
  obtain ⟨tail, more, htokens⟩ := x.tokens_eq_cons
  rw [htokens, List.cons_append] at hcs ⊢
  obtain ⟨rest, hrest, hskip⟩ := Layout.skipSpace_bind hcs x.isSpace_head
  refine ⟨[] ++ ((x.head :: tail) ++ rest), .token isSpace_of_mem_nil hrest, ?_⟩
  have hn : (x.head :: (tail ++ rest)).head? ≠ some 'n' := fun h => hx (Tree.eq_null_of_head (Option.some.inj h))
  rw [nullable, hskip, peek?_bind, if_neg hn]
  rfl

theorem Means.nullable {a : α} (h : Means value x a) (hx : x ≠ .null) : Means (nullable value) x (some a) := by
  intro ts cs hts hcs
  obtain ⟨cs', hcs', hrun⟩ := nullable_run value hx hcs
  obtain ⟨rest, hrest, hvalue⟩ := h hts hcs'
  exact ⟨rest, hrest, by rw [hrun, bind_of_ok hvalue, pure_run]⟩

theorem Blind.of_nullable_ok {o : Option α} {ts : List (List Char)} {cs rest : List Char} (hblind : Blind value)
    (hx : x ≠ .null) (hts : Ends ts) (hcs : Layout (x.tokens ++ ts) cs) (h : Json.nullable value cs = .ok (o, rest)) :
    ∃ a, Means value x a ∧ o = some a := by
  obtain ⟨cs', hcs', hrun⟩ := nullable_run value hx hcs
  rw [hrun] at h
  obtain ⟨a, left, ha, ho⟩ := bind_eq_ok h
  cases ho
  exact ⟨a, hblind hts hcs' ha, rfl⟩

theorem Blind.nullable (hblind : Blind value) : Blind (nullable value) := by
  intro x ts cs o rest hts hcs h
  by_cases hx : x = .null
  · subst hx
    obtain ⟨_, -, hnull⟩ := means_null value hts hcs
    rw [hnull] at h
    cases h
    exact means_null value
  · obtain ⟨a, ha, rfl⟩ := hblind.of_nullable_ok hx hts hcs h
    exact ha.nullable hx

end Nullable

end AlloyGrade.Json
