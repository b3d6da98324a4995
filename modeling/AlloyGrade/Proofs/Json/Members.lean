import AlloyGrade.Proofs.Json.Trees
import Mathlib.Data.List.Pairwise

/-! Members of records. Which trees a record is read from, and what is made of them, is said here without reference to
a text: the members of an object are stored one by one, and those of an array in declaration order. -/

namespace AlloyGrade.Json

open Scan

variable {α σ : Type}

/-! ### Slots -/

/-- A member that keeps what it reads in a place of its own. -/
structure Slot (σ : Type) where
  name : String
  optional : Bool
  Value : Type
  value : Reader Value
  seen : σ → Bool
  put : σ → Value → σ
  blind : Blind value
  seen_put : ∀ s v, seen (put s v)

def Slot.member (f : Slot σ) : Member σ := ⟨f.name, f.seen, fun s => do return f.put s (← f.value), f.optional⟩

/-- Neither member touches the place of the other. -/
structure Slot.Apart (f g : Slot σ) : Prop where
  name : f.name ≠ g.name
  seen_left : ∀ s v, g.seen (f.put s v) = g.seen s
  seen_right : ∀ s v, f.seen (g.put s v) = f.seen s
  put : ∀ s v w, g.put (f.put s v) w = f.put (g.put s w) v

instance : Std.Symm (@Slot.Apart σ) where
  symm _ _ h := ⟨h.name.symm, h.seen_right, h.seen_left, fun s v w => (h.put s w v).symm⟩

theorem Slot.means_store (f : Slot σ) {x : Tree} {v : f.Value} (h : Means f.value x v) (s : σ) :
    Means (f.member.store s) x (f.put s v) :=
  h.bind rfl

/-- What is stored is what the tree means. -/
theorem Slot.of_store_ok (f : Slot σ) {s t : σ} {x : Tree} {ts : List (List Char)} {cs rest : List Char} (hts : Ends ts)
    (hcs : Layout (x.tokens ++ ts) cs) (h : f.member.store s cs = .ok (t, rest)) :
    ∃ v, Means f.value x v ∧ t = f.put s v ∧ Layout ts rest := by
  obtain ⟨v, left, hvalue, hput⟩ := bind_eq_ok h
  cases hput
  have hmeans := f.blind hts hcs hvalue
  obtain ⟨_, hrest, hagain⟩ := hmeans hts hcs
  rw [hvalue] at hagain
  cases hagain
  exact ⟨v, hmeans, rfl, hrest⟩

/-- The record has these members, and nothing is stored at the start. Where a member is missing that may be left out, it
is as if it were `null`. -/
structure Record.Has (r : Record σ α) (slots : List (Slot σ)) : Prop where
  members_eq : r.members = slots.map Slot.member
  apart : slots.Pairwise Slot.Apart
  start : ∀ f ∈ slots, f.seen r.start = false
  null : ∀ f ∈ slots, f.optional → ∃ v, Means f.value .null v ∧ ∀ s, f.seen s = false → r.finish (f.put s v) = r.finish s

section Find

variable {slots : List (Slot σ)} {f g : Slot σ}

theorem apart_of_ne (h : slots.Pairwise Slot.Apart) (hf : f ∈ slots) (hg : g ∈ slots) (hne : f ≠ g) : f.Apart g :=
  h.forall hf hg hne

theorem eq_of_name (h : slots.Pairwise Slot.Apart) (hf : f ∈ slots) (hg : g ∈ slots) (hname : f.name = g.name) : f = g := by
  by_contra hne
  exact (apart_of_ne h hf hg hne).name hname

variable {r : Record σ α} (hr : r.Has slots)
include hr

theorem Record.Has.find_known (hf : f ∈ slots) : r.members.find? (·.name == f.name) = some f.member := by
  cases hfound : r.members.find? (·.name == f.name) with
  | none =>
    rw [List.find?_eq_none, hr.members_eq] at hfound
    exact absurd (beq_self_eq_true f.name) (hfound f.member (List.mem_map_of_mem hf))
  | some m =>
    have hm := List.mem_of_find?_eq_some hfound
    rw [hr.members_eq] at hm
    obtain ⟨g, hg, rfl⟩ := List.mem_map.mp hm
    have hname := List.find?_some hfound
    rw [eq_of_name hr.apart hg hf (beq_iff_eq.mp hname)]

theorem Record.Has.find_unknown {name : String} (h : ∀ f ∈ slots, f.name ≠ name) :
    r.members.find? (·.name == name) = none := by
  rw [List.find?_eq_none, hr.members_eq]
  intro m hm
  obtain ⟨f, hf, rfl⟩ := List.mem_map.mp hm
  exact fun hname => h f hf (beq_iff_eq.mp hname)

theorem Record.Has.missing?_eq_none {s : σ} : r.missing? s = none ↔ ∀ f ∈ slots, f.seen s ∨ f.optional := by
  rw [Record.missing?, Option.map_eq_none_iff, List.find?_eq_none, hr.members_eq]
  simp [Slot.member, ← Bool.not_eq_true, or_iff_not_imp_left]

end Find

/-! ### What is made of trees -/

/-- The members of an object, stored in this order, take a collection from one state to another. Names that are not known
are passed over. -/
inductive Gathers (slots : List (Slot σ)) : σ → List (List Glyph × Tree) → σ → Prop
  | done (s : σ) : Gathers slots s [] s
  | skip {s last : σ} {key : List Glyph} {x : Tree} {members : List (List Glyph × Tree)} {name : String}
      (hname : spelling? key = some name) (unknown : ∀ f ∈ slots, f.name ≠ name)
      (rest : Gathers slots s members last) : Gathers slots s ((key, x) :: members) last
  | store {s last : σ} {key : List Glyph} {x : Tree} {members : List (List Glyph × Tree)} (f : Slot σ) {v : f.Value}
      (hf : f ∈ slots) (hname : spelling? key = some f.name) (new : f.seen s = false) (read : Means f.value x v)
      (rest : Gathers slots (f.put s v) members last) : Gathers slots s ((key, x) :: members) last

/-- The elements of an array go to the members in turn. Members that may be left out may be missing at the end. -/
inductive Fills : List (Slot σ) → σ → List Tree → σ → Prop
  | done (s : σ) : Fills [] s [] s
  | short {f : Slot σ} {slots : List (Slot σ)} {s last : σ} (optional : f.optional) (rest : Fills slots s [] last) :
      Fills (f :: slots) s [] last
  | next {f : Slot σ} {slots : List (Slot σ)} {s last : σ} {x : Tree} {items : List Tree} {v : f.Value}
      (read : Means f.value x v) (rest : Fills slots (f.put s v) items last) : Fills (f :: slots) s (x :: items) last

/-- Nothing is missing from the collection, which gives the value. -/
structure Record.Completes (r : Record σ α) (s : σ) (a : α) : Prop where
  missing : r.missing? s = none
  finish : r.finish s = some a

/-- The value that a record makes of a tree. -/
inductive Record.Makes (r : Record σ α) (slots : List (Slot σ)) : Tree → α → Prop
  | object {members : List (List Glyph × Tree)} {last : σ} {a : α} (gathers : Gathers slots r.start members last)
      (complete : r.Completes last a) : Makes r slots (.object members) a
  | array {items : List Tree} {last : σ} {a : α} (fills : Fills slots r.start items last)
      (complete : r.Completes last a) : Makes r slots (.array items) a

/-! ### Objects -/

/-- The parts that are left, the first of them without a comma if none has been read. -/
def remaining (first : Bool) (close : Char) (parts : List (List (List Char))) : List (List Char) :=
  if first then enclosed close parts else others close parts

theorem tokens_object (members : List (List Glyph × Tree)) :
    (Tree.object members).tokens = ['\x7b'] :: remaining true '\x7d' (memberTokens members) := by
  rw [Tree.tokens, remaining, if_pos rfl]

theorem tokens_array (items : List Tree) :
    (Tree.array items).tokens = ['['] :: remaining true ']' (itemTokens items) := by
  rw [Tree.tokens, remaining, if_pos rfl]

theorem remaining_nil (first : Bool) (close : Char) : remaining first close [] = [[close]] := by
  cases first <;> rfl

section Parts

variable (close : Char) (part : List (List Char)) (parts : List (List (List Char))) (ts : List (List Char))

theorem remaining_true_cons :
    remaining true close (part :: parts) ++ ts = part ++ (remaining false close parts ++ ts) := by
  simp [remaining, enclosed]

theorem remaining_false_cons :
    remaining false close (part :: parts) ++ ts = [','] :: (part ++ (remaining false close parts ++ ts)) := by
  simp [remaining, others]

end Parts

theorem ends_remaining (frame : Frame) (parts : List (List (List Char))) (ts : List (List Char)) :
    Ends (remaining false frame.closer parts ++ ts) :=
  ends_others frame parts ts

section Objects

variable {r : Record σ α} {slots : List (Slot σ)} {first : Bool} {fuel : Nat} {s last : σ} {key : List Glyph} {x : Tree}
  {members : List (List Glyph × Tree)} {ts : List (List Char)} {cs : List Char}

theorem Record.collect_close (r : Record σ α) (fuel : Nat) (s : σ) (hcs : Layout (remaining first '\x7d' [] ++ ts) cs) :
    ∃ rest, Layout ts rest ∧ r.collect (fuel + 1) first s cs = .ok (s, '\x7d' :: rest) := by
  rw [remaining_nil] at hcs
  cases hcs with
  | token hblanks hrest =>
    refine ⟨_, hrest, ?_⟩
    rw [Record.collect, List.singleton_append, bind_of_ok (nextName_close hblanks first)]
    rfl

theorem nextName_member (hcs : Layout (remaining first '\x7d' (memberTokens ((key, x) :: members)) ++ ts) cs) :
    ∃ rest, Layout ([':'] :: (x.tokens ++ (remaining false '\x7d' (memberTokens members) ++ ts))) rest ∧
      nextName first cs = (string >>= fun name => pure (some name)) (literal key ++ rest) := by
  rw [memberTokens] at hcs
  cases first with
  | true =>
    rw [remaining_true_cons] at hcs
    obtain ⟨rest, hrest, hpeek⟩ := Layout.peekToken_bind hcs (by decide)
    refine ⟨rest, hrest, ?_⟩
    rw [nextName, hpeek]
    rfl
  | false =>
    rw [remaining_false_cons] at hcs
    obtain ⟨left, hleft, hcomma⟩ := Layout.mark hcs (by decide)
    obtain ⟨rest, hrest, hpeek⟩ := Layout.peekToken_bind hleft (by decide)
    refine ⟨rest, hrest, ?_⟩
    rw [nextName, hcomma, if_neg (by decide), if_pos (by decide), skip_bind]
    exact hpeek _

/-- The name of a member and its colon. -/
theorem nextName_colon {name : String} (hname : spelling? key = some name)
    (hcs : Layout (remaining first '\x7d' (memberTokens ((key, x) :: members)) ++ ts) cs) :
    ∃ left cs', nextName first cs = .ok (some name, left) ∧ colon left = .ok ((), cs') ∧
      Layout (x.tokens ++ (remaining false '\x7d' (memberTokens members) ++ ts)) cs' := by
  obtain ⟨left, hleft, hnext⟩ := nextName_member hcs
  obtain ⟨cs', hcs', hcolon⟩ := hleft.mark (by decide)
  refine ⟨left, cs', ?_, ?_, hcs'⟩
  · rw [hnext, bind_of_ok (string_spelled hname left), pure_run]
  · rw [colon, hcolon]
    rfl

theorem Record.collect_unknown {name : String} (hname : spelling? key = some name)
    (hfind : r.members.find? (·.name == name) = none)
    (hcs : Layout (remaining first '\x7d' (memberTokens ((key, x) :: members)) ++ ts) cs) :
    ∃ cs', Layout (remaining false '\x7d' (memberTokens members) ++ ts) cs' ∧
      r.collect (fuel + 1) first s cs = r.collect fuel false s cs' := by
  obtain ⟨left, right, hnext, hcolon, hright⟩ := nextName_colon hname hcs
  obtain ⟨cs', hcs', hskip⟩ := skipValue_run x (ends_remaining .object _ ts) hright
  refine ⟨cs', hcs', ?_⟩
  rw [Record.collect, bind_of_ok hnext]
  simp only [hfind]
  rw [bind_of_ok hcolon, bind_of_ok hskip]

theorem Record.collect_known {name : String} {m : Member σ} (hname : spelling? key = some name)
    (hfind : r.members.find? (·.name == name) = some m)
    (hcs : Layout (remaining first '\x7d' (memberTokens ((key, x) :: members)) ++ ts) cs) :
    ∃ cs', Layout (x.tokens ++ (remaining false '\x7d' (memberTokens members) ++ ts)) cs' ∧
      r.collect (fuel + 1) first s cs =
        if m.seen s then .error (.data ("duplicate field `" ++ name ++ "`"))
        else (m.store s >>= r.collect fuel false) cs' := by
  obtain ⟨left, cs', hnext, hcolon, hcs'⟩ := nextName_colon hname hcs
  refine ⟨cs', hcs', ?_⟩
  rw [Record.collect, bind_of_ok hnext]
  simp only [hfind]
  split_ifs with hseen
  · rfl
  · rw [bind_of_ok hcolon]

theorem Gathers.collect (hr : r.Has slots) (h : Gathers slots s members last) (hfuel : members.length < fuel)
    (hcs : Layout (remaining first '\x7d' (memberTokens members) ++ ts) cs) :
    ∃ rest, Layout ts rest ∧ r.collect fuel first s cs = .ok (last, '\x7d' :: rest) := by
  induction h generalizing fuel first cs with
  | done s =>
    obtain ⟨fuel, rfl⟩ := Nat.exists_eq_succ_of_ne_zero (Nat.ne_zero_of_lt hfuel)
    exact r.collect_close fuel s hcs
  | skip hname unknown _ ih =>
    obtain ⟨fuel, rfl⟩ := Nat.exists_eq_succ_of_ne_zero (Nat.ne_zero_of_lt hfuel)
    obtain ⟨cs', hcs', hcollect⟩ := r.collect_unknown hname (hr.find_unknown unknown) hcs
    rw [hcollect]
    exact ih (Nat.lt_of_succ_lt_succ hfuel) hcs'
  | @store s _ _ _ _ f v hf hname new read _ ih =>
    obtain ⟨fuel, rfl⟩ := Nat.exists_eq_succ_of_ne_zero (Nat.ne_zero_of_lt hfuel)
    obtain ⟨cs', hcs', hcollect⟩ := r.collect_known hname (hr.find_known hf) hcs
    obtain ⟨left, hleft, hread⟩ := f.means_store read s (ends_remaining .object _ ts) hcs'
    rw [hcollect, if_neg (show ¬f.member.seen s from Bool.eq_false_iff.mp new), bind_of_ok hread]
    exact ih (Nat.lt_of_succ_lt_succ hfuel) hleft

/-- Whatever is collected has been gathered. -/
theorem gathers_of_collect (hr : r.Has slots) {rest : List Char}
    (hcs : Layout (remaining first '\x7d' (memberTokens members) ++ ts) cs)
    (h : r.collect fuel first s cs = .ok (last, rest)) : Gathers slots s members last := by
  -- The layout says how many members are left, so the induction is on them and not on the fuel.
  induction members generalizing fuel first s cs with
  | nil =>
    cases fuel with
    | zero => cases h
    | succ fuel =>
      obtain ⟨_, -, hclose⟩ := r.collect_close fuel s hcs
      rw [hclose] at h
      cases h
      exact .done _
  | cons m members ih =>
    obtain ⟨key, x⟩ := m
    cases fuel with
    | zero => cases h
    | succ fuel =>
      cases hname : spelling? key with
      | none =>
        obtain ⟨left, -, hnext⟩ := nextName_member hcs
        obtain ⟨e, he⟩ := string_unspelled hname left
        rw [Record.collect, bind_run, hnext, bind_run, he] at h
        cases h
      | some name =>
        by_cases hknown : ∃ f ∈ slots, f.name = name
        · obtain ⟨f, hf, rfl⟩ := hknown
          obtain ⟨cs', hcs', hcollect⟩ := r.collect_known hname (hr.find_known hf) hcs
          rw [hcollect] at h
          split_ifs at h with hseen
          obtain ⟨between, left, hstore, hrest⟩ := bind_eq_ok h
          obtain ⟨v, hmeans, rfl, hleft⟩ := f.of_store_ok (ends_remaining .object _ ts) hcs' hstore
          exact .store f hf hname (Bool.eq_false_iff.mpr hseen) hmeans (ih hleft hrest)
        · have hunknown : ∀ f ∈ slots, f.name ≠ name := fun f hf hfname => hknown ⟨f, hf, hfname⟩
          obtain ⟨cs', hcs', hcollect⟩ := r.collect_unknown hname (hr.find_unknown hunknown) hcs
          rw [hcollect] at h
          exact .skip hname hunknown (ih hcs' h)

end Objects

/-! ### Arrays -/

section Arrays

variable {r : Record σ α} {slots : List (Slot σ)} {first : Bool} {count : Nat} {s last : σ} {x : Tree}
  {items : List Tree} {ts : List (List Char)} {cs : List Char}

theorem nextElement_close (hcs : Layout (remaining first ']' (itemTokens []) ++ ts) cs) :
    ∃ cs', Layout (remaining first ']' (itemTokens []) ++ ts) cs' ∧ nextElement first cs = .ok (false, cs') := by
  rw [itemTokens, remaining_nil] at hcs ⊢
  obtain ⟨rest, hrest, hpeek⟩ := Layout.mark hcs (by decide)
  refine ⟨[] ++ ([']'] ++ rest), .token isSpace_of_mem_nil hrest, ?_⟩
  rw [nextElement, hpeek]
  rfl

theorem nextElement_next (hcs : Layout (remaining first ']' (itemTokens (x :: items)) ++ ts) cs) :
    ∃ cs', Layout (x.tokens ++ (remaining false ']' (itemTokens items) ++ ts)) cs' ∧
      nextElement first cs = .ok (true, cs') := by
  have hclose : x.head ≠ ']' := x.head_ne_closer .array
  rw [itemTokens] at hcs
  cases first with
  | true =>
    rw [remaining_true_cons] at hcs
    obtain ⟨cs', hcs', hpeek⟩ := hcs.tree
    refine ⟨cs', hcs', ?_⟩
    rw [nextElement, hpeek, if_neg hclose]
    simp
  | false =>
    rw [remaining_false_cons] at hcs
    obtain ⟨left, hleft, hcomma⟩ := hcs.mark (by decide)
    obtain ⟨cs', hcs', hpeek⟩ := hleft.tree
    refine ⟨cs', hcs', ?_⟩
    rw [nextElement, hcomma, if_neg (by decide), if_pos (by decide), skip_bind]
    refine (hpeek _).trans ?_
    rw [if_neg hclose, pure_run]

theorem Fills.fill (h : Fills slots s items last)
    (hcs : Layout (remaining first ']' (itemTokens items) ++ ts) cs) :
    ∃ cs', Layout ([']'] :: ts) cs' ∧ r.fill (slots.map Slot.member) count first s cs = .ok (last, cs') := by
  induction h generalizing count first cs with
  | done s =>
    rw [itemTokens, remaining_nil] at hcs
    exact ⟨cs, hcs, rfl⟩
  | @short f _ _ _ optional _ ih =>
    obtain ⟨left, hleft, hnext⟩ := nextElement_close hcs
    obtain ⟨cs', hcs', hfill⟩ := ih hleft
    refine ⟨cs', hcs', ?_⟩
    rw [List.map_cons, Record.fill, bind_of_ok hnext, if_neg (by decide), if_pos (show f.member.optional from optional)]
    exact hfill
  | @next f _ _ _ _ _ _ read _ ih =>
    obtain ⟨left, hleft, hnext⟩ := nextElement_next hcs
    obtain ⟨right, hright, hread⟩ := f.means_store read _ (ends_remaining .array _ ts) hleft
    obtain ⟨cs', hcs', hfill⟩ := ih hright
    refine ⟨cs', hcs', ?_⟩
    rw [List.map_cons, Record.fill, bind_of_ok hnext, if_pos rfl, bind_of_ok hread]
    exact hfill

/-- Whatever is read into the members is what the elements mean, if none of them is left. -/
theorem fills_of_fill {rest : List Char} (hcs : Layout (remaining first ']' (itemTokens items) ++ ts) cs)
    (h : r.fill (slots.map Slot.member) count first s cs = .ok (last, rest)) :
    ∃ (first : Bool) (left : List Tree), Layout (remaining first ']' (itemTokens left) ++ ts) rest ∧
      (left = [] → Fills slots s items last) := by
  induction slots generalizing count first s items cs with
  | nil =>
    cases h
    exact ⟨first, items, hcs, fun hleft => hleft ▸ .done _⟩
  | cons f slots ih =>
    rw [List.map_cons, Record.fill] at h
    cases items with
    | nil =>
      obtain ⟨cs', hcs', hnext⟩ := nextElement_close hcs
      rw [bind_of_ok hnext, if_neg (by decide)] at h
      by_cases hoptional : f.member.optional
      · rw [if_pos hoptional] at h
        obtain ⟨first, left, hleft, hfills⟩ := ih hcs' h
        exact ⟨first, left, hleft, fun hnil => .short hoptional (hfills hnil)⟩
      · rw [if_neg hoptional] at h
        cases h
    | cons x items =>
      obtain ⟨cs', hcs', hnext⟩ := nextElement_next hcs
      rw [bind_of_ok hnext, if_pos rfl] at h
      obtain ⟨between, right, hstore, hrest⟩ := bind_eq_ok h
      obtain ⟨v, hmeans, rfl, hright⟩ := f.of_store_ok (ends_remaining .array _ ts) hcs' hstore
      obtain ⟨first, left, hleft, hfills⟩ := ih hright hrest
      exact ⟨first, left, hleft, fun hnil => .next hmeans (hfills hnil)⟩

/-- The bracket closes an array only where no element is left. -/
theorem eq_nil_of_close {a b : α} {rest : List Char} (hcs : Layout (remaining first ']' (itemTokens items) ++ ts) cs)
    (h : (peekToken >>= fun c => if c = ']' then (do Scan.skip; return b) else Scan.fail .malformed) cs = .ok (a, rest)) :
    items = [] ∧ b = a := by
  cases items with
  | nil =>
    rw [itemTokens, remaining_nil] at hcs
    obtain ⟨cs', -, hpeek⟩ := Layout.mark hcs (by decide)
    rw [hpeek, if_pos rfl] at h
    cases h
    exact ⟨rfl, rfl⟩
  | cons x items =>
    rw [itemTokens] at hcs
    cases first with
    | true =>
      rw [remaining_true_cons] at hcs
      obtain ⟨cs', -, hpeek⟩ := hcs.tree
      have hclose : x.head ≠ ']' := x.head_ne_closer .array
      rw [hpeek, if_neg hclose] at h
      cases h
    | false =>
      rw [remaining_false_cons] at hcs
      obtain ⟨cs', -, hpeek⟩ := hcs.mark (by decide)
      rw [hpeek, if_neg (by decide)] at h
      cases h

end Arrays

/-! ### Records -/

section Records

variable {r : Record σ α} {slots : List (Slot σ)} {x : Tree} {a : α}

theorem Record.Completes.run {s : σ} (h : r.Completes s a) (cs : List Char) : r.complete s cs = .ok (a, cs) :=
  r.complete_run h.missing h.finish cs

theorem completes_of_complete {s : σ} {cs rest : List Char} (h : r.complete s cs = .ok (a, rest)) :
    r.Completes s a ∧ rest = cs := by
  rw [Record.complete] at h
  cases hmissing : r.missing? s with
  | some name =>
    rw [hmissing] at h
    cases h
  | none =>
    cases hfinish : r.finish s with
    | none =>
      simp only [hmissing, hfinish] at h
      cases h
    | some b =>
      simp only [hmissing, hfinish, pure_run] at h
      cases h
      exact ⟨⟨hmissing, hfinish⟩, rfl⟩

/-- Each member takes one token or more. -/
theorem length_le_enclosed (close : Char) (parts : List (List (List Char))) :
    parts.length ≤ (enclosed close parts).length := by
  have hothers (parts : List (List (List Char))) : parts.length < (others close parts).length := by
    induction parts with
    | nil => exact Nat.zero_lt_one
    | cons part parts ih =>
      have happend : others close (part :: parts) = ([','] :: part) ++ others close parts := by simp [others]
      rw [happend, List.length_append, List.length_cons, List.length_cons]
      omega
  cases parts with
  | nil => exact Nat.zero_le _
  | cons part parts =>
    have := hothers parts
    rw [enclosed, List.length_append, List.length_cons]
    omega

theorem length_members_le {members : List (List Glyph × Tree)} {ts : List (List Char)} {cs : List Char}
    (hcs : Layout (remaining true '\x7d' (memberTokens members) ++ ts) cs) : members.length ≤ cs.length := by
  have hne := (Tree.object members).ne_nil_of_mem_tokens
  rw [tokens_object] at hne
  have htokens := hcs.length_le fun token htoken => hne token (.tail _ htoken)
  have hmembers := length_le_enclosed '\x7d' (memberTokens members)
  have hlength : (memberTokens members).length = members.length := by rw [memberTokens_eq, List.length_map]
  rw [remaining, if_pos rfl] at htokens
  omega

theorem Record.Makes.means (hr : r.Has slots) (h : r.Makes slots x a) : Means r.read x a := by
  intro ts cs hts hcs
  cases h with
  | object gathers complete =>
    rw [tokens_object] at hcs
    obtain ⟨left, hleft, hpeek⟩ := Layout.mark hcs (by decide)
    obtain ⟨rest, hrest, hcollect⟩ := gathers.collect hr (Nat.lt_succ_of_le (length_members_le hleft)) hleft
    refine ⟨rest, hrest, ?_⟩
    rw [Record.read, hpeek, if_neg (by decide), if_pos rfl, skip_bind]
    refine (bind_of_ok hcollect).trans ?_
    rw [bind_of_ok (complete.run _)]
    rfl
  | array fills complete =>
    rw [tokens_array] at hcs
    obtain ⟨left, hleft, hpeek⟩ := Layout.mark hcs (by decide)
    obtain ⟨right, hright, hfill⟩ := fills.fill hleft
    obtain ⟨rest, hrest, hclose⟩ := hright.mark (by decide)
    refine ⟨rest, hrest, ?_⟩
    rw [Record.read, hpeek, if_pos rfl, skip_bind, hr.members_eq]
    refine (bind_of_ok hfill).trans ?_
    rw [bind_of_ok (complete.run _), hclose]
    rfl

/-- Whatever is read as a record has been made from the tree. -/
theorem makes_of_read (hr : r.Has slots) {ts : List (List Char)} {cs rest : List Char}
    (hcs : Layout (x.tokens ++ ts) cs) (h : r.read cs = .ok (a, rest)) : r.Makes slots x a := by
  have hother (harray : x.head ≠ '[') (hobject : x.head ≠ '\x7b') : r.Makes slots x a := by
    obtain ⟨cs', -, hpeek⟩ := hcs.tree
    rw [Record.read, hpeek, if_neg harray, if_neg hobject] at h
    exact absurd h (unexpected_ne_ok r.label cs' a rest)
  cases x with
  | object members =>
    rw [tokens_object] at hcs
    obtain ⟨left, hleft, hpeek⟩ := Layout.mark hcs (by decide)
    rw [Record.read, hpeek, if_neg (by decide), if_pos rfl, skip_bind] at h
    obtain ⟨last, _, hcollect, hrest⟩ := bind_eq_ok h
    obtain ⟨b, _, hcomplete, hclose⟩ := bind_eq_ok hrest
    cases hclose
    exact .object (gathers_of_collect hr hleft hcollect) (completes_of_complete hcomplete).1
  | array items =>
    rw [tokens_array] at hcs
    obtain ⟨left, hleft, hpeek⟩ := Layout.mark hcs (by decide)
    rw [Record.read, hpeek, if_pos rfl, skip_bind, hr.members_eq] at h
    obtain ⟨last, right, hfill, hrest⟩ := bind_eq_ok h
    obtain ⟨b, _, hcomplete, hclose⟩ := bind_eq_ok hrest
    obtain ⟨complete, rfl⟩ := completes_of_complete hcomplete
    obtain ⟨first, others, hothers, hfills⟩ := fills_of_fill hleft hfill
    obtain ⟨hnil, rfl⟩ := eq_nil_of_close hothers hclose
    exact .array (hfills hnil) complete
  | number n =>
    exact hother (Tree.head_number_ne n (by decide) (by decide)) (Tree.head_number_ne n (by decide) (by decide))
  | bool b => cases b <;> exact hother (by simp [Tree.head]) (by simp [Tree.head])
  | null | string => exact hother (by simp [Tree.head]) (by simp [Tree.head])

theorem Record.Has.blind (hr : r.Has slots) : Blind r.read :=
  fun _ _ _ _ _ _ hcs h => (makes_of_read hr hcs h).means hr

theorem Record.Has.means_iff (hr : r.Has slots) : Means r.read x a ↔ r.Makes slots x a := by
  refine ⟨fun h => ?_, fun h => h.means hr⟩
  obtain ⟨cs, hcs⟩ := exists_layout (x.tokens ++ [])
  obtain ⟨rest, -, hread⟩ := h ends_nil hcs
  exact makes_of_read hr hcs hread

end Records

end AlloyGrade.Json
