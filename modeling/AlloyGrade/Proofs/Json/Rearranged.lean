import AlloyGrade.Proofs.Json.Members
import Mathlib.Data.List.Forall2

/-! Documents that say the same. A struct may be written with its members in any order, among members that it does not
know, with `null` for what may be left out, or as an array of its values. A record makes the same of all of them. -/

namespace AlloyGrade.Json

/-- A field of a struct, with the fields in it if it is a struct itself. -/
inductive Field where
  | plain (name : String) (optional : Bool)
  | struct (name : String) (optional : Bool) (inner : List Field)

namespace Field

def name : Field → String
  | plain name _ | struct name _ _ => name

/-- May be left out, which is the same as `null`. -/
def optional : Field → Bool
  | plain _ optional | struct _ optional _ => optional

end Field

/-- No member of the object has that name. -/
def Lacks (members : List (List Glyph × Tree)) (name : String) : Prop := ∀ m ∈ members, spelling? m.1 ≠ some name

/-- The value of a field in an object, which is `null` where the field is left out. -/
inductive Valued (members : List (List Glyph × Tree)) (name : String) (optional : Bool) : Tree → Prop
  | given {key : List Glyph} {x : Tree} (hmem : (key, x) ∈ members) (hname : spelling? key = some name) :
      Valued members name optional x
  | absent (hoptional : optional) (hlacks : Lacks members name) : Valued members name optional .null

/-- One document says the same as another, as far as a struct with these fields is concerned. -/
inductive Rearranged : List Field → Tree → Tree → Prop
  | refl (fields : List Field) (x : Tree) : Rearranged fields x x
  | trans {fields : List Field} {x y z : Tree} (first : Rearranged fields x y) (second : Rearranged fields y z) :
      Rearranged fields x z
  | permute {fields : List Field} {members members' : List (List Glyph × Tree)} (h : members.Perm members') :
      Rearranged fields (.object members) (.object members')
  /-- A member with another name and any value. -/
  | insert {fields : List Field} {members : List (List Glyph × Tree)} {key : List Glyph} {name : String} (x : Tree)
      (hname : spelling? key = some name) (hother : ∀ f ∈ fields, f.name ≠ name) :
      Rearranged fields (.object members) (.object ((key, x) :: members))
  | giveNull {fields : List Field} {members : List (List Glyph × Tree)} {key : List Glyph} {f : Field} (hf : f ∈ fields)
      (hoptional : f.optional) (hname : spelling? key = some f.name) (hlacks : Lacks members f.name) :
      Rearranged fields (.object members) (.object ((key, .null) :: members))
  | omitNull {fields : List Field} {members : List (List Glyph × Tree)} {key : List Glyph} {f : Field} (hf : f ∈ fields)
      (hoptional : f.optional) (hname : spelling? key = some f.name) :
      Rearranged fields (.object ((key, .null) :: members)) (.object members)
  /-- All the values in declaration order. -/
  | list {fields : List Field} {members : List (List Glyph × Tree)} {items : List Tree}
      (h : List.Forall₂ (fun f => Valued members f.name f.optional) fields items) :
      Rearranged fields (.object members) (.array items)
  | member {fields inner : List Field} {members : List (List Glyph × Tree)} {key : List Glyph} {x y : Tree} {name : String}
      {optional : Bool} (hf : .struct name optional inner ∈ fields) (hname : spelling? key = some name)
      (h : Rearranged inner x y) : Rearranged fields (.object ((key, x) :: members)) (.object ((key, y) :: members))
  | item {fields inner : List Field} {items : List Tree} {i : Nat} {x y : Tree} {name : String} {optional : Bool}
      (hf : fields[i]? = some (.struct name optional inner)) (hx : items[i]? = some x) (h : Rearranged inner x y) :
      Rearranged fields (.array items) (.array (items.set i y))

/-! ### Gathering in another order -/

theorem Slot.ne_of_seen {σ : Type} (f : Slot σ) {g : Slot σ} {s : σ} {v : f.Value} (h : g.seen (f.put s v) = false) :
    f ≠ g := by
  rintro rfl
  rw [f.seen_put] at h
  cases h

section Gathering

variable {σ : Type} {slots : List (Slot σ)} (hslots : slots.Pairwise Slot.Apart) {s last : σ}
  {members : List (List Glyph × Tree)}
include hslots

/-- What is done with a member that is known. -/
theorem Gathers.known {f : Slot σ} (hf : f ∈ slots) {key : List Glyph} {x : Tree} (hname : spelling? key = some f.name)
    (h : Gathers slots s ((key, x) :: members) last) :
    ∃ v, f.seen s = false ∧ Means f.value x v ∧ Gathers slots (f.put s v) members last := by
  cases h with
  | skip hname' unknown _ =>
    rw [hname] at hname'
    exact absurd (Option.some.inj hname') (unknown f hf)
  | store g hg hname' new read rest =>
    rw [hname] at hname'
    obtain rfl := eq_of_name hslots hf hg (Option.some.inj hname')
    exact ⟨_, new, read, rest⟩

theorem Gathers.swap {m n : List Glyph × Tree} (h : Gathers slots s (m :: n :: members) last) :
    Gathers slots s (n :: m :: members) last := by
  cases h with
  | skip hname unknown rest =>
    cases rest with
    | skip hname' unknown' rest => exact .skip hname' unknown' (.skip hname unknown rest)
    | store g hg hname' new read rest => exact .store g hg hname' new read (.skip hname unknown rest)
  | store f hf hname new read rest =>
    cases rest with
    | skip hname' unknown rest => exact .skip hname' unknown (.store f hf hname new read rest)
    | store g hg hname' new' read' rest =>
      have hapart := apart_of_ne hslots hf hg (f.ne_of_seen new')
      rw [hapart.seen_left] at new'
      rw [hapart.put] at rest
      exact .store g hg hname' new' read' (.store f hf hname ((hapart.seen_right _ _).trans new) read rest)

theorem Gathers.perm {members' : List (List Glyph × Tree)} (h : Gathers slots s members last)
    (hperm : members.Perm members') : Gathers slots s members' last := by
  induction hperm generalizing s with
  | nil => exact h
  | cons m _ ih =>
    cases h with
    | skip hname unknown rest => exact .skip hname unknown (ih rest)
    | store f hf hname new read rest => exact .store f hf hname new read (ih rest)
  | swap m n members => exact h.swap hslots
  | trans _ _ ih₁ ih₂ => exact ih₂ (ih₁ h)

variable {f : Slot σ} (hf : f ∈ slots) {v : f.Value}
include hf

/-- A value that is already there does not matter to members with other names. -/
theorem Gathers.put (h : Gathers slots s members last) (hlacks : Lacks members f.name) :
    Gathers slots (f.put s v) members (f.put last v) ∧ f.seen last = f.seen s := by
  induction h with
  | done s => exact ⟨.done _, rfl⟩
  | skip hname unknown _ ih =>
    obtain ⟨hrest, hseen⟩ := ih fun m hm => hlacks m (.tail _ hm)
    exact ⟨.skip hname unknown hrest, hseen⟩
  | store g hg hname new read _ ih =>
    obtain ⟨hrest, hseen⟩ := ih fun m hm => hlacks m (.tail _ hm)
    have hne : f ≠ g := by
      rintro rfl
      exact hlacks _ (.head _) hname
    have hapart := apart_of_ne hslots hf hg hne
    rw [← hapart.put] at hrest
    exact ⟨.store g hg hname ((hapart.seen_left _ _).trans new) read hrest, hseen.trans (hapart.seen_right _ _)⟩

/-- A value that is there from the start is there in the end. -/
theorem Gathers.of_put (h : Gathers slots (f.put s v) members last) :
    ∃ last', last = f.put last' v ∧ f.seen last' = f.seen s ∧ Gathers slots s members last' := by
  generalize hstart : f.put s v = start at h
  induction h generalizing s with
  | done _ => exact ⟨s, hstart.symm, rfl, .done s⟩
  | skip hname unknown _ ih =>
    obtain ⟨last', hlast, hseen, hrest⟩ := ih hstart
    exact ⟨last', hlast, hseen, .skip hname unknown hrest⟩
  | @store _ _ _ _ _ g w hg hname new read _ ih =>
    subst hstart
    have hapart := apart_of_ne hslots hf hg (f.ne_of_seen new)
    obtain ⟨last', hlast, hseen, hrest⟩ := ih (hapart.put s v w).symm
    rw [hapart.seen_left] at new
    exact ⟨last', hlast, hseen.trans (hapart.seen_right s w), .store g hg hname new read hrest⟩

end Gathering

/-- Where all members are known to be there, only others are left. -/
theorem Gathers.eq_of_seen {σ : Type} {slots : List (Slot σ)} {s last : σ} {members : List (List Glyph × Tree)}
    (h : Gathers slots s members last) (hseen : ∀ f ∈ slots, f.seen s) : last = s := by
  induction h with
  | done s => rfl
  | skip _ _ _ ih => exact ih hseen
  | store f hf _ new => exact absurd (hseen f hf) (Bool.eq_false_iff.mp new)

/-! ### Null and listed values -/

/-- A member with another name can be left out. -/
theorem Valued.of_ne {front back : List (List Glyph × Tree)} {m : List Glyph × Tree} {name : String} {optional : Bool}
    {x : Tree} (h : Valued (front ++ m :: back) name optional x) (hne : spelling? m.1 ≠ some name) :
    Valued (front ++ back) name optional x := by
  cases h with
  | given hmem hname =>
    refine .given ?_ hname
    simp only [List.mem_append, List.mem_cons] at hmem ⊢
    rcases hmem with hfront | rfl | hback
    · exact .inl hfront
    · exact absurd hname hne
    · exact .inr hback
  | absent hoptional hlacks =>
    refine .absent hoptional fun n hn => hlacks n ?_
    simp only [List.mem_append, List.mem_cons] at hn ⊢
    exact hn.imp_right .inr

theorem forall₂_imp_mem {α β : Type*} {R S : α → β → Prop} {as : List α} {bs : List β} (h : List.Forall₂ R as bs)
    (himp : ∀ a ∈ as, ∀ b, R a b → S a b) : List.Forall₂ S as bs := by
  induction h with
  | nil => exact .nil
  | cons hab _ ih => exact .cons (himp _ (.head _) _ hab) (ih fun a ha => himp a (.tail _ ha))

section Listing

variable {α σ : Type} {r : Record σ α} {slots : List (Slot σ)} (hr : r.Has slots)
include hr

/-- A `null` that is stored makes no difference to the record. -/
theorem Record.Has.completes_null {f : Slot σ} (hf : f ∈ slots) (hoptional : f.optional) :
    ∃ v, Means f.value .null v ∧ ∀ s a, f.seen s = false → (r.Completes (f.put s v) a ↔ r.Completes s a) := by
  obtain ⟨v, hv, hfinish⟩ := hr.null f hf hoptional
  have hmissing (s : σ) : r.missing? (f.put s v) = none ↔ r.missing? s = none := by
    rw [hr.missing?_eq_none, hr.missing?_eq_none]
    refine forall₂_congr fun g hg => ?_
    by_cases hne : f = g
    · subst hne
      simp [hoptional]
    · rw [(apart_of_ne hr.apart hf hg hne).seen_left]
  refine ⟨v, hv, fun s a hs => ⟨fun h => ?_, fun h => ?_⟩⟩
  · exact ⟨(hmissing s).mp h.missing, (hfinish s hs).symm.trans h.finish⟩
  · exact ⟨(hmissing s).mpr h.missing, (hfinish s hs).trans h.finish⟩

/-- The members that are not there yet are read from an array of their values. -/
theorem Gathers.fills {missing : List (Slot σ)} {items : List Tree} {s last : σ} {members : List (List Glyph × Tree)}
    (h : Gathers slots s members last) (hmissing : ∀ f ∈ slots, f.seen s = false ↔ f ∈ missing)
    (hsub : missing.Sublist slots)
    (hvalued : List.Forall₂ (fun f : Slot σ => Valued members f.name f.optional) missing items) :
    ∃ last', Fills missing s items last' ∧ ∀ a, r.Completes last a → r.Completes last' a := by
  -- Each step stores the first of the missing members. If it is not in the object, the two collections differ from there
  -- on, but only by a `null`.
  induction missing generalizing items s members last with
  | nil =>
    cases hvalued
    obtain rfl := h.eq_of_seen fun f hf => eq_true_of_ne_false fun hs => List.not_mem_nil ((hmissing f hf).mp hs)
    exact ⟨last, .done last, fun _ => id⟩
  | cons f missing ih =>
    have hf : f ∈ slots := hsub.subset (.head _)
    have hnew : f.seen s = false := (hmissing f hf).mpr (.head _)
    have hothers := (List.pairwise_cons.mp (hr.apart.sublist hsub)).1
    have hstored (v : f.Value) : ∀ g ∈ slots, g.seen (f.put s v) = false ↔ g ∈ missing := by
      intro g hg
      by_cases hne : f = g
      · subst hne
        simp only [f.seen_put, Bool.true_eq_false, false_iff]
        exact fun hmem => (hothers f hmem).name rfl
      · rw [(apart_of_ne hr.apart hf hg hne).seen_left, hmissing g hg]
        simp [Ne.symm hne]
    cases hvalued with
    | @cons _ x _ items hx hrest =>
      cases hx with
      | @given key _ hmem hname =>
        obtain ⟨front, back, rfl⟩ := List.append_of_mem hmem
        obtain ⟨v, -, read, rest⟩ := (h.perm hr.apart List.perm_middle).known hr.apart hf hname
        have hleft : List.Forall₂ (fun f : Slot σ => Valued (front ++ back) f.name f.optional) missing items := by
          refine forall₂_imp_mem hrest fun g hg y hy => hy.of_ne ?_
          rw [hname]
          exact fun h => (hothers g hg).name (Option.some.inj h)
        obtain ⟨last', hfills, hcompletes⟩ := ih rest (hstored v) (List.sublist_of_cons_sublist hsub) hleft
        exact ⟨last', .next read hfills, hcompletes⟩
      | absent hoptional hlacks =>
        obtain ⟨v, hv, hnull⟩ := hr.completes_null hf hoptional
        obtain ⟨hrest', hseen⟩ := h.put hr.apart hf hlacks (v := v)
        obtain ⟨last', hfills, hcompletes⟩ := ih hrest' (hstored v) (List.sublist_of_cons_sublist hsub) hrest
        exact ⟨last', .next hv hfills, fun a ha => hcompletes a ((hnull last a (hseen.trans hnew)).mpr ha)⟩

end Listing

/-! ### Records of rearranged documents -/

/-- The reader makes the same of a document that says the same. -/
def Keeps {α : Type} (fields : List Field) (reader : Reader α) : Prop :=
  ∀ ⦃x y : Tree⦄ ⦃a : α⦄, Rearranged fields x y → Means reader x a → Means reader y a

/-- The member is described by the field. -/
def Slot.Fits {σ : Type} (f : Slot σ) : Field → Prop
  | .plain name optional => f.name = name ∧ f.optional = optional
  | .struct name optional inner => f.name = name ∧ f.optional = optional ∧ Keeps inner f.value

section Fits

variable {σ : Type} {f : Slot σ} {field : Field}

theorem Slot.Fits.name_eq (h : f.Fits field) : f.name = field.name := by
  cases field with
  | plain => exact h.1
  | struct => exact h.1

theorem Slot.Fits.optional_eq (h : f.Fits field) : f.optional = field.optional := by
  cases field with
  | plain => exact h.2
  | struct => exact h.2.1

variable {slots : List (Slot σ)} {fields : List Field} (h : List.Forall₂ Slot.Fits slots fields)
include h

theorem exists_field (hf : f ∈ slots) : ∃ field ∈ fields, f.Fits field := by
  induction h with
  | nil => cases hf
  | cons hfits _ ih =>
    rcases List.mem_cons.mp hf with rfl | hf
    · exact ⟨_, .head _, hfits⟩
    · obtain ⟨field, hfield, hfits⟩ := ih hf
      exact ⟨field, .tail _ hfield, hfits⟩

theorem exists_slot_at {i : Nat} (hfield : fields[i]? = some field) : ∃ f, slots[i]? = some f ∧ f.Fits field := by
  induction h generalizing i with
  | nil => cases hfield
  | cons hfits _ ih =>
    cases i with
    | zero =>
      cases hfield
      exact ⟨_, rfl, hfits⟩
    | succ i => exact ih hfield

theorem exists_slot (hfield : field ∈ fields) : ∃ f ∈ slots, f.Fits field := by
  obtain ⟨i, hi⟩ := List.mem_iff_getElem?.mp hfield
  obtain ⟨f, hf, hfits⟩ := exists_slot_at h hi
  exact ⟨f, List.mem_of_getElem? hf, hfits⟩

theorem valued_slots {members : List (List Glyph × Tree)} {items : List Tree}
    (hvalued : List.Forall₂ (fun f : Field => Valued members f.name f.optional) fields items) :
    List.Forall₂ (fun f : Slot σ => Valued members f.name f.optional) slots items := by
  induction h generalizing items with
  | nil =>
    cases hvalued
    exact .nil
  | cons hfits _ ih =>
    cases hvalued with
    | cons hx hrest =>
      rw [← hfits.name_eq, ← hfits.optional_eq] at hx
      exact .cons hx (ih hrest)

end Fits

theorem Fills.set {σ : Type} {slots : List (Slot σ)} {s last : σ} {items : List Tree} (h : Fills slots s items last)
    {i : Nat} {f : Slot σ} {x y : Tree} (hf : slots[i]? = some f) (hx : items[i]? = some x)
    (hmeans : ∀ v, Means f.value x v → Means f.value y v) : Fills slots s (items.set i y) last := by
  induction h generalizing i with
  | done => cases hf
  | short => cases hx
  | next read rest ih =>
    cases i with
    | zero =>
      cases hf
      cases hx
      exact .next (hmeans _ read) rest
    | succ i => exact .next read (ih hf hx)

theorem Rearranged.eq_null_iff {fields : List Field} {x y : Tree} (h : Rearranged fields x y) : x = .null ↔ y = .null := by
  induction h with
  | refl => exact Iff.rfl
  | trans _ _ ih₁ ih₂ => exact ih₁.trans ih₂
  | permute | insert | giveNull | omitNull | list | member | item => exact ⟨nofun, nofun⟩

/-- A value that may be `null` is rearranged if it is not. -/
theorem Keeps.nullable {α : Type} {fields : List Field} {value : Reader α} (h : Keeps fields value) (hblind : Blind value) :
    Keeps fields (nullable value) := by
  intro x y o hxy hx
  by_cases hnull : x = .null
  · rwa [hxy.eq_null_iff.mp hnull, ← hnull]
  · obtain ⟨cs, hcs⟩ := exists_layout (x.tokens ++ [])
    obtain ⟨rest, -, hread⟩ := hx ends_nil hcs
    obtain ⟨a, ha, rfl⟩ := hblind.of_nullable_ok hnull ends_nil hcs hread
    exact (h hxy ha).nullable fun hy => hnull (hxy.eq_null_iff.mpr hy)

/-- A record makes the same of all documents that say the same. -/
theorem Record.Has.keeps {α σ : Type} {r : Record σ α} {slots : List (Slot σ)} {fields : List Field} (hr : r.Has slots)
    (hfits : List.Forall₂ Slot.Fits slots fields) : Keeps fields r.read := by
  intro x y a hxy
  rw [hr.means_iff, hr.means_iff]
  intro hx
  -- What changes inside a member is left to the reader of that member, so nothing is assumed about it here.
  induction hxy with
  | refl => exact hx
  | trans _ _ ih₁ ih₂ => exact ih₂ hfits (ih₁ hfits hx)
  | permute hperm =>
    cases hx with
    | object gathers complete => exact .object (gathers.perm hr.apart hperm) complete
  | insert x hname hother =>
    cases hx with
    | object gathers complete =>
      refine .object (.skip hname (fun f hf hfname => ?_) gathers) complete
      obtain ⟨field, hfield, hfit⟩ := exists_field hfits hf
      exact hother field hfield (hfit.name_eq.symm.trans hfname)
  | giveNull hf hoptional hname hlacks =>
    obtain ⟨f, hf, hfit⟩ := exists_slot hfits hf
    rw [← hfit.optional_eq] at hoptional
    rw [← hfit.name_eq] at hname hlacks
    cases hx with
    | object gathers complete =>
      obtain ⟨v, hv, hnull⟩ := hr.completes_null hf hoptional
      obtain ⟨hrest, hseen⟩ := gathers.put hr.apart hf hlacks (v := v)
      have hnew := hr.start f hf
      exact .object (.store f hf hname hnew hv hrest) ((hnull _ a (hseen.trans hnew)).mpr complete)
  | omitNull hf hoptional hname =>
    obtain ⟨f, hf, hfit⟩ := exists_slot hfits hf
    rw [← hfit.optional_eq] at hoptional
    rw [← hfit.name_eq] at hname
    cases hx with
    | object gathers complete =>
      obtain ⟨v, hv, hnull⟩ := hr.completes_null hf hoptional
      obtain ⟨w, new, read, rest⟩ := gathers.known hr.apart hf hname
      obtain rfl := hv.unique read
      obtain ⟨last, rfl, hseen, hrest⟩ := rest.of_put hr.apart hf
      exact .object hrest ((hnull last a (hseen.trans new)).mp complete)
  | list hvalued =>
    cases hx with
    | object gathers complete =>
      have hmissing : ∀ f ∈ slots, f.seen r.start = false ↔ f ∈ slots := fun f hf => iff_of_true (hr.start f hf) hf
      obtain ⟨last, hfills, hcompletes⟩ := gathers.fills hr hmissing (List.Sublist.refl slots) (valued_slots hfits hvalued)
      exact .array hfills (hcompletes a complete)
  | member hf hname hinner =>
    obtain ⟨f, hf, hfit⟩ := exists_slot hfits hf
    rw [← hfit.1] at hname
    cases hx with
    | object gathers complete =>
      obtain ⟨v, new, read, rest⟩ := gathers.known hr.apart hf hname
      exact .object (.store f hf hname new (hfit.2.2 hinner read) rest) complete
  | item hf hx' hinner =>
    obtain ⟨f, hf, hfit⟩ := exists_slot_at hfits hf
    cases hx with
    | array fills complete => exact .array (fills.set hf hx' fun v hv => hfit.2.2 hinner hv) complete

end AlloyGrade.Json
