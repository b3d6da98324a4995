import AlloyGrade.Text.Utf8
import Mathlib.Tactic.SplitIfs

/-! The decoder takes exactly the octet strings that are the UTF-8 form of a text, and gives that text. -/

namespace AlloyGrade.Utf8

/-! ### The machine, without its accumulator -/

/-- What the machine emits from a state on, in order. -/
def emits : State → Bytes → List (Option Char)
  | state, [] => finish state
  | state, b :: bs => (step state b).2.reverse ++ emits (step state b).1 bs

theorem emits_of_foldl (bs : Bytes) (state : State) (out : List (Option Char)) :
    (finish (bs.foldl feed (state, out)).1 ++ (bs.foldl feed (state, out)).2).reverse = out.reverse ++ emits state bs := by
  induction bs generalizing state out with
  | nil => cases state <;> simp [emits, finish]
  | cons b bs ih => simp [feed, emits, ih]

theorem units_eq_emits (bs : Bytes) : units bs = emits .ground bs := emits_of_foldl bs .ground []

/-! ### First octets -/

section First

variable {b : UInt8}

theorem start_one (h : b.toNat < 0x80) : start b = (.ground, [some (Char.ofNat b.toNat)]) := by
  simp [start, h]

theorem start_two (h : 0xc2 ≤ b.toNat) (h' : b.toNat < 0xe0) :
    start b = (.pending 1 0x80 0xbf (b.toNat - 0xc0), []) := by
  have h₁ : ¬b.toNat < 0x80 := by omega
  have h₂ : ¬b.toNat < 0xc2 := by omega
  simp [start, h₁, h₂, h']

theorem start_three (h : 0xe0 ≤ b.toNat) (h' : b.toNat < 0xf0) :
    start b = (.pending 2 (if b.toNat = 0xe0 then 0xa0 else 0x80) (if b.toNat = 0xed then 0x9f else 0xbf)
      (b.toNat - 0xe0), []) := by
  have h₁ : ¬b.toNat < 0x80 := by omega
  have h₂ : ¬b.toNat < 0xc2 := by omega
  have h₃ : ¬b.toNat < 0xe0 := by omega
  simp only [start, h₁, h₂, h₃, h', if_false, if_true]
  split_ifs <;> simp_all

theorem start_four (h : 0xf0 ≤ b.toNat) (h' : b.toNat < 0xf5) :
    start b = (.pending 3 (if b.toNat = 0xf0 then 0x90 else 0x80) (if b.toNat = 0xf4 then 0x8f else 0xbf)
      (b.toNat - 0xf0), []) := by
  have h₁ : ¬b.toNat < 0x80 := by omega
  have h₂ : ¬b.toNat < 0xc2 := by omega
  have h₃ : ¬b.toNat < 0xe0 := by omega
  have h₄ : ¬b.toNat < 0xf0 := by omega
  have h₅ : b.toNat ≠ 0xe0 := by omega
  have h₆ : b.toNat ≠ 0xed := by omega
  simp only [start, h₁, h₂, h₃, h₄, h₅, h₆, if_false]
  split_ifs <;> simp_all
  omega

theorem start_none (h : (0x80 ≤ b.toNat ∧ b.toNat < 0xc2) ∨ 0xf5 ≤ b.toNat) : start b = (.ground, [none]) := by
  rw [start]
  split_ifs <;> first | rfl | omega

end First

/-! ### Encoded characters -/

theorem toNat_ofNat_char {n : Nat} (h : n.isValidChar) : (Char.ofNat n).toNat = n := by
  have hchar : Char.ofNat n = Char.ofNatAux n h := dif_pos h
  rw [hchar]
  rfl

theorem encode_one {c : Char} {b : UInt8} (h : c.toNat < 0x80) (hb : b.toNat = c.toNat) :
    String.utf8EncodeChar c = [b] := by
  have hv : c.val.toNat = c.toNat := rfl
  rw [String.utf8EncodeChar, hv, if_pos (by omega)]
  simp only [List.cons.injEq, UInt8.ofNat_eq_iff_mod_eq_toNat, and_true]
  omega

theorem encode_two {c : Char} {b₀ b₁ : UInt8} (h : 0x80 ≤ c.toNat) (h' : c.toNat < 0x800)
    (h₀ : b₀.toNat = 0xc0 + c.toNat / 64) (h₁ : b₁.toNat = 0x80 + c.toNat % 64) :
    String.utf8EncodeChar c = [b₀, b₁] := by
  have hv : c.val.toNat = c.toNat := rfl
  rw [String.utf8EncodeChar, hv, if_neg (by omega), if_pos (by omega)]
  simp only [List.cons.injEq, UInt8.ofNat_eq_iff_mod_eq_toNat, and_true]
  omega

theorem encode_three {c : Char} {b₀ b₁ b₂ : UInt8} (h : 0x800 ≤ c.toNat) (h' : c.toNat < 0x10000)
    (h₀ : b₀.toNat = 0xe0 + c.toNat / 4096) (h₁ : b₁.toNat = 0x80 + c.toNat / 64 % 64)
    (h₂ : b₂.toNat = 0x80 + c.toNat % 64) : String.utf8EncodeChar c = [b₀, b₁, b₂] := by
  have hv : c.val.toNat = c.toNat := rfl
  rw [String.utf8EncodeChar, hv, if_neg (by omega), if_neg (by omega), if_pos (by omega)]
  simp only [List.cons.injEq, UInt8.ofNat_eq_iff_mod_eq_toNat, and_true]
  omega

theorem encode_four {c : Char} {b₀ b₁ b₂ b₃ : UInt8} (h : 0x10000 ≤ c.toNat) (h' : c.toNat < 0x110000)
    (h₀ : b₀.toNat = 0xf0 + c.toNat / 262144) (h₁ : b₁.toNat = 0x80 + c.toNat / 4096 % 64)
    (h₂ : b₂.toNat = 0x80 + c.toNat / 64 % 64) (h₃ : b₃.toNat = 0x80 + c.toNat % 64) :
    String.utf8EncodeChar c = [b₀, b₁, b₂, b₃] := by
  have hv : c.val.toNat = c.toNat := rfl
  rw [String.utf8EncodeChar, hv, if_neg (by omega), if_neg (by omega), if_neg (by omega)]
  simp only [List.cons.injEq, UInt8.ofNat_eq_iff_mod_eq_toNat, and_true]
  omega

/-! ### What is decoded is encoded so -/

/-- The value that continuation octets complete. -/
def completed (value : Nat) (tail : Bytes) : Nat := tail.foldl (fun value b => value * 64 + (b.toNat - 0x80)) value

theorem completed_nil (value : Nat) : completed value [] = value := rfl

theorem completed_cons (value : Nat) (b : UInt8) (tail : Bytes) :
    completed value (b :: tail) = completed (value * 64 + (b.toNat - 0x80)) tail := by
  simp only [completed, List.foldl_cons]

/-- The continuation octets that a pending sequence takes. -/
def Fits : Nat → UInt8 → UInt8 → Bytes → Prop
  | 0, _, _, tail => tail = []
  | _ + 1, _, _, [] => False
  | due + 1, low, high, b :: tail => low ≤ b ∧ b ≤ high ∧ Fits due 0x80 0xbf tail

/-- A state holds the octets at the head of a sequence: whatever completes it, the whole is the encoded character. -/
def Holds : State → Bytes → Prop
  | .ground, head => head = []
  | .pending due low high value, head => 0 < due ∧ ∀ tail, Fits due low high tail →
      String.utf8EncodeChar (Char.ofNat (completed value tail)) = head ++ tail

theorem Fits.cons {due : Nat} {low high : UInt8} {tail : Bytes} (h : Fits (due + 1) low high tail) :
    ∃ b rest, tail = b :: rest ∧ low.toNat ≤ b.toNat ∧ b.toNat ≤ high.toNat ∧ Fits due 0x80 0xbf rest := by
  match tail, h with
  | b :: rest, ⟨hlow, hhigh, hrest⟩ =>
    exact ⟨b, rest, rfl, UInt8.le_iff_toNat_le.mp hlow, UInt8.le_iff_toNat_le.mp hhigh, hrest⟩

theorem holds_two {b : UInt8} (h : 0xc2 ≤ b.toNat) (h' : b.toNat < 0xe0) :
    Holds (.pending 1 0x80 0xbf (b.toNat - 0xc0)) [b] := by
  refine ⟨by decide, fun tail ht => ?_⟩
  obtain ⟨b₁, _, rfl, hlow, hhigh, rfl⟩ := ht.cons
  simp only [UInt8.reduceToNat] at hlow hhigh
  have hvalid : (completed (b.toNat - 0xc0) [b₁]).isValidChar := by
    simp only [completed_cons, completed_nil, Nat.isValidChar]
    omega
  have hc := toNat_ofNat_char hvalid
  simp only [completed_cons, completed_nil] at hc ⊢
  exact encode_two (by omega) (by omega) (by omega) (by omega)

theorem holds_three {b : UInt8} (h : 0xe0 ≤ b.toNat) (h' : b.toNat < 0xf0) :
    Holds (.pending 2 (if b.toNat = 0xe0 then 0xa0 else 0x80) (if b.toNat = 0xed then 0x9f else 0xbf)
      (b.toNat - 0xe0)) [b] := by
  refine ⟨by decide, fun tail ht => ?_⟩
  obtain ⟨b₁, _, rfl, hlow, hhigh, ht⟩ := ht.cons
  obtain ⟨b₂, _, rfl, hlow₂, hhigh₂, rfl⟩ := ht.cons
  simp only [apply_ite UInt8.toNat, UInt8.reduceToNat] at hlow hhigh hlow₂ hhigh₂
  have hsecond : (b.toNat = 0xe0 → 0xa0 ≤ b₁.toNat) ∧ 0x80 ≤ b₁.toNat ∧
      (b.toNat = 0xed → b₁.toNat ≤ 0x9f) ∧ b₁.toNat ≤ 0xbf := by
    split_ifs at hlow hhigh <;> omega
  have hvalid : (completed (b.toNat - 0xe0) [b₁, b₂]).isValidChar := by
    simp only [completed_cons, completed_nil, Nat.isValidChar]
    omega
  have hc := toNat_ofNat_char hvalid
  simp only [completed_cons, completed_nil] at hc ⊢
  exact encode_three (by omega) (by omega) (by omega) (by omega) (by omega)

theorem holds_four {b : UInt8} (h : 0xf0 ≤ b.toNat) (h' : b.toNat < 0xf5) :
    Holds (.pending 3 (if b.toNat = 0xf0 then 0x90 else 0x80) (if b.toNat = 0xf4 then 0x8f else 0xbf)
      (b.toNat - 0xf0)) [b] := by
  refine ⟨by decide, fun tail ht => ?_⟩
  obtain ⟨b₁, _, rfl, hlow, hhigh, ht⟩ := ht.cons
  obtain ⟨b₂, _, rfl, hlow₂, hhigh₂, ht⟩ := ht.cons
  obtain ⟨b₃, _, rfl, hlow₃, hhigh₃, rfl⟩ := ht.cons
  simp only [apply_ite UInt8.toNat, UInt8.reduceToNat] at hlow hhigh hlow₂ hhigh₂ hlow₃ hhigh₃
  have hsecond : (b.toNat = 0xf0 → 0x90 ≤ b₁.toNat) ∧ 0x80 ≤ b₁.toNat ∧
      (b.toNat = 0xf4 → b₁.toNat ≤ 0x8f) ∧ b₁.toNat ≤ 0xbf := by
    split_ifs at hlow hhigh <;> omega
  have hvalid : (completed (b.toNat - 0xf0) [b₁, b₂, b₃]).isValidChar := by
    simp only [completed_cons, completed_nil, Nat.isValidChar]
    omega
  have hc := toNat_ofNat_char hvalid
  simp only [completed_cons, completed_nil] at hc ⊢
  exact encode_four (by omega) (by omega) (by omega) (by omega) (by omega) (by omega)

/-- What an octet does at the start: it is a character, it is ill-formed, or it is held. -/
theorem start_cases (b : UInt8) :
    (∃ c, start b = (.ground, [some c]) ∧ String.utf8EncodeChar c = [b]) ∨ start b = (.ground, [none]) ∨
      ∃ state, start b = (state, []) ∧ Holds state [b] := by
  have hb := b.toNat_lt
  by_cases h₁ : b.toNat < 0x80
  · have hc := toNat_ofNat_char (n := b.toNat) (.inl (by omega))
    exact .inl ⟨_, start_one h₁, encode_one (by omega) hc.symm⟩
  · by_cases h₂ : b.toNat < 0xc2
    · exact .inr (.inl (start_none (.inl ⟨by omega, h₂⟩)))
    · by_cases h₃ : b.toNat < 0xe0
      · exact .inr (.inr ⟨_, start_two (by omega) h₃, holds_two (by omega) h₃⟩)
      · by_cases h₄ : b.toNat < 0xf0
        · exact .inr (.inr ⟨_, start_three (by omega) h₄, holds_three (by omega) h₄⟩)
        · by_cases h₅ : b.toNat < 0xf5
          · exact .inr (.inr ⟨_, start_four (by omega) h₅, holds_four (by omega) h₅⟩)
          · exact .inr (.inl (start_none (.inr (by omega))))

/-- What an octet does after others: it completes a character, it shows an ill-formed part, or it is held too. -/
theorem step_cases {state : State} {head : Bytes} (hold : Holds state head) (b : UInt8) :
    (∃ c, step state b = (.ground, [some c]) ∧ String.utf8EncodeChar c = head ++ [b]) ∨ none ∈ (step state b).2 ∨
      ∃ next, step state b = (next, []) ∧ Holds next (head ++ [b]) := by
  cases state with
  | ground =>
    obtain rfl : head = [] := hold
    exact (start_cases b).imp_right (.imp_left fun h => by rw [step, h]; exact .head _)
  | pending due low high value =>
    obtain ⟨hdue, hold⟩ := hold
    by_cases hb : low ≤ b ∧ b ≤ high
    · rw [step, if_pos hb]
      by_cases hone : due ≤ 1
      · obtain rfl : due = 1 := by omega
        have hc := hold [b] ⟨hb.1, hb.2, rfl⟩
        rw [completed_cons, completed_nil] at hc
        exact .inl ⟨_, if_pos hone, hc⟩
      · obtain ⟨n, rfl⟩ : ∃ n, due = n + 1 := ⟨due - 1, by omega⟩
        refine .inr (.inr ⟨_, if_neg hone, by omega, fun tail ht => ?_⟩)
        rw [List.append_assoc, List.singleton_append, ← hold (b :: tail) ⟨hb.1, hb.2, ht⟩, completed_cons]
    · rw [step, if_neg hb]
      exact .inr (.inl (List.mem_append_right _ (.head _)))

/-- If nothing is ill-formed, the characters emitted are what the octets encode. -/
theorem encode_emits {state : State} {head bs : Bytes} (hold : Holds state head)
    (hall : ∀ u ∈ emits state bs, u.isSome) :
    ((emits state bs).filterMap id).flatMap String.utf8EncodeChar = head ++ bs := by
  induction bs generalizing state head with
  | nil =>
    cases state with
    | ground => rw [show head = [] from hold]; rfl
    | pending => exact absurd (hall none (.head _)) (by decide)
  | cons b bs ih =>
    rw [emits] at hall ⊢
    rcases step_cases hold b with ⟨c, hs, hc⟩ | hnone | ⟨next, hs, hnext⟩
    · rw [hs] at hall ⊢
      have hground : Holds .ground [] := rfl
      simpa [hc] using ih hground fun u hu => hall u (List.mem_append_right _ hu)
    · exact absurd (hall none (List.mem_append_left _ (List.mem_reverse.mpr hnone))) (by decide)
    · rw [hs] at hall ⊢
      simpa using ih hnext fun u hu => hall u hu

/-! ### What is encoded is decoded so -/

/-- Continuation octets complete a pending sequence. -/
theorem emits_pending {due : Nat} {low high : UInt8} {tail : Bytes} (h : Fits (due + 1) low high tail) (value : Nat)
    (bs : Bytes) : emits (.pending (due + 1) low high value) (tail ++ bs) =
      some (Char.ofNat (completed value tail)) :: emits .ground bs := by
  induction due generalizing low high value tail with
  | zero =>
    match tail, h with
    | [b], ⟨hlow, hhigh, rfl⟩ => simp [emits, step, hlow, hhigh, completed_cons, completed_nil]
  | succ due ih =>
    match tail, h with
    | b :: rest, ⟨hlow, hhigh, hrest⟩ =>
      have hstep : step (.pending (due + 2) low high value) b =
          (.pending (due + 1) 0x80 0xbf (value * 64 + (b.toNat - 0x80)), []) := by
        simp [step, hlow, hhigh]
      rw [List.cons_append, emits, hstep, completed_cons, ih hrest]
      rfl

theorem emits_of_start {c : Char} {b : UInt8} {tail : Bytes} {due value : Nat} {low high : UInt8}
    (hencode : String.utf8EncodeChar c = b :: tail) (hstart : start b = (.pending (due + 1) low high value, []))
    (hfits : Fits (due + 1) low high tail) (hvalue : completed value tail = c.toNat) (bs : Bytes) :
    emits .ground (String.utf8EncodeChar c ++ bs) = some c :: emits .ground bs := by
  rw [hencode, List.cons_append, emits, step, hstart, emits_pending hfits, hvalue, Char.ofNat_toNat]
  rfl

/-- An encoded character is emitted again. -/
theorem emits_encode (c : Char) (bs : Bytes) :
    emits .ground (String.utf8EncodeChar c ++ bs) = some c :: emits .ground bs := by
  have hvalid : c.toNat < 0xd800 ∨ 0xdfff < c.toNat ∧ c.toNat < 0x110000 := c.valid
  have hoctet {n : Nat} (hn : n < 256) : (UInt8.ofNat n).toNat = n := UInt8.toNat_ofNat_of_lt' hn
  have htail (n : Nat) : (0x80 : UInt8) ≤ UInt8.ofNat (0x80 + n % 64) ∧ UInt8.ofNat (0x80 + n % 64) ≤ 0xbf := by
    simp only [UInt8.le_iff_toNat_le, hoctet (n := 0x80 + n % 64) (by omega), UInt8.reduceToNat]
    omega
  by_cases h₁ : c.toNat < 0x80
  · have hb := hoctet (n := c.toNat) (by omega)
    rw [encode_one h₁ hb, List.singleton_append, emits, step, start_one (by omega), hb, Char.ofNat_toNat]
    rfl
  have hlast := hoctet (n := 0x80 + c.toNat % 64) (by omega)
  by_cases h₂ : c.toNat < 0x800
  · have hfirst := hoctet (n := 0xc0 + c.toNat / 64) (by omega)
    refine emits_of_start (encode_two (by omega) h₂ hfirst hlast) (start_two (by omega) (by omega))
      ⟨(htail _).1, (htail _).2, rfl⟩ ?_ bs
    rw [completed_cons, completed_nil, hfirst, hlast]
    omega
  have hthird := hoctet (n := 0x80 + c.toNat / 64 % 64) (by omega)
  by_cases h₃ : c.toNat < 0x10000
  · have hfirst := hoctet (n := 0xe0 + c.toNat / 4096) (by omega)
    refine emits_of_start (encode_three (by omega) h₃ hfirst hthird hlast) (start_three (by omega) (by omega))
      ⟨?_, ?_, (htail _).1, (htail _).2, rfl⟩ ?_ bs
    · rw [UInt8.le_iff_toNat_le, hthird, hfirst]
      split_ifs <;> simp only [UInt8.reduceToNat] <;> omega
    · rw [UInt8.le_iff_toNat_le, hthird, hfirst]
      split_ifs <;> simp only [UInt8.reduceToNat] <;> omega
    · rw [completed_cons, completed_cons, completed_nil, hfirst, hthird, hlast]
      omega
  · have hfirst := hoctet (n := 0xf0 + c.toNat / 262144) (by omega)
    have hsecond := hoctet (n := 0x80 + c.toNat / 4096 % 64) (by omega)
    refine emits_of_start (encode_four (by omega) (by omega) hfirst hsecond hthird hlast)
      (start_four (by omega) (by omega)) ⟨?_, ?_, (htail _).1, (htail _).2, (htail _).1, (htail _).2, rfl⟩ ?_ bs
    · rw [UInt8.le_iff_toNat_le, hsecond, hfirst]
      split_ifs <;> simp only [UInt8.reduceToNat] <;> omega
    · rw [UInt8.le_iff_toNat_le, hsecond, hfirst]
      split_ifs <;> simp only [UInt8.reduceToNat] <;> omega
    · rw [completed_cons, completed_cons, completed_cons, completed_nil, hfirst, hsecond, hthird, hlast]
      omega

theorem units_ofString (s : String) : units (Bytes.ofString s) = s.toList.map some := by
  rw [units_eq_emits, Bytes.ofString]
  induction s.toList with
  | nil => rfl
  | cons c cs ih => rw [List.flatMap_cons, emits_encode, ih, List.map_cons]

/-- The decoder inverts the encoding. -/
theorem decode?_eq_some_iff {bs : Bytes} {s : String} : decode? bs = some s ↔ bs = Bytes.ofString s := by
  rw [decode?]
  constructor
  · intro h
    split_ifs at h with hall
    have hsome : ∀ u ∈ emits .ground bs, u.isSome := by
      rw [← units_eq_emits]
      exact fun u hu => List.all_eq_true.mp hall u hu
    rw [← Option.some.inj h, Bytes.ofString, String.toList_ofList, units_eq_emits]
    have hground : Holds .ground [] := rfl
    exact (encode_emits hground hsome).symm
  · rintro rfl
    simp [units_ofString]

end AlloyGrade.Utf8
