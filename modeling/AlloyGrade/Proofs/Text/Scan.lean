import AlloyGrade.Text.Scan

/-! Laws of readers: how they run one after the other, and what holds of whatever they give. -/

namespace AlloyGrade.Scan

variable {ε α β : Type}

section Running

variable {m : Scan ε α} {f : α → Scan ε β} {cs rest : List Char} {a : α}

attribute [simp] pure_run

theorem bind_of_ok (h : m cs = .ok (a, rest)) : (m >>= f) cs = f a rest := by
  rw [bind_run, h]

theorem bind_eq_ok {b : β} (h : (m >>= f) cs = .ok (b, rest)) :
    ∃ a left, m cs = .ok (a, left) ∧ f a left = .ok (b, rest) := by
  rw [bind_run] at h
  cases hm : m cs with
  | error e =>
    rw [hm] at h
    cases h
  | ok found =>
    rw [hm] at h
    exact ⟨found.1, found.2, rfl, h⟩

@[simp] theorem peek?_bind (f : Option Char → Scan ε β) (cs : List Char) : (peek? >>= f) cs = f cs.head? cs := rfl

@[simp] theorem skip_bind (f : Unit → Scan ε β) (cs : List Char) : (skip >>= f) cs = f () (cs.drop 1) := rfl

@[simp] theorem skipWhile_bind (p : Char → Bool) (f : Unit → Scan ε β) (cs : List Char) :
    (skipWhile p >>= f) cs = f () (cs.dropWhile p) := rfl

end Running

/-! ### Runs of characters -/

section Runs

variable {p : Char → Bool} {xs rest : List Char}

/-- No character of that kind comes next. -/
def Stops (p : Char → Bool) (rest : List Char) : Prop := ∀ c ∈ rest.head?, p c = false

theorem stops_nil : Stops p [] := nofun

theorem stops_cons {c : Char} (h : p c = false) (rest : List Char) : Stops p (c :: rest) :=
  fun _ hd => Option.some.inj hd ▸ h

theorem Stops.take (h : Stops p rest) (n : Nat) : Stops p (rest.take n) := by
  cases n with
  | zero => exact stops_nil
  | succ n =>
    cases rest with
    | nil => exact stops_nil
    | cons c rest => exact stops_cons (h c rfl) _

theorem takeWhile_append_of_stops (hx : ∀ c ∈ xs, p c) (hr : Stops p rest) : (xs ++ rest).takeWhile p = xs := by
  rw [List.takeWhile_append_of_pos hx]
  cases rest with
  | nil => simp
  | cons c rest => simp [hr c rfl]

theorem Stops.dropWhile_eq (h : Stops p rest) : rest.dropWhile p = rest := by
  cases rest with
  | nil => rfl
  | cons c rest => simp [h c rfl]

theorem dropWhile_append_of_stops (hx : ∀ c ∈ xs, p c) (hr : Stops p rest) : (xs ++ rest).dropWhile p = rest := by
  rw [List.dropWhile_append_of_pos hx, hr.dropWhile_eq]

end Runs

/-! ### What a reader can give -/

/-- Whatever the reader gives has the property. -/
def Yields (P : α → Prop) (m : Scan ε α) : Prop := ∀ cs a rest, m cs = .ok (a, rest) → P a

namespace Yields

variable {P Q : α → Prop} {R : β → Prop} {m : Scan ε α} {f : α → Scan ε β}

theorem of_pure {a : α} (h : P a) : Yields P (pure a : Scan ε α) := by
  intro cs b rest hb
  cases hb
  exact h

theorem of_fail (e : ε) : Yields P (fail e : Scan ε α) := nofun

theorem anything (m : Scan ε α) : Yields (fun _ => True) m := fun _ _ _ _ => trivial

theorem bind (hm : Yields P m) (hf : ∀ a, P a → Yields R (f a)) : Yields R (m >>= f) := by
  intro cs b rest hb
  obtain ⟨a, left, ha, hfa⟩ := bind_eq_ok hb
  exact hf a (hm cs a left ha) left b rest hfa

/-- What was read before does not matter. -/
theorem after (m : Scan ε α) (hf : ∀ a, Yields R (f a)) : Yields R (m >>= f) :=
  (anything m).bind fun a _ => hf a

theorem of_ite {c : Prop} [Decidable c] {m n : Scan ε α} (hm : c → Yields P m) (hn : ¬c → Yields P n) :
    Yields P (if c then m else n) := by
  by_cases h : c
  · rw [if_pos h]
    exact hm h
  · rw [if_neg h]
    exact hn h

end Yields

end AlloyGrade.Scan
