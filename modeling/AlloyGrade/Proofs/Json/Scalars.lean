import AlloyGrade.Proofs.Json.Grammar

/-! Words, strings and numbers. Each of them is passed over as a whole where nobody asks for it, and where it is wanted,
what is read depends on its characters alone. -/

namespace AlloyGrade.Json

open Scan

variable {α β : Type}

/-! ### Strings -/

theorem skipStringBody_close (rest : List Char) : skipStringBody ('"' :: rest) = .ok rest := by
  rw [skipStringBody.eq_def]
  rfl

theorem simpleEscape?_ne {e c : Char} (h : simpleEscape? e = some c) : e ≠ 'u' := by
  rintro rfl
  have hnone : simpleEscape? 'u' = none := by decide
  rw [hnone] at h
  cases h

theorem skipStringBody_glyph (g : Glyph) (cs : List Char) : skipStringBody (g.chars ++ cs) = skipStringBody cs := by
  cases g with
  | plain c hquote hslash hcontrol =>
    rw [Glyph.chars, List.singleton_append, skipStringBody.eq_def]
    simp only [if_neg hquote, if_neg hslash, if_neg hcontrol]
  | escape e c h =>
    have hu := simpleEscape?_ne h
    simp only [Glyph.chars, List.cons_append, List.nil_append]
    rw [skipStringBody.eq_def]
    simp [hu, h]
  | unicode h₁ h₂ h₃ h₄ n h =>
    simp only [Glyph.chars, List.cons_append, List.nil_append]
    rw [skipStringBody.eq_def]
    simp [h]

/-- Every string is passed over, whether or not its surrogates pair. -/
theorem skipStringBody_glyphs (glyphs : List Glyph) (rest : List Char) :
    skipStringBody (glyphs.flatMap Glyph.chars ++ '"' :: rest) = .ok rest := by
  induction glyphs with
  | nil => exact skipStringBody_close rest
  | cons g glyphs ih => rw [List.flatMap_cons, List.append_assoc, skipStringBody_glyph, ih]

theorem stringBody_leading {n m : Nat} {h₁ h₂ h₃ h₄ l₁ l₂ l₃ l₄ : Char} (hn : hexQuad? h₁ h₂ h₃ h₄ = some n)
    (ht : isTrailing n = false) (hl : isLeading n) (hm : hexQuad? l₁ l₂ l₃ l₄ = some m) (cs acc : List Char) :
    stringBody ('\\' :: 'u' :: h₁ :: h₂ :: h₃ :: h₄ :: '\\' :: 'u' :: l₁ :: l₂ :: l₃ :: l₄ :: cs) acc =
      if isTrailing m then stringBody cs (ofSurrogates n m :: acc) else .error .malformed := by
  rw [stringBody.eq_def]
  simp [hn, ht, hl, hm]

/-- A string that spells a text is read as that text. -/
theorem stringBody_spelled {glyphs : List Glyph} {cs : List Char} (h : spelled? glyphs = some cs)
    (rest acc : List Char) :
    stringBody (glyphs.flatMap Glyph.chars ++ '"' :: rest) acc = .ok (acc.reverse ++ cs, rest) := by
  fun_induction spelled? glyphs generalizing cs acc with
  | case1 =>
    cases h
    simp [stringBody_close]
  | case2 c hquote hslash hcontrol glyphs ih =>
    obtain ⟨tail, htail, rfl⟩ := Option.map_eq_some_iff.mp h
    simp [Glyph.chars, stringBody_plain hquote hslash hcontrol, ih htail]
  | case3 e c hescape glyphs ih =>
    obtain ⟨tail, htail, rfl⟩ := Option.map_eq_some_iff.mp h
    simp [Glyph.chars, stringBody_simple (simpleEscape?_ne hescape) hescape, ih htail]
  | case4 => cases h
  | case5 h₁ h₂ h₃ h₄ n hn ht hl l₁ l₂ l₃ l₄ m hm glyphs hm' ih =>
    obtain ⟨tail, htail, rfl⟩ := Option.map_eq_some_iff.mp h
    simp [Glyph.chars, stringBody_leading hn (by simpa using ht) hl hm, hm', ih htail]
  | case6 => cases h
  | case7 => cases h
  | case8 h₁ h₂ h₃ h₄ n hn glyphs ht hl ih =>
    obtain ⟨tail, htail, rfl⟩ := Option.map_eq_some_iff.mp h
    simp [Glyph.chars, stringBody_unicode hn (by simpa using ht) (by simpa using hl), ih htail]

/-- A string that spells no text is refused. -/
theorem stringBody_unspelled {glyphs : List Glyph} (h : spelled? glyphs = none) (rest acc : List Char) :
    ∃ e, stringBody (glyphs.flatMap Glyph.chars ++ '"' :: rest) acc = .error e := by
  fun_induction spelled? glyphs generalizing acc with
  | case1 => cases h
  | case2 c hquote hslash hcontrol glyphs ih =>
    obtain ⟨e, he⟩ := ih (Option.map_eq_none_iff.mp h) (c :: acc)
    exact ⟨e, by simp [Glyph.chars, stringBody_plain hquote hslash hcontrol, he]⟩
  | case3 e c hescape glyphs ih =>
    obtain ⟨fault, hfault⟩ := ih (Option.map_eq_none_iff.mp h) (c :: acc)
    exact ⟨fault, by simp [Glyph.chars, stringBody_simple (simpleEscape?_ne hescape) hescape, hfault]⟩
  | case4 h₁ h₂ h₃ h₄ n hn glyphs ht =>
    refine ⟨.malformed, ?_⟩
    simp only [List.flatMap_cons, Glyph.chars, List.cons_append, List.nil_append]
    rw [stringBody.eq_def]
    simp [hn, ht]
  | case5 h₁ h₂ h₃ h₄ n hn ht hl l₁ l₂ l₃ l₄ m hm glyphs hm' ih =>
    obtain ⟨e, he⟩ := ih (Option.map_eq_none_iff.mp h) (ofSurrogates n m :: acc)
    exact ⟨e, by simp [Glyph.chars, stringBody_leading hn (by simpa using ht) hl hm, hm', he]⟩
  | case6 h₁ h₂ h₃ h₄ n hn ht hl l₁ l₂ l₃ l₄ m hm glyphs hm' =>
    exact ⟨.malformed, by simp [Glyph.chars, stringBody_leading hn (by simpa using ht) hl hm, hm']⟩
  | case7 h₁ h₂ h₃ h₄ n hn glyphs ht hl hnext =>
    -- The other half is missing: what comes next is the closing quote, or no escape, or another escape.
    refine ⟨.malformed, ?_⟩
    simp only [List.flatMap_cons, Glyph.chars, List.cons_append, List.nil_append]
    rw [stringBody.eq_def]
    cases glyphs with
    | nil => simp [hn, ht, hl]
    | cons g glyphs =>
      cases g with
      | plain c hquote hslash hcontrol => simp [Glyph.chars, hn, ht, hl, hslash]
      | escape e c hescape => simp [Glyph.chars, hn, ht, hl, simpleEscape?_ne hescape]
      | unicode l₁ l₂ l₃ l₄ m hm => exact absurd rfl (hnext l₁ l₂ l₃ l₄ m hm glyphs)
  | case8 h₁ h₂ h₃ h₄ n hn glyphs ht hl ih =>
    obtain ⟨e, he⟩ := ih (Option.map_eq_none_iff.mp h) (Char.ofNat n :: acc)
    exact ⟨e, by simp [Glyph.chars, stringBody_unicode hn (by simpa using ht) (by simpa using hl), he]⟩

theorem string_spelled {glyphs : List Glyph} {text : String} (h : spelling? glyphs = some text) (rest : List Char) :
    string (literal glyphs ++ rest) = .ok (text, rest) := by
  obtain ⟨cs, hcs, rfl⟩ := Option.map_eq_some_iff.mp h
  simp [string, literal, stringBody_spelled hcs]

theorem string_unspelled {glyphs : List Glyph} (h : spelling? glyphs = none) (rest : List Char) :
    ∃ e, string (literal glyphs ++ rest) = .error e := by
  obtain ⟨e, he⟩ := stringBody_unspelled (Option.map_eq_none_iff.mp h) rest []
  exact ⟨e, by simp [string, literal, he]⟩

/-! ### Numbers -/

/-- A reader that has seen all it needs to see. -/
def Settled (reader : Reader α) : Prop := (∃ a, reader = pure a) ∨ ∃ e, reader = Scan.fail e

theorem settled_ite {c : Prop} [Decidable c] {m n : Reader α} (hm : Settled m) (hn : Settled n) :
    Settled (if c then m else n) := by
  split_ifs
  · exact hm
  · exact hn

theorem settled_pure (a : α) : Settled (pure a : Reader α) := .inl ⟨a, rfl⟩

theorem settled_fail (e : ReadError) : Settled (Scan.fail e : Reader α) := .inr ⟨e, rfl⟩

theorem Settled.bind {m : Reader α} {f : α → Reader β} (hm : Settled m) (hf : ∀ a, Settled (f a)) :
    Settled (m >>= f) := by
  rcases hm with ⟨a, rfl⟩ | ⟨e, rfl⟩
  · exact hf a
  · exact settled_fail e

theorem settled_floatOf (positive : Bool) (s : Significand) (exponent : Int) : Settled (floatOf positive s exponent) := by
  rw [floatOf]
  split
  · exact settled_fail _
  · exact settled_pure _

theorem takeDigits_run (ds : DigitRun) {rest : List Char} (hr : Stops Char.isDigit rest) :
    takeDigits (ds.chars ++ rest) = .ok (ds.chars, rest) := by
  simp [takeDigits, takeWhile_append_of_stops ds.digits hr]

/-- What can stand where an exponent can begin. -/
theorem stops_exponent {p : Char → Bool} (exponent : Option Exponent) {rest : List Char} (hr : Follows rest)
    (hp : ['e', 'E', ',', ']', '\x7d', ' ', '\n', '\t', '\r'].any p = false) :
    Stops p ((exponent.map Exponent.chars).getD [] ++ rest) := by
  have hnone := List.any_eq_false.mp hp
  cases exponent with
  | none => exact fun c hc => Bool.eq_false_iff.mpr (hnone c (.tail _ (.tail _ (hr c hc))))
  | some e =>
    refine stops_cons (Bool.eq_false_iff.mpr ?_) _
    rcases e.hletter with h | h
    · rw [h]
      exact hnone _ (.head _)
    · rw [h]
      exact hnone _ (.tail _ (.head _))

theorem DigitRun.eq_cons (ds : DigitRun) : ∃ c tail, ds.chars = c :: tail ∧ c.isDigit := by
  obtain ⟨c, tail, hds⟩ := List.exists_cons_of_ne_nil ds.ne_nil
  exact ⟨c, tail, hds, ds.digits c (by rw [hds]; exact .head _)⟩

theorem ne_of_isDigit {c d : Char} (hc : c.isDigit) (hd : d.isDigit = false) : c ≠ d := by
  rintro rfl
  rw [hc] at hd
  cases hd

theorem exponentTail_run (positive : Bool) (s : Significand) (e : Exponent) :
    ∃ reader, Settled reader ∧ ∀ rest, Follows rest →
      exponentTail positive s (e.sign.toList ++ (e.digits.chars ++ rest)) = reader rest := by
  obtain ⟨c, tail, hds, hc⟩ := e.digits.eq_cons
  have hplus : c ≠ '+' := ne_of_isDigit hc (by decide)
  have hminus : c ≠ '-' := ne_of_isDigit hc (by decide)
  let value := e.digits.chars.foldl (fun n c => n * 10 + (c.toNat - 48)) 0
  refine ⟨if maxExponent < value then
      if s.value ≠ 0 ∧ e.sign ≠ some '-' then Scan.fail .malformed else pure (.float (if positive then 0.0 else -0.0))
    else floatOf positive s (if e.sign = some '-' then -(value : Int) else value),
    settled_ite (settled_ite (settled_fail _) (settled_pure _)) (settled_floatOf _ _ _), fun rest hr => ?_⟩
  have htake := takeDigits_run e.digits (hr.stops (p := Char.isDigit) (by decide))
  have hhead : (e.digits.chars ++ rest).head? = some c := by rw [hds]; rfl
  rw [exponentTail, peek?_bind]
  cases hs : e.sign with
  | none => simp [hhead, hplus, hminus, hc, bind_of_ok htake, value]
  | some sign =>
    rcases e.hsign sign hs with rfl | rfl
    · simp [hhead, hc, bind_of_ok htake, value]
    · simp [hhead, hc, bind_of_ok htake, value]

/-- Where a number has no fraction and no exponent. -/
theorem Follows.ne_tail {rest : List Char} (hr : Follows rest) :
    rest.head? ≠ some '.' ∧ rest.head? ≠ some 'e' ∧ rest.head? ≠ some 'E' := by
  have hstops := hr.stops (p := fun c => c == '.' || c == 'e' || c == 'E') (by decide)
  have hne (c : Char) (hc : (c == '.' || c == 'e' || c == 'E') = true) : rest.head? ≠ some c := by
    intro h
    exact absurd hc (Bool.eq_false_iff.mp (hstops c h))
  exact ⟨hne _ (by decide), hne _ (by decide), hne _ (by decide)⟩

theorem numberTail_settles (positive : Bool) (s : Significand) (n : Numeral) :
    ∃ reader, Settled reader ∧ ∀ rest, Follows rest → numberTail positive s (n.tail ++ rest) = reader rest := by
  rw [Numeral.tail]
  cases n.fraction with
  | none =>
    cases he : n.exponent with
    | none =>
      refine ⟨if s.full then floatOf positive s 0 else if positive then pure (.unsigned s.value)
        else if s.value = 0 ∨ Nat.pow 2 63 < s.value then floatOf false s 0 else pure (.negative (-(s.value : Int))),
        settled_ite (settled_floatOf _ _ _) (settled_ite (settled_pure _)
          (settled_ite (settled_floatOf _ _ _) (settled_pure _))), fun rest hr => ?_⟩
      obtain ⟨hdot, he, hE⟩ := hr.ne_tail
      rw [numberTail, peek?_bind]
      simp only [Option.map_none, Option.getD_none, List.nil_append]
    | some e =>
      obtain ⟨reader, hsettled, hrun⟩ := exponentTail_run positive s e
      refine ⟨reader, hsettled, fun rest hr => ?_⟩
      rw [← hrun rest hr, numberTail, peek?_bind]
      rcases e.hletter with h | h
      · simp [Exponent.chars, h]
      · simp [Exponent.chars, h]
  | some ds =>
    cases he : n.exponent with
    | none =>
      refine ⟨floatOf positive (ds.chars.foldl Significand.fractional { s with full := false }) 0, settled_floatOf _ _ _,
        fun rest hr => ?_⟩
      obtain ⟨-, he, hE⟩ := hr.ne_tail
      have htake : takeDigits (ds.chars ++ rest) = .ok (ds.chars, rest) :=
        takeDigits_run ds (stops_exponent none hr (by decide))
      rw [numberTail, peek?_bind]
      simp [bind_of_ok htake, ds.ne_nil, he, hE]
    | some e =>
      obtain ⟨reader, hsettled, hrun⟩ :=
        exponentTail_run positive (ds.chars.foldl Significand.fractional { s with full := false }) e
      refine ⟨reader, hsettled, fun rest hr => ?_⟩
      have htake : takeDigits (ds.chars ++ (e.chars ++ rest)) = .ok (ds.chars, e.chars ++ rest) :=
        takeDigits_run ds (stops_exponent (some e) hr (by decide))
      rw [← hrun rest hr, numberTail, peek?_bind]
      rcases e.hletter with h | h
      · simp [bind_of_ok htake, ds.ne_nil]
        simp [Exponent.chars, h]
      · simp [bind_of_ok htake, ds.ne_nil]
        simp [Exponent.chars, h]

theorem Numeral.stops_tail (n : Numeral) {rest : List Char} (hr : Follows rest) :
    Stops Char.isDigit (n.tail ++ rest) := by
  rw [Numeral.tail]
  cases n.fraction with
  | none => exact stops_exponent n.exponent hr (by decide)
  | some ds => exact stops_cons (by decide) _

/-- What a number is read as depends on its characters alone. -/
theorem number_settles (n : Numeral) :
    ∃ reader, Settled reader ∧ ∀ rest, Follows rest → number (n.chars ++ rest) = reader rest := by
  obtain ⟨c, tail, hwhole, hc⟩ := n.whole.eq_cons
  obtain ⟨reader, hsettled, hrun⟩ :=
    numberTail_settles (!n.negative) (n.whole.chars.foldl Significand.whole ⟨0, 0, false⟩) n
  refine ⟨reader, hsettled, fun rest hr => ?_⟩
  have hzero : ¬(c = '0' ∧ 1 < n.whole.chars.length) := by
    rintro ⟨rfl, hlong⟩
    rw [n.hzero (by rw [hwhole]; rfl)] at hlong
    omega
  have htake := takeDigits_run n.whole (n.stops_tail hr)
  have hhead : (n.whole.chars ++ (n.tail ++ rest)).head? = some c := by rw [hwhole]; rfl
  have hminus : c ≠ '-' := ne_of_isDigit hc (by decide)
  rw [← hrun rest hr, Numeral.chars, number, peek?_bind]
  cases n.negative with
  | true => simp [hhead, hc, hzero, bind_of_ok htake]
  | false => simp [hhead, hc, hminus, hzero, bind_of_ok htake]

theorem skipExponent_run (exponent : Option Exponent) {rest : List Char} (hr : Follows rest) :
    skipExponent ((exponent.map Exponent.chars).getD [] ++ rest) = .ok ((), rest) := by
  rw [skipExponent, peek?_bind]
  cases exponent with
  | none =>
    obtain ⟨-, he, hE⟩ := hr.ne_tail
    simp [he, hE]
  | some e =>
    obtain ⟨c, tail, hds, hc⟩ := e.digits.eq_cons
    have hplus : c ≠ '+' := ne_of_isDigit hc (by decide)
    have hminus : c ≠ '-' := ne_of_isDigit hc (by decide)
    have htake := takeDigits_run e.digits (hr.stops (p := Char.isDigit) (by decide))
    have hhead : (e.digits.chars ++ rest).head? = some c := by rw [hds]; rfl
    have hletter : (e.chars ++ rest).head? = some 'e' ∨ (e.chars ++ rest).head? = some 'E' :=
      e.hletter.imp (congrArg some) (congrArg some)
    have hdrop : (e.chars ++ rest).drop 1 = e.sign.toList ++ (e.digits.chars ++ rest) := by simp [Exponent.chars]
    simp only [Option.map_some, Option.getD_some, hletter, if_true, skip_bind, hdrop, peek?_bind]
    cases hs : e.sign with
    | none => simp [hhead, hplus, hminus, bind_of_ok htake, e.digits.ne_nil]
    | some sign =>
      rcases e.hsign sign hs with rfl | rfl
      · simp [bind_of_ok htake, e.digits.ne_nil]
      · simp [bind_of_ok htake, e.digits.ne_nil]

theorem skipFraction_run (n : Numeral) {rest : List Char} (hr : Follows rest) :
    skipFraction (n.tail ++ rest) = .ok ((), (n.exponent.map Exponent.chars).getD [] ++ rest) := by
  rw [Numeral.tail, skipFraction, peek?_bind]
  cases n.fraction with
  | none =>
    have hstops := stops_exponent (p := (· == '.')) n.exponent hr (by decide)
    have hdot : ((n.exponent.map Exponent.chars).getD [] ++ rest).head? ≠ some '.' := by
      intro h
      exact absurd (hstops '.' h) (by decide)
    rw [Option.map_none, Option.getD_none, List.nil_append, if_neg hdot]
    rfl
  | some ds =>
    have htake := takeDigits_run ds (stops_exponent n.exponent hr (by decide))
    simp [bind_of_ok htake, ds.ne_nil]

/-- Every number is passed over. -/
theorem skipNumber_run (n : Numeral) {rest : List Char} (hr : Follows rest) :
    skipNumber (n.chars ++ rest) = .ok ((), rest) := by
  obtain ⟨c, tail, hwhole, hc⟩ := n.whole.eq_cons
  have hminus : c ≠ '-' := ne_of_isDigit hc (by decide)
  have hhead : (n.whole.chars ++ (n.tail ++ rest)).head? = some c := by rw [hwhole]; rfl
  have hzero : ¬(n.whole.chars = [] ∨ n.whole.chars.head? = some '0' ∧ 1 < n.whole.chars.length) := by
    rintro (hnil | ⟨hhead, hlong⟩)
    · exact n.whole.ne_nil hnil
    · rw [n.hzero hhead] at hlong
      omega
  have htake := takeDigits_run n.whole (n.stops_tail hr)
  have htail : (skipFraction >>= fun _ => skipExponent) (n.tail ++ rest) = .ok ((), rest) :=
    (bind_of_ok (skipFraction_run n hr)).trans (skipExponent_run n.exponent hr)
  rw [Numeral.chars, skipNumber, peek?_bind]
  cases n.negative with
  | true => simp [bind_of_ok htake, hzero, htail]
  | false => simp [hhead, hminus, bind_of_ok htake, hzero, htail]

end AlloyGrade.Json
