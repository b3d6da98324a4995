import AlloyGrade.Json.Basic
import AlloyGrade.Json.Record
import AlloyGrade.Proofs.Text.Digits
import Mathlib.Tactic.SplitIfs

/-! Printed documents read back. A reader takes the printed form of a document wherever it stands: behind white
space, at any depth, and in front of whatever may follow a value. -/

namespace AlloyGrade.Json

open Scan

variable {α β : Type}

/-! ### Tokens -/

/-- What may follow a value: the end of the text, a comma or white space. -/
def Delimits (rest : List Char) : Prop := ∀ c ∈ rest.head?, c = ',' ∨ isSpace c

theorem isSpace_iff {c : Char} : isSpace c ↔ c ∈ [' ', '\n', '\t', '\r'] := by
  simp [isSpace, or_assoc]

theorem isSpace_of_isDigit {c : Char} (h : c.isDigit) : isSpace c = false := by
  have hnone : [' ', '\n', '\t', '\r'].any Char.isDigit = false := by decide
  cases hs : isSpace c with
  | false => rfl
  | true => exact absurd h (List.any_eq_false.mp hnone c (isSpace_iff.mp hs))

/-- It is enough to look at five characters. -/
theorem Delimits.stops {p : Char → Bool} {rest : List Char} (h : Delimits rest)
    (hp : [',', ' ', '\n', '\t', '\r'].any p = false) : Stops p rest := by
  intro c hc
  refine Bool.eq_false_iff.mpr (List.any_eq_false.mp hp c ?_)
  rcases h c hc with rfl | hs
  · exact .head _
  · exact .tail _ (isSpace_iff.mp hs)

theorem peekToken_run {blanks rest : List Char} {c : Char} (hb : ∀ b ∈ blanks, isSpace b) (hc : isSpace c = false) :
    peekToken (blanks ++ c :: rest) = .ok (c, c :: rest) := by
  rw [peekToken, skipSpace, skipWhile_bind, dropWhile_append_of_stops hb (stops_cons hc rest)]
  rfl

theorem peekToken_bind {blanks rest : List Char} {c : Char} (hb : ∀ b ∈ blanks, isSpace b) (hc : isSpace c = false)
    (f : Char → Reader β) : (peekToken >>= f) (blanks ++ c :: rest) = f c (c :: rest) :=
  bind_of_ok (peekToken_run hb hc)

theorem isSpace_of_mem_nil : ∀ b ∈ ([] : List Char), isSpace b := fun _ hb => absurd hb List.not_mem_nil

theorem isSpace_of_mem_singleton {c : Char} (hc : isSpace c) : ∀ b ∈ [c], isSpace b :=
  fun _ hb => List.mem_singleton.mp hb ▸ hc

theorem peekToken_here {rest : List Char} {c : Char} (hc : isSpace c = false) (f : Char → Reader β) :
    (peekToken >>= f) (c :: rest) = f c (c :: rest) :=
  peekToken_bind isSpace_of_mem_nil hc f

/-! ### Strings -/

theorem stringBody_close (cs acc : List Char) : stringBody ('"' :: cs) acc = .ok (acc.reverse, cs) := by
  rw [stringBody.eq_def]
  rfl

theorem stringBody_plain {c : Char} (hquote : c ≠ '"') (hslash : c ≠ '\\') (hcontrol : ¬c.toNat < 0x20)
    (cs acc : List Char) : stringBody (c :: cs) acc = stringBody cs (c :: acc) := by
  rw [stringBody.eq_def]
  simp only [if_neg hquote, if_neg hslash, if_neg hcontrol]

theorem stringBody_simple {e d : Char} (he : e ≠ 'u') (hd : simpleEscape? e = some d) (cs acc : List Char) :
    stringBody ('\\' :: e :: cs) acc = stringBody cs (d :: acc) := by
  rw [stringBody.eq_def]
  simp [he, hd]

theorem stringBody_unicode {n : Nat} {h₁ h₂ h₃ h₄ : Char} (hn : hexQuad? h₁ h₂ h₃ h₄ = some n)
    (ht : isTrailing n = false) (hl : isLeading n = false) (cs acc : List Char) :
    stringBody ('\\' :: 'u' :: h₁ :: h₂ :: h₃ :: h₄ :: cs) acc = stringBody cs (Char.ofNat n :: acc) := by
  rw [stringBody.eq_def]
  simp [hn, ht, hl]

theorem value?_hexDigit : ∀ n < 16, Hex.value? (hexDigit n) = some n := by decide

theorem hexQuad?_control {n : Nat} (h : n < 0x20) :
    hexQuad? '0' '0' (hexDigit (n / 16)) (hexDigit (n % 16)) = some n := by
  have hzero : Hex.value? '0' = some 0 := by decide
  rw [hexQuad?, hzero, value?_hexDigit _ (by omega), value?_hexDigit _ (by omega)]
  simp only [Option.some.injEq]
  omega

/-- An escaped character is read as itself. -/
theorem stringBody_escape (c : Char) (cs acc : List Char) :
    stringBody (escape c ++ cs) acc = stringBody cs (c :: acc) := by
  have hnamed {n : Nat} (h : c.toNat = n) : Char.ofNat n = c := h ▸ Char.ofNat_toNat c
  rw [escape]
  split_ifs with hquote hslash hback htab hline hfeed hreturn hcontrol
  · exact stringBody_simple (by decide) (by simp [simpleEscape?, hquote]) cs acc
  · exact stringBody_simple (by decide) (by simp [simpleEscape?, hslash]) cs acc
  · have hd : simpleEscape? 'b' = some c := congrArg some (hnamed hback)
    exact stringBody_simple (by decide) hd cs acc
  · exact stringBody_simple (by decide) (by simp [simpleEscape?, htab]) cs acc
  · exact stringBody_simple (by decide) (by simp [simpleEscape?, hline]) cs acc
  · have hd : simpleEscape? 'f' = some c := congrArg some (hnamed hfeed)
    exact stringBody_simple (by decide) hd cs acc
  · exact stringBody_simple (by decide) (by simp [simpleEscape?, hreturn]) cs acc
  · have htrailing : isTrailing c.toNat = false := by
      simp only [isTrailing, Bool.and_eq_false_iff, decide_eq_false_iff_not]
      omega
    have hleading : isLeading c.toNat = false := by
      simp only [isLeading, Bool.and_eq_false_iff, decide_eq_false_iff_not]
      omega
    have hunicode := stringBody_unicode (hexQuad?_control hcontrol) htrailing hleading cs acc
    rwa [Char.ofNat_toNat] at hunicode
  · exact stringBody_plain hquote hslash hcontrol cs acc

theorem stringBody_escaped (s cs acc : List Char) :
    stringBody (s.flatMap escape ++ '"' :: cs) acc = .ok (acc.reverse ++ s, cs) := by
  induction s generalizing acc with
  | nil => simp [stringBody_close]
  | cons c s ih => simp [stringBody_escape, ih]

/-- A printed string begins with a quote and is read as itself. -/
theorem string_quoted (s : String) (rest : List Char) :
    ∃ cs, quoted s ++ rest = '"' :: cs ∧ string ('"' :: cs) = .ok (s, rest) :=
  ⟨s.toList.flatMap escape ++ '"' :: rest, by simp [quoted], by simp [string, stringBody_escaped]⟩

/-! ### Numbers -/

theorem whole_of_le {s : Significand} {c : Char} (hfull : s.full = false)
    (h : s.value * 10 + (c.toNat - 48) ≤ maxWord) : s.whole c = { s with value := s.value * 10 + (c.toNat - 48) } := by
  have hfits : ¬(s.full || maxWord < s.value * 10 + (c.toNat - 48)) = true := by
    simpa [hfull] using h
  rw [Significand.whole, if_neg hfits]

/-- Digits are taken in as long as a word holds them. -/
theorem foldl_whole {ds : List Char} {value : Nat} (e : Int) (h : Nat.ofDigitChars 10 ds value ≤ maxWord) :
    ds.foldl Significand.whole ⟨value, e, false⟩ = ⟨Nat.ofDigitChars 10 ds value, e, false⟩ := by
  induction ds generalizing value with
  | nil => rfl
  | cons c ds ih =>
    have hnext : 10 * value + (c.toNat - '0'.toNat) = value * 10 + (c.toNat - 48) := by
      rw [Nat.mul_comm]
      rfl
    rw [Nat.ofDigitChars_cons, hnext] at h ⊢
    have hle : value * 10 + (c.toNat - 48) ≤ maxWord := by
      rw [Nat.ofDigitChars_eq_ofDigitChars_zero] at h
      have := Nat.le_mul_of_pos_left (value * 10 + (c.toNat - 48)) (Nat.pow_pos (n := ds.length) (show 0 < 10 by decide))
      omega
    rw [List.foldl_cons, whole_of_le (s := ⟨value, e, false⟩) rfl hle]
    exact ih h

theorem numberTail_run {rest : List Char} (hr : Delimits rest) (n : Nat) :
    numberTail true ⟨n, 0, false⟩ rest = .ok (.unsigned n, rest) := by
  have hplain : ∀ c ∈ rest.head?, c ≠ '.' ∧ c ≠ 'e' ∧ c ≠ 'E' := by
    intro c hc
    have hstops := hr.stops (p := fun c => c == '.' || c == 'e' || c == 'E') (by decide) c hc
    simpa [not_or, and_assoc] using hstops
  rw [numberTail, peek?_bind]
  cases hc : rest.head? with
  | none => rfl
  | some c =>
    obtain ⟨hdot, he, hE⟩ := hplain c hc
    simp [hdot, he, hE]

/-- The digits of a word are read as that number. -/
theorem number_run {n : Nat} (hn : n ≤ maxWord) {rest : List Char} (hr : Delimits rest) :
    number (Nat.toDigits 10 n ++ rest) = .ok (.unsigned n, rest) := by
  obtain ⟨c, ds, hds⟩ := List.exists_cons_of_ne_nil (Nat.toDigits_ne_nil (n := n) (b := 10))
  have hdigit : ∀ d ∈ Nat.toDigits 10 n, d.isDigit := fun d hd => Digits.isDigit_of_mem hd
  have hc : c.isDigit := hdigit c (hds ▸ .head _)
  have hsign : c ≠ '-' := by
    rintro rfl
    exact absurd hc (by decide)
  have hstops : Stops Char.isDigit rest := hr.stops (by decide)
  have htake : takeDigits (Nat.toDigits 10 n ++ rest) = .ok (Nat.toDigits 10 n, rest) := by
    simp [takeDigits, takeWhile_append_of_stops hdigit hstops]
  have hzero : ¬(c = '0' ∧ 1 < (Nat.toDigits 10 n).length) := by
    rintro ⟨rfl, hlong⟩
    rw [Digits.length_of_head?_zero (by rw [hds]; rfl)] at hlong
    omega
  have hhead : (Nat.toDigits 10 n ++ rest).head? = some c := by simp [hds]
  have hvalue : (Nat.toDigits 10 n).foldl Significand.whole ⟨0, 0, false⟩ = ⟨n, 0, false⟩ := by
    rw [foldl_whole 0 (by rwa [Nat.ofDigitChars_ten_toDigits]), Nat.ofDigitChars_ten_toDigits]
  rw [number]
  simp [hhead, hsign, hc, bind_of_ok htake, hzero, hvalue, numberTail_run hr]

/-! ### Values -/

/-- The reader takes the printed form of the document and gives the value. -/
def Reads (reader : Reader α) (document : Json) (a : α) : Prop :=
  ∀ (depth : Nat) (blanks rest : List Char), (∀ b ∈ blanks, isSpace b) → Delimits rest →
    reader (blanks ++ (prettyChars depth document ++ rest)) = .ok (a, rest)

theorem prettyChars_str (depth : Nat) (s : String) : prettyChars depth (.str s) = quoted s := by
  rw [prettyChars] <;> first | rfl | nofun

theorem prettyChars_int (depth n : Nat) : prettyChars depth (.int n) = Nat.toDigits 10 n := by
  rw [prettyChars, scalar, Digits.toList_toString_int] <;> nofun

theorem Reads.map {reader : Reader α} {document : Json} {a : α} (h : Reads reader document a) (f : α → β) :
    Reads (reader >>= fun a => pure (f a)) document (f a) :=
  fun depth blanks rest hb hr => bind_of_ok (h depth blanks rest hb hr)

theorem reads_text (expected s : String) : Reads (text expected) (.str s) s := by
  intro depth blanks rest hb hr
  obtain ⟨cs, hcs, hstring⟩ := string_quoted s rest
  rw [prettyChars_str, text, hcs, peekToken_bind hb (by decide), if_pos rfl, hstring]

theorem reads_natural {n top : Nat} (hn : n ≤ top) (htop : top ≤ maxWord) (expected : String) :
    Reads (natural top expected) (.int n) n := by
  intro depth blanks rest hb hr
  have hrun := number_run (Nat.le_trans hn htop) hr
  obtain ⟨c, ds, hds⟩ := List.exists_cons_of_ne_nil (Nat.toDigits_ne_nil (n := n) (b := 10))
  have hc : c.isDigit := Digits.isDigit_of_mem (n := n) (hds ▸ .head _)
  have hspace : isSpace c = false := isSpace_of_isDigit hc
  rw [prettyChars_int, natural]
  rw [hds, List.cons_append] at hrun ⊢
  rw [peekToken_bind hb hspace, if_pos (.inr hc), bind_of_ok hrun]
  simp [Number.upTo, hn]

/-- A document that is not `null`. -/
theorem reads_nullable {reader : Reader α} {document : Json} {a : α} (h : Reads reader document a)
    (hhead : ∀ depth, ∃ c cs, prettyChars depth document = c :: cs ∧ c ≠ 'n' ∧ isSpace c = false) :
    Reads (nullable reader) document (some a) := by
  intro depth blanks rest hb hr
  obtain ⟨c, cs, hc, hn, hspace⟩ := hhead depth
  have hstops : Stops isSpace (prettyChars depth document ++ rest) := by
    rw [hc]
    exact stops_cons hspace _
  have hread := h depth [] rest isSpace_of_mem_nil hr
  rw [nullable, skipSpace, skipWhile_bind, dropWhile_append_of_stops hb hstops, peek?_bind]
  rw [List.nil_append] at hread
  rw [if_neg (by simp [hc, hn]), bind_of_ok hread]
  rfl

end AlloyGrade.Json
