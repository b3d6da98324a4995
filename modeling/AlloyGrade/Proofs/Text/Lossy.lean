import AlloyGrade.Process.System
import AlloyGrade.Proofs.Text.Utf8
import AlloyGrade.Proofs.Verdict

/-! Lossy decoding keeps ASCII in place. Each ASCII octet becomes its own character, whatever stands around
it, and octets between two of them become at least one character, none of them ASCII. So a text of ASCII
characters is found in the decoded streams exactly where its octets are found in the captured ones. -/

namespace AlloyGrade

namespace Utf8

/-- Octets that no ASCII character is written with, at least one of them. -/
structure Foreign (octets : Bytes) : Prop where
  nonempty : octets ≠ []
  high : ∀ b ∈ octets, 0x80 ≤ b.toNat

/-- A text that shows an octet string: its ASCII characters are the ASCII octets, in their order, and each other
character stands for some foreign octets. -/
inductive Shows : List Char → Bytes → Prop
  | nil : Shows [] []
  | ascii {c : Char} {b : UInt8} {text : List Char} {bs : Bytes} (hc : c.toNat < 0x80) (hb : b.toNat = c.toNat)
      (rest : Shows text bs) : Shows (c :: text) (b :: bs)
  | foreign {c : Char} {octets : Bytes} {text : List Char} {bs : Bytes} (hc : 0x80 ≤ c.toNat)
      (ho : Foreign octets) (rest : Shows text bs) : Shows (c :: text) (octets ++ bs)

theorem Shows.append {text text' : List Char} {bs bs' : Bytes} (h : Shows text bs) (h' : Shows text' bs') :
    Shows (text ++ text') (bs ++ bs') := by
  induction h with
  | nil => exact h'
  | ascii hc hb _ ih => exact .ascii hc hb ih
  | foreign hc ho _ ih =>
    rw [List.append_assoc]
    exact .foreign hc ho ih

/-! ### Searching for ASCII -/

/-- The octets of some characters. -/
def encoded (cs : List Char) : Bytes := cs.flatMap String.utf8EncodeChar

/-- A nonempty text of ASCII characters. -/
structure Ascii (needle : List Char) : Prop where
  nonempty : needle ≠ []
  low : ∀ c ∈ needle, c.toNat < 0x80

theorem ascii_of_all {needle : List Char} (hne : needle ≠ []) (h : needle.all (·.toNat < 0x80)) : Ascii needle :=
  ⟨hne, fun c hc => of_decide_eq_true (List.all_eq_true.mp h c hc)⟩

theorem encode_ascii {c : Char} (hc : c.toNat < 0x80) :
    ∃ b : UInt8, b.toNat = c.toNat ∧ String.utf8EncodeChar c = [b] := by
  have hb : (UInt8.ofNat c.toNat).toNat = c.toNat := UInt8.toNat_ofNat_of_lt' (by omega : c.toNat < 256)
  exact ⟨_, hb, encode_one hc hb⟩

theorem Shows.prefix_iff {text needle : List Char} {bs : Bytes} (h : Shows text bs)
    (low : ∀ c ∈ needle, c.toNat < 0x80) : needle <+: text ↔ encoded needle <+: bs := by
  induction needle generalizing text bs with
  | nil => simp [encoded]
  | cons c needle ih =>
    obtain ⟨b, hb, hencode⟩ := encode_ascii (low c (.head _))
    have hcons : encoded (c :: needle) = b :: encoded needle := by simp [encoded, hencode]
    rw [hcons]
    cases h with
    | nil => simp
    | ascii hc hb' rest =>
      rename_i c' b' text bs
      have hhead : c = c' ↔ b = b' := by
        rw [← Char.toNat_inj, ← UInt8.toNat_inj, hb, hb']
      rw [List.cons_prefix_cons, List.cons_prefix_cons, hhead,
        ih rest fun x hx => low x (.tail _ hx)]
    | foreign hc ho rest =>
      rename_i c' octets text bs
      have hc' : c ≠ c' := by
        rintro rfl
        have := low c (.head _)
        omega
      obtain ⟨o, os, rfl⟩ := List.exists_cons_of_ne_nil ho.nonempty
      have ho' : b ≠ o := by
        rintro rfl
        have := low c (.head _)
        have := ho.high b (.head _)
        omega
      simp [List.cons_prefix_cons, hc', ho']

/-- Nothing ASCII starts inside of foreign octets. -/
theorem infix_append_of_foreign {needle : List Char} (hn : Ascii needle) {octets : Bytes}
    (high : ∀ b ∈ octets, 0x80 ≤ b.toNat) (bs : Bytes) :
    encoded needle <:+: octets ++ bs ↔ encoded needle <:+: bs := by
  obtain ⟨c, rest, rfl⟩ := List.exists_cons_of_ne_nil hn.nonempty
  obtain ⟨b, hb, hencode⟩ := encode_ascii (hn.low c (.head _))
  have hcons : encoded (c :: rest) = b :: encoded rest := by simp [encoded, hencode]
  rw [hcons]
  induction octets with
  | nil => rfl
  | cons o octets ih =>
    have ho : b ≠ o := by
      rintro rfl
      have := hn.low c (.head _)
      have := high b (.head _)
      omega
    have hrest : b :: encoded rest <:+: octets ++ bs ↔ b :: encoded rest <:+: bs :=
      ih fun x hx => high x (.tail _ hx)
    rw [List.cons_append, List.infix_cons_iff, List.cons_prefix_cons, hrest]
    simp [ho]

theorem Shows.infix_iff {text needle : List Char} {bs : Bytes} (h : Shows text bs) (hn : Ascii needle) :
    needle <:+: text ↔ encoded needle <:+: bs := by
  induction h with
  | nil =>
    obtain ⟨c, rest, rfl⟩ := List.exists_cons_of_ne_nil hn.nonempty
    obtain ⟨b, -, hencode⟩ := encode_ascii (hn.low c (.head _))
    simp [encoded, hencode]
  | ascii hc hb rest ih =>
    rw [List.infix_cons_iff, List.infix_cons_iff, ih, (Shows.ascii hc hb rest).prefix_iff hn.low]
  | foreign hc ho rest ih =>
    rename_i c octets text bs
    have hstart : ¬needle <+: c :: text := by
      obtain ⟨c', needle, rfl⟩ := List.exists_cons_of_ne_nil hn.nonempty
      rw [List.cons_prefix_cons]
      rintro ⟨rfl, -⟩
      have := hn.low c' (.head _)
      omega
    rw [List.infix_cons_iff, ih, infix_append_of_foreign hn ho.high]
    simp [hstart]

/-! ### What the decoder shows -/

/-- The characters that are written for what the machine emits. -/
def shown (units : List (Option Char)) : List Char := units.map (·.getD replacement)

/-- What a state has taken in and not yet emitted anything for is foreign, and so is what it waits for. -/
def Awaits : State → Bytes → Prop
  | .ground, head => head = []
  | .pending _ low _ _, head => Foreign head ∧ 0x80 ≤ low.toNat

theorem awaits_of_start {b : UInt8} {due value : Nat} {low high : UInt8}
    (h : start b = (.pending due low high value, [])) : 0x80 ≤ low.toNat := by
  rw [start] at h
  split_ifs at h <;> simp only [Prod.mk.injEq, State.pending.injEq, reduceCtorEq, and_true, false_and] at h <;>
    obtain ⟨-, rfl, -⟩ := h <;> decide

theorem foreign_singleton {b : UInt8} (h : 0x80 ≤ b.toNat) : Foreign [b] :=
  ⟨List.cons_ne_nil _ _, fun x hx => by rwa [List.mem_singleton.mp hx]⟩

theorem Foreign.snoc {head : Bytes} (h : Foreign head) {b : UInt8} (hb : 0x80 ≤ b.toNat) : Foreign (head ++ [b]) :=
  ⟨List.append_ne_nil_of_left_ne_nil h.nonempty _, fun x hx => by
    rcases List.mem_append.mp hx with hx | hx
    · exact h.high x hx
    · rwa [List.mem_singleton.mp hx]⟩

/-- A character written with foreign octets is not ASCII. -/
theorem not_ascii_of_encode {c : Char} {octets : Bytes} (ho : Foreign octets) (h : String.utf8EncodeChar c = octets) :
    0x80 ≤ c.toNat := by
  refine Nat.le_of_not_lt fun hc => ?_
  obtain ⟨b, hb, hencode⟩ := encode_ascii hc
  rw [← h, hencode] at ho
  have := ho.high b (.head _)
  omega

theorem not_ascii_replacement : 0x80 ≤ replacement.toNat := by decide

/-- The machine on an octet that starts a sequence, if it shows the octets behind from every state. -/
theorem shows_emits_ground {bs : Bytes} (b : UInt8)
    (ih : ∀ {state head}, Holds state head → Awaits state head → Shows (shown (emits state bs)) (head ++ bs)) :
    Shows (shown (emits .ground (b :: bs))) (b :: bs) := by
  have hground : Shows (shown (emits .ground bs)) ([] ++ bs) := ih rfl rfl
  by_cases hb : b.toNat < 0x80
  · have hc : (Char.ofNat b.toNat).toNat = b.toNat := toNat_ofNat_char (.inl (by omega))
    rw [emits, step, start_one hb]
    have hlow : (Char.ofNat b.toNat).toNat < 0x80 := by omega
    exact .ascii hlow hc.symm hground
  · have hforeign : Foreign [b] := foreign_singleton (by omega)
    rcases start_cases b with ⟨c, hs, hc⟩ | hs | ⟨state, hs, hold⟩
    · rw [emits, step, hs]
      exact .foreign (not_ascii_of_encode hforeign hc) hforeign hground
    · rw [emits, step, hs]
      exact .foreign not_ascii_replacement hforeign hground
    · have hawait : Awaits state [b] := by
        cases state with
        | ground => exact absurd hold (List.cons_ne_nil _ _)
        | pending due low high value => exact ⟨hforeign, awaits_of_start hs⟩
      rw [emits, step, hs]
      exact ih hold hawait

/-- Whatever the machine holds, it shows what it holds and what it is fed. -/
theorem shows_emits {state : State} {head : Bytes} (hold : Holds state head) (hawait : Awaits state head) (bs : Bytes) :
    Shows (shown (emits state bs)) (head ++ bs) := by
  induction bs generalizing state head with
  | nil =>
    cases state with
    | ground =>
      obtain rfl : head = [] := hawait
      exact .nil
    | pending => exact .foreign not_ascii_replacement hawait.1 .nil
  | cons b bs ih =>
    cases state with
    | ground =>
      obtain rfl : head = [] := hawait
      exact shows_emits_ground b ih
    | pending due low high value =>
      by_cases hb : low ≤ b ∧ b ≤ high
      · -- The octet belongs to the sequence and completes it, or is held with the others.
        have hforeign : Foreign (head ++ [b]) :=
          hawait.1.snoc (Nat.le_trans hawait.2 (UInt8.le_iff_toNat_le.mp hb.1))
        rw [List.append_cons]
        rcases step_cases hold b with ⟨c, hs, hc⟩ | hnone | ⟨next, hs, hnext⟩
        · rw [emits, hs]
          have hground : Shows (shown (emits .ground bs)) ([] ++ bs) := ih rfl rfl
          exact .foreign (not_ascii_of_encode hforeign hc) hforeign hground
        · rw [step, if_pos hb] at hnone
          by_cases hone : due ≤ 1 <;> simp [hone] at hnone
        · have hnextAwaits : Awaits next (head ++ [b]) := by
            rw [step, if_pos hb] at hs
            by_cases hone : due ≤ 1
            · simp [hone] at hs
            · obtain rfl : _ = next := by simpa [hone] using hs
              exact ⟨hforeign, by decide⟩
          rw [emits, hs]
          exact ih hnext hnextAwaits
      · -- The sequence is cut short, and the octet starts another one.
        have hcut : emits (.pending due low high value) (b :: bs) = none :: emits .ground (b :: bs) := by
          simp [emits, step, hb]
        rw [hcut]
        exact .foreign not_ascii_replacement hawait.1 (shows_emits_ground b ih)

theorem shows_lossy (bs : Bytes) : Shows (lossy bs).toList bs := by
  rw [lossy, String.toList_ofList, units_eq_emits]
  exact @shows_emits .ground [] rfl rfl bs

end Utf8

/-- The verdict on captured streams: decoding them one by one and joining the texts neither hides the differ's
sentence nor makes it up, wherever the streams are ill-formed and wherever one ends and the other begins. -/
theorem Verdict.reportsEquivalence_captured_iff (command : ToolCommand) (status : ExitStatus) (out err : Bytes) :
    let output := System.output command status out err
    output.combined = combineStreams (Utf8.lossy out) (Utf8.lossy err) ∧
      (reportsEquivalence output.combined = true ↔ Bytes.ofString marker <:+: out ++ err) := by
  refine ⟨rfl, ?_⟩
  have hshows : Utf8.Shows (Utf8.lossy out ++ Utf8.lossy err).toList (out ++ err) := by
    rw [String.toList_append]
    exact (Utf8.shows_lossy out).append (Utf8.shows_lossy err)
  have hmarker : Utf8.Ascii marker.toList := Utf8.ascii_of_all (by decide) (by decide)
  exact (occursIn_iff_isInfix _ _).trans (hshows.infix_iff hmarker)

end AlloyGrade
