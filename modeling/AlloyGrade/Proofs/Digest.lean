import AlloyGrade.Report
import AlloyGrade.Grading.Trace
import Mathlib.Tactic.SplitIfs

/-! Digests of models. -/

namespace AlloyGrade

/-! ### Hexadecimal -/

namespace Hex

/-- Written in digits and the letters from `a` to `f`. -/
def IsLower (s : String) : Prop := ∀ c ∈ s.toList, c ∈ "0123456789abcdef".toList

theorem digit_mem : ∀ n < 16, digit n ∈ "0123456789abcdef".toList := by decide

theorem value?_digit : ∀ n < 16, value? (digit n) = some n := by decide

/-- A lower-case digit is the digit of its value. -/
theorem digit_of_value? {c : Char} {n : Nat} (hc : c ∈ "0123456789abcdef".toList) (h : value? c = some n) :
    digit n = c := by
  have hall : "0123456789abcdef".toList.all fun c => (value? c).map digit == some c := by decide
  have hdigit := List.all_eq_true.mp hall c hc
  rw [h] at hdigit
  simpa using hdigit

theorem value?_lt : ∀ {c : Char} {n : Nat}, c ∈ "0123456789abcdef".toList → value? c = some n → n < 16 := by
  intro c n hc h
  have hall : "0123456789abcdef".toList.all fun c => (value? c).any (· < 16) := by decide
  have hlt := List.all_eq_true.mp hall c hc
  rw [h] at hlt
  simpa using hlt

theorem isLower_encode (bs : Bytes) : IsLower (encode bs) := by
  intro c hc
  rw [encode, String.toList_ofList] at hc
  obtain ⟨b, -, hc⟩ := List.mem_flatMap.mp hc
  have hb := b.toNat_lt
  simp only [List.mem_cons, List.not_mem_nil, or_false] at hc
  rcases hc with rfl | rfl
  · exact digit_mem _ (by omega)
  · exact digit_mem _ (by omega)

theorem length_encode (bs : Bytes) : (encode bs).length = 2 * bs.length := by
  rw [encode, String.length_ofList]
  induction bs with
  | nil => rfl
  | cons b bs ih => simp [ih]; omega

theorem decodeChars?_digits (bs : Bytes) :
    decodeChars? (bs.flatMap fun b => [digit (b.toNat / 16), digit (b.toNat % 16)]) = some bs := by
  induction bs with
  | nil => rfl
  | cons b bs ih =>
    have hb := b.toNat_lt
    have hsplit : b.toNat / 16 * 16 + b.toNat % 16 = b.toNat := by omega
    simp [decodeChars?, ih, value?_digit _ (show b.toNat / 16 < 16 by omega),
      value?_digit _ (show b.toNat % 16 < 16 by omega), hsplit]

theorem decode?_encode (bs : Bytes) : decode? (encode bs) = some bs := by
  rw [decode?, encode, String.toList_ofList, decodeChars?_digits]

/-- Octets have one lower-case spelling. -/
theorem digits_of_decodeChars? {cs : List Char} {bs : Bytes} (hcs : ∀ c ∈ cs, c ∈ "0123456789abcdef".toList)
    (h : decodeChars? cs = some bs) : cs = bs.flatMap fun b => [digit (b.toNat / 16), digit (b.toNat % 16)] := by
  fun_induction decodeChars? cs generalizing bs with
  | case1 =>
    cases h
    rfl
  | case2 => cases h
  | case3 a b rest high low bytes hrest hb ha ih =>
    cases h
    have ha' := hcs a (.head _)
    have hb' := hcs b (.tail _ (.head _))
    have hhigh := value?_lt ha' ha
    have hlow := value?_lt hb' hb
    have hoctet : (UInt8.ofNat (high * 16 + low)).toNat = high * 16 + low :=
      UInt8.toNat_ofNat_of_lt' (by simp only [UInt8.size]; omega)
    rw [List.flatMap_cons, hoctet, ← ih (fun c hc => hcs c (.tail _ (.tail _ hc))) hrest]
    rw [show (high * 16 + low) / 16 = high by omega, show (high * 16 + low) % 16 = low by omega, digit_of_value? ha' ha,
      digit_of_value? hb' hb]
    rfl
  | case4 => cases h

theorem encode_of_decode? {s : String} {bs : Bytes} (hs : IsLower s) (h : decode? s = some bs) : s = encode bs := by
  rw [encode, ← digits_of_decodeChars? hs h, String.ofList_toList]

end Hex

theorem Sha256.length_digest (message : Bytes) : (digest message).length = 32 := by
  simp [digest, wordOctets]

example : Hex.encode (Sha256.digest (Bytes.ofString "abc")) =
    "ba7816bf8f01cfea414140de5dae2223b00361a396177a9cb410ff61f20015ad" := by decide +kernel

/-! ### Digests -/

namespace ModelDigest

variable {cwd : Location} {fs : FileSystem} {p : Path}

theorem hashFile_file {loc : Location} {f : Regular} (h : fs.stat cwd p = .ok (loc, .file f)) (hf : f.barred = none) :
    hashFile cwd p fs = (.ok (Hex.encode (Sha256.digest f.content)), [p]) := by
  simp [hashFile, Access.bind_run, Access.stat, Access.read, Access.pure_run, FileSystem.readFile, h, hf]

/-- A path leads to a regular file that can be read. -/
def Legible (cwd : Location) (fs : FileSystem) (p : Path) : Prop :=
  ∃ loc f, fs.stat cwd p = .ok (loc, .file f) ∧ f.barred = none

/-- Why a path has no digest. -/
inductive Undigested (cwd : Location) (fs : FileSystem) (p : Path) : IoError → Prop
  | absent {e : IoError} (h : fs.stat cwd p = .error e) : Undigested cwd fs p e
  | notRegular {loc : Location} {entry : Entry} (h : fs.stat cwd p = .ok (loc, entry)) (hentry : ∀ f, entry ≠ .file f) :
      Undigested cwd fs p .notRegular
  | barred {loc : Location} {f : Regular} {e : IoError} (h : fs.stat cwd p = .ok (loc, .file f))
      (hf : f.barred = some e) : Undigested cwd fs p e

/-- Nothing but a regular file is opened. -/
theorem hashFile_undigested {e : IoError} (h : Undigested cwd fs p e) :
    hashFile cwd p fs = (.error e, if fs.isFile cwd p then [p] else []) := by
  cases h with
  | absent h => simp [hashFile, Access.bind_run, Access.stat, FileSystem.isFile, h]
  | notRegular h hentry =>
    rename_i loc entry
    cases entry with
    | file f => exact absurd rfl (hentry f)
    | dir | link | fifo | device =>
      simp [hashFile, Access.bind_run, Access.stat, Access.fail, FileSystem.isFile, h]
  | barred h hf =>
    simp [hashFile, Access.bind_run, Access.stat, Access.read, FileSystem.readFile, FileSystem.isFile, h, hf]

theorem Undigested.not_legible {e : IoError} (h : Undigested cwd fs p e) : ¬Legible cwd fs p := by
  rintro ⟨loc, f, hs, hf⟩
  cases h with
  | absent h => simp [hs] at h
  | notRegular h hentry =>
    obtain ⟨-, rfl⟩ : _ ∧ Entry.file f = _ := by simpa [hs] using h
    exact hentry f rfl
  | barred h hbarred =>
    obtain ⟨-, rfl⟩ : _ ∧ f = _ := by simpa [hs] using h
    exact absurd (hf.symm.trans hbarred) nofun

/-- A path leads to a regular file that can be read, or there is a reason why it has no digest. -/
theorem legible_or_undigested (cwd : Location) (fs : FileSystem) (p : Path) :
    Legible cwd fs p ∨ ∃ e, Undigested cwd fs p e := by
  cases hs : fs.stat cwd p with
  | error e => exact .inr ⟨e, .absent hs⟩
  | ok object =>
    obtain ⟨loc, entry⟩ := object
    cases entry with
    | file f =>
      cases hf : f.barred with
      | none => exact .inl ⟨loc, f, hs, hf⟩
      | some e => exact .inr ⟨e, .barred hs hf⟩
    | dir | link | fifo | device => exact .inr ⟨_, .notRegular hs nofun⟩

theorem ofFile_file {loc : Location} {f : Regular} (h : fs.stat cwd p = .ok (loc, .file f)) (hf : f.barred = none) :
    ofFile cwd fs p = (⟨p, some (Hex.encode (Sha256.digest f.content))⟩, []) := by
  rw [ofFile, hashFile_file h hf]

theorem ofFile_undigested {e : IoError} (h : Undigested cwd fs p e) :
    ofFile cwd fs p = (⟨p, none⟩, [.notDigested p e]) := by
  rw [ofFile, hashFile_undigested h]

/-- Taking a digest looks and reports, and always ends with a digest of the path it was asked for. A path that leads
to a regular file that can be read gets the one lower-case spelling of its contents' hash, whatever way the path takes to
them; any other path gets one warning with the reason, and what is not a regular file stays unopened. -/
theorem ofFile_spells_contents (cwd : Location) (fs : FileSystem) (p : Path) :
    (∀ events calls, Grading.observe (ofFile cwd · p) ⟨fs, events, calls⟩ =
      (.value ⟨p, (ofFile cwd fs p).1.sha256⟩, ⟨fs, events ++ (ofFile cwd fs p).2, calls⟩)) ∧
    ((ofFile cwd fs p).1.sha256.isSome ↔ Legible cwd fs p) ∧
    (∀ loc f, fs.stat cwd p = .ok (loc, .file f) → f.barred = none →
      (∀ s, (ofFile cwd fs p).1.sha256 = some s ↔
        Hex.IsLower s ∧ s.length = 64 ∧ Hex.decode? s = some (Sha256.digest f.content)) ∧
      (ofFile cwd fs p).2 = [] ∧
      (hashFile cwd p fs).2 = [p] ∧
      ∀ cwd' fs' p' loc' f', FileSystem.stat fs' cwd' p' = .ok (loc', .file f') → f'.barred = none →
        f'.content = f.content → (ofFile cwd' fs' p').1.sha256 = (ofFile cwd fs p).1.sha256) ∧
    (¬Legible cwd fs p → (ofFile cwd fs p).1.sha256 = none ∧
      ∃ e reason, (ofFile cwd fs p).2 = [e] ∧ Undigested cwd fs p reason ∧
        e.shown = (.warn, "Model not digested", [("path", .text p.display), ("error", .text reason.message)])) ∧
    (fs.isFile cwd p = false → (hashFile cwd p fs).2 = []) := by
  rcases legible_or_undigested cwd fs p with ⟨loc, f, hs, hf⟩ | ⟨e, he⟩
  · have hfile : fs.isFile cwd p := by rw [FileSystem.isFile, hs]
    rw [ofFile_file hs hf]
    refine ⟨fun _ _ => by simp [Grading.observe, ofFile_file hs hf, Trace.record], ?_, ?_,
      fun h => absurd ⟨loc, f, hs, hf⟩ h, by simp [hfile]⟩
    · exact ⟨fun _ => ⟨loc, f, hs, hf⟩, fun _ => rfl⟩
    intro loc' f' hs' _
    obtain ⟨rfl, rfl⟩ : loc = loc' ∧ f = f' := by simpa [hs] using hs'
    refine ⟨fun s => ⟨?_, ?_⟩, rfl, by rw [hashFile_file hs hf], ?_⟩
    · rintro ⟨⟩
      refine ⟨Hex.isLower_encode _, ?_, Hex.decode?_encode _⟩
      rw [Hex.length_encode, Sha256.length_digest]
    · rintro ⟨hlower, -, hdecode⟩
      rw [Hex.encode_of_decode? hlower hdecode]
    · intro cwd' fs' p' loc' f' hs' hf' hcontent
      rw [ofFile_file hs' hf', hcontent]
  · rw [ofFile_undigested he]
    have hnone := he.not_legible
    refine ⟨fun _ _ => by simp [Grading.observe, ofFile_undigested he, Trace.record], by simpa using hnone, ?_, ?_, ?_⟩
    · intro loc f hs hf
      exact absurd ⟨loc, f, hs, hf⟩ hnone
    · intro _
      exact ⟨rfl, _, e, rfl, he, rfl⟩
    · intro hfile
      rw [hashFile_undigested he, hfile]
      rfl

/-- Two files of one content, one that cannot be read, a link to the first, and a pipe. -/
def shelf : FileSystem :=
  let sealed : Regular := { Regular.plain (Bytes.ofString "sig A") with barred := some .accessDenied }
  ⟨[([Bytes.ofString "a"], .file (.plain (Bytes.ofString "sig A"))),
    ([Bytes.ofString "b"], .file (.program (Bytes.ofString "sig A"))), ([Bytes.ofString "s"], .file sealed),
    ([Bytes.ofString "l"], .link (.ofString "./a")), ([Bytes.ofString "p"], .fifo)]⟩

/-- A link and a copy get the digest of the file; a pipe and a file that cannot be read get a warning. -/
theorem ofFile_spells_contents_shelf :
    (ofFile [] shelf (.ofString "l")).1.sha256.isSome ∧
      (ofFile [] shelf (.ofString "/b")).1.sha256 = (ofFile [] shelf (.ofString "l")).1.sha256 ∧
      (hashFile [] (.ofString "p") shelf).2 = [] ∧
      ∀ name ∈ ["p", "s"], ∃ e, (ofFile [] shelf (.ofString name)).2 = [e] ∧ e.level = .warn := by
  have hl : shelf.stat [] (.ofString "l") =
      .ok ([Bytes.ofString "a"], .file (.plain (Bytes.ofString "sig A"))) := rfl
  have hb : shelf.stat [] (.ofString "/b") =
      .ok ([Bytes.ofString "b"], .file (.program (Bytes.ofString "sig A"))) := rfl
  have hpipe : Undigested [] shelf (.ofString "p") .notRegular :=
    .notRegular (show shelf.stat [] (.ofString "p") = .ok ([Bytes.ofString "p"], .fifo) from rfl) nofun
  have hsealed : Undigested [] shelf (.ofString "s") .accessDenied :=
    .barred (show shelf.stat [] (.ofString "s") = .ok ([Bytes.ofString "s"], .file _) from rfl) rfl
  have hundigested : ∀ name ∈ ["p", "s"], ¬Legible [] shelf (.ofString name) := by
    intro name hname
    simp only [List.mem_cons, List.not_mem_nil, or_false] at hname
    rcases hname with rfl | rfl
    · exact hpipe.not_legible
    · exact hsealed.not_legible
  obtain ⟨-, hsome, hfile, -⟩ := ofFile_spells_contents [] shelf (.ofString "l")
  obtain ⟨-, -, -, hsame⟩ := hfile _ _ hl rfl
  obtain ⟨-, -, -, -, hunopened⟩ := ofFile_spells_contents [] shelf (.ofString "p")
  refine ⟨hsome.mpr ⟨_, _, hl, rfl⟩, hsame _ _ _ _ _ hb rfl rfl, hunopened rfl, fun name hname => ?_⟩
  obtain ⟨-, -, -, hother, -⟩ := ofFile_spells_contents [] shelf (.ofString name)
  obtain ⟨-, e, reason, he, -, hshown⟩ := hother (hundigested name hname)
  exact ⟨e, he, congrArg Prod.fst hshown⟩

end ModelDigest

end AlloyGrade
