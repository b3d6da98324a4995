import AlloyGrade.Proofs.Json.Scalars

/-! Passing over values. The machine that skips a value passes over every tree, however deep, in no more than four
steps for each of its tokens. -/

namespace AlloyGrade.Json

open Scan

/-! ### Scalars -/

theorem letters_run (word rest : List Char) : letters word (word ++ rest) = .ok ((), rest) := by
  induction word with
  | nil => rfl
  | cons c word ih =>
    rw [letters, peek?_bind]
    simp [ih]

/-- The tree is one token. -/
def Tree.isScalar : Tree → Bool
  | .array _ | .object _ => false
  | _ => true

theorem skipScalar_run {x : Tree} (hx : x.isScalar) :
    ∃ token, x.tokens = [token] ∧ ∀ rest, Follows rest → skipScalar x.head (token ++ rest) = .ok ((), rest) := by
  cases x with
  | null =>
    refine ⟨_, by rw [Tree.tokens], fun rest _ => ?_⟩
    exact letters_run ['n', 'u', 'l', 'l'] rest
  | bool b =>
    cases b with
    | false =>
      refine ⟨_, by rw [Tree.tokens], fun rest _ => ?_⟩
      exact letters_run ['f', 'a', 'l', 's', 'e'] rest
    | true =>
      refine ⟨_, by rw [Tree.tokens], fun rest _ => ?_⟩
      exact letters_run ['t', 'r', 'u', 'e'] rest
  | number n =>
    refine ⟨_, by rw [Tree.tokens], fun rest hr => ?_⟩
    have hword {c : Char} (hdigit : c.isDigit = false) (hsign : c ≠ '-') := Tree.head_number_ne n hdigit hsign
    rw [skipScalar, if_neg (hword (by decide) (by decide)), if_neg (hword (by decide) (by decide)),
      if_neg (hword (by decide) (by decide)), if_pos (Tree.head_number n), skipNumber_run n hr]
  | string glyphs =>
    refine ⟨_, by rw [Tree.tokens], fun rest _ => ?_⟩
    simp [Tree.head, skipScalar, literal, skipStringBody_glyphs]
  | array | object => cases hx

theorem Tree.head_of_isScalar {x : Tree} (hx : x.isScalar) : x.head ≠ '[' ∧ x.head ≠ '\x7b' := by
  cases x with
  | number n => exact ⟨head_number_ne n (by decide) (by decide), head_number_ne n (by decide) (by decide)⟩
  | bool b => cases b <;> simp [head]
  | null | string => simp [head]
  | array | object => cases hx

/-! ### The machine -/

attribute [simp] skipFrom

/-- The machine gets over some tokens from one phase to the end of another value, in a number of steps. -/
def Passes (before : Phase) (inner : List Frame) (tokens : List (List Char)) (allowed : Nat) (outer : List Frame) :
    Prop :=
  ∃ used ≤ allowed, ∀ (frames : List Frame) (ts : List (List Char)) (cs : List Char), Ends ts →
    Layout (tokens ++ ts) cs → ∃ rest, Layout ts rest ∧
      ∀ fuel, skipFrom (fuel + used) before (inner ++ frames) cs = skipFrom fuel .closed (outer ++ frames) rest

namespace Passes

variable {before : Phase} {inner between outer : List Frame} {tokens more : List (List Char)} {m n : Nat} {frame : Frame}

theorem mono (h : Passes before inner tokens m outer) (hmn : m ≤ n) : Passes before inner tokens n outer := by
  obtain ⟨used, hused, hrun⟩ := h
  exact ⟨used, Nat.le_trans hused hmn, hrun⟩

theorem trans (h : Passes before inner tokens m between) (hmore : Passes .closed between more n outer)
    (hends : ∀ ts, Ends (more ++ ts)) : Passes before inner (tokens ++ more) (m + n) outer := by
  obtain ⟨used, hused, hrun⟩ := h
  obtain ⟨used', hused', hrun'⟩ := hmore
  refine ⟨used' + used, by omega, fun frames ts cs hts hcs => ?_⟩
  rw [List.append_assoc] at hcs
  obtain ⟨left, hleft, hfirst⟩ := hrun frames (more ++ ts) cs (hends ts) hcs
  obtain ⟨rest, hrest, hsecond⟩ := hrun' frames ts left hts hleft
  refine ⟨rest, hrest, fun fuel => ?_⟩
  rw [← Nat.add_assoc, hfirst, hsecond]

theorem scalar {x : Tree} (hx : x.isScalar) : Passes .value [] x.tokens 1 [] := by
  obtain ⟨token, htoken, hskip⟩ := skipScalar_run hx
  refine ⟨1, Nat.le_refl 1, fun frames ts cs hts hcs => ?_⟩
  obtain ⟨rest, hrest, hpeek⟩ := hcs.scalar htoken
  have hopen := Tree.head_of_isScalar hx
  refine ⟨rest, hrest, fun fuel => ?_⟩
  rw [skipFrom, hpeek, if_neg hopen.1, if_neg hopen.2, bind_of_ok (hskip rest (hrest.follows hts))]

theorem close (frame : Frame) : Passes .closed [frame] [[frame.closer]] 1 [] := by
  refine ⟨1, Nat.le_refl 1, fun frames ts cs hts hcs => ?_⟩
  obtain ⟨rest, hrest, hpeek⟩ := hcs.mark (by cases frame <;> decide)
  have hcomma : frame.closer ≠ ',' := by cases frame <;> decide
  refine ⟨rest, hrest, fun fuel => ?_⟩
  rw [List.singleton_append, skipFrom, hpeek, if_neg hcomma, if_pos rfl]
  rfl

theorem comma (h : Passes .member [frame] tokens n outer) : Passes .closed [frame] ([','] :: tokens) (n + 1) outer := by
  obtain ⟨used, hused, hrun⟩ := h
  refine ⟨used + 1, Nat.succ_le_succ hused, fun frames ts cs hts hcs => ?_⟩
  obtain ⟨left, hleft, hpeek⟩ := hcs.mark (by decide)
  obtain ⟨rest, hrest, hmember⟩ := hrun frames ts left hts hleft
  refine ⟨rest, hrest, fun fuel => ?_⟩
  rw [← Nat.add_assoc, List.singleton_append, skipFrom, hpeek, if_pos rfl, ← hmember]
  rfl

theorem openClose (frame : Frame) : Passes .opened [frame] [[frame.closer]] 1 [] := by
  refine ⟨1, Nat.le_refl 1, fun frames ts cs hts hcs => ?_⟩
  obtain ⟨rest, hrest, hpeek⟩ := hcs.mark (by cases frame <;> decide)
  refine ⟨rest, hrest, fun fuel => ?_⟩
  rw [List.singleton_append, skipFrom, hpeek, if_pos rfl]
  rfl

theorem openMember {c : Char} {tail : List Char} (hc : isSpace c = false) (hclose : c ≠ frame.closer)
    (h : Passes .member [frame] ((c :: tail) :: tokens) n outer) :
    Passes .opened [frame] ((c :: tail) :: tokens) (n + 1) outer := by
  obtain ⟨used, hused, hrun⟩ := h
  refine ⟨used + 1, Nat.succ_le_succ hused, fun frames ts cs hts hcs => ?_⟩
  obtain ⟨left, hleft, hpeek⟩ := Layout.peekToken_bind hcs hc
  obtain ⟨rest, hrest, hmember⟩ := hrun frames ts ([] ++ ((c :: tail) ++ left)) hts (.token isSpace_of_mem_nil hleft)
  refine ⟨rest, hrest, fun fuel => ?_⟩
  rw [← Nat.add_assoc, List.singleton_append, skipFrom, hpeek, if_neg hclose, ← hmember]
  rfl

theorem array (h : Passes .opened [.array] tokens n []) : Passes .value [] (['['] :: tokens) (n + 1) [] := by
  obtain ⟨used, hused, hrun⟩ := h
  refine ⟨used + 1, Nat.succ_le_succ hused, fun frames ts cs hts hcs => ?_⟩
  obtain ⟨left, hleft, hpeek⟩ := hcs.mark (by decide)
  obtain ⟨rest, hrest, hopened⟩ := hrun frames ts left hts hleft
  refine ⟨rest, hrest, fun fuel => ?_⟩
  rw [← Nat.add_assoc, skipFrom, hpeek, if_pos rfl, ← hopened]
  rfl

theorem object (h : Passes .opened [.object] tokens n []) : Passes .value [] (['\x7b'] :: tokens) (n + 1) [] := by
  obtain ⟨used, hused, hrun⟩ := h
  refine ⟨used + 1, Nat.succ_le_succ hused, fun frames ts cs hts hcs => ?_⟩
  obtain ⟨left, hleft, hpeek⟩ := hcs.mark (by decide)
  obtain ⟨rest, hrest, hopened⟩ := hrun frames ts left hts hleft
  refine ⟨rest, hrest, fun fuel => ?_⟩
  rw [← Nat.add_assoc, skipFrom, hpeek, if_neg (by decide), if_pos rfl, ← hopened]
  rfl

theorem item (h : Passes .value [] tokens n []) : Passes .member [.array] tokens (n + 1) [.array] := by
  obtain ⟨used, hused, hrun⟩ := h
  refine ⟨used + 1, Nat.succ_le_succ hused, fun frames ts cs hts hcs => ?_⟩
  obtain ⟨rest, hrest, hvalue⟩ := hrun (.array :: frames) ts cs hts hcs
  refine ⟨rest, hrest, fun fuel => ?_⟩
  have hstep := hvalue fuel
  rw [← Nat.add_assoc, skipFrom]
  exact hstep

theorem member (name : List Glyph) (h : Passes .value [] tokens n []) :
    Passes .member [.object] (literal name :: [':'] :: tokens) (n + 1) [.object] := by
  obtain ⟨used, hused, hrun⟩ := h
  refine ⟨used + 1, Nat.succ_le_succ hused, fun frames ts cs hts hcs => ?_⟩
  obtain ⟨afterName, hafterName, hpeek⟩ := Layout.peekToken_bind hcs (by decide)
  obtain ⟨left, hleft, hcolon⟩ := Layout.mark hafterName (by decide)
  obtain ⟨rest, hrest, hvalue⟩ := hrun (.object :: frames) ts left hts hleft
  have hname : skipName cs = .ok ((), left) := by
    have hstring : skipScalar '"' (literal name ++ afterName) = .ok ((), afterName) := by
      simp [skipScalar, literal, skipStringBody_glyphs]
    rw [skipName, hpeek, if_pos rfl]
    refine (bind_of_ok hstring).trans ?_
    rw [hcolon]
    rfl
  refine ⟨rest, hrest, fun fuel => ?_⟩
  rw [← Nat.add_assoc, skipFrom]
  exact (bind_of_ok hname).trans (hvalue fuel)

variable {parts : List (List (List Char))}

/-- The parts behind the first one. -/
theorem others (h : ∀ part ∈ parts, Passes .member [frame] part (4 * part.length + 1) [frame]) :
    Passes .closed [frame] (others frame.closer parts) (4 * (Json.others frame.closer parts).length) [] := by
  induction parts with
  | nil => exact (close frame).mono (by simp [Json.others])
  | cons part parts ih =>
    have hfirst := (h part (.head _)).comma
    have hrest := ih fun part hpart => h part (.tail _ hpart)
    have happend : Json.others frame.closer (part :: parts) = ([','] :: part) ++ Json.others frame.closer parts := by
      simp [Json.others]
    rw [happend]
    refine (hfirst.trans hrest (ends_others frame parts)).mono ?_
    simp only [List.length_append, List.length_cons]
    omega

/-- All the parts between two brackets. -/
theorem enclosed (h : ∀ part ∈ parts, Passes .member [frame] part (4 * part.length + 1) [frame])
    (hhead : ∀ part ∈ parts, ∃ c tail tokens, part = (c :: tail) :: tokens ∧ isSpace c = false ∧ c ≠ frame.closer) :
    Passes .opened [frame] (enclosed frame.closer parts) (4 * (Json.enclosed frame.closer parts).length + 2) [] := by
  cases parts with
  | nil => exact (openClose frame).mono (by simp [Json.enclosed])
  | cons part parts =>
    have hrest := others fun part hpart => h part (.tail _ hpart)
    have hall := (h part (.head _)).trans hrest (ends_others frame parts)
    obtain ⟨c, tail, tokens, rfl, hspace, hclose⟩ := hhead part (.head _)
    refine (openMember hspace hclose hall).mono ?_
    simp only [Json.enclosed, List.length_append, List.length_cons]
    omega

end Passes

/-- The machine passes over every tree. -/
theorem passes_tree (x : Tree) : Passes .value [] x.tokens (4 * x.tokens.length) [] := by
  have hscalar {x : Tree} (hx : x.isScalar) : Passes .value [] x.tokens (4 * x.tokens.length) [] := by
    obtain ⟨tail, tokens, htokens⟩ := x.tokens_eq_cons
    exact (Passes.scalar hx).mono (by rw [htokens, List.length_cons]; omega)
  induction x using Tree.induct with
  | null => exact hscalar rfl
  | bool b => exact hscalar rfl
  | number n => exact hscalar rfl
  | string glyphs => exact hscalar rfl
  | array items ih =>
    have hitems : ∀ part ∈ itemTokens items, Passes .member [.array] part (4 * part.length + 1) [.array] := by
      rw [itemTokens_eq]
      intro part hpart
      obtain ⟨x, hx, rfl⟩ := List.mem_map.mp hpart
      exact (ih x hx).item
    have hhead : ∀ part ∈ itemTokens items,
        ∃ c tail tokens, part = (c :: tail) :: tokens ∧ isSpace c = false ∧ c ≠ Frame.array.closer := by
      rw [itemTokens_eq]
      intro part hpart
      obtain ⟨x, hx, rfl⟩ := List.mem_map.mp hpart
      obtain ⟨tail, tokens, htokens⟩ := x.tokens_eq_cons
      exact ⟨x.head, tail, tokens, htokens, x.isSpace_head, x.head_ne_closer .array⟩
    rw [Tree.tokens]
    refine (Passes.enclosed hitems hhead).array.mono ?_
    simp only [List.length_cons, Frame.closer]
    omega
  | object members ih =>
    have hmembers : ∀ part ∈ memberTokens members, Passes .member [.object] part (4 * part.length + 1) [.object] := by
      rw [memberTokens_eq]
      intro part hpart
      obtain ⟨m, hm, rfl⟩ := List.mem_map.mp hpart
      refine ((ih m hm).member m.1).mono ?_
      simp only [List.length_cons]
      omega
    have hhead : ∀ part ∈ memberTokens members,
        ∃ c tail tokens, part = (c :: tail) :: tokens ∧ isSpace c = false ∧ c ≠ Frame.object.closer := by
      rw [memberTokens_eq]
      intro part hpart
      obtain ⟨m, hm, rfl⟩ := List.mem_map.mp hpart
      exact ⟨'"', _, _, rfl, by decide, by decide⟩
    rw [Tree.tokens]
    refine (Passes.enclosed hmembers hhead).object.mono ?_
    simp only [List.length_cons, Frame.closer]
    omega

/-- A value that nobody asked for is passed over, whatever it is. -/
theorem skipValue_run (x : Tree) {ts : List (List Char)} {cs : List Char} (hts : Ends ts)
    (hcs : Layout (x.tokens ++ ts) cs) : ∃ rest, Layout ts rest ∧ skipValue cs = .ok ((), rest) := by
  obtain ⟨used, hused, hrun⟩ := passes_tree x
  obtain ⟨rest, hrest, hskip⟩ := hrun [] ts cs hts hcs
  have hlength := hcs.length_le x.ne_nil_of_mem_tokens
  obtain ⟨spare, hspare⟩ : ∃ spare, 4 * cs.length + 4 = spare + 1 + used := ⟨4 * cs.length + 3 - used, by omega⟩
  refine ⟨rest, hrest, ?_⟩
  rw [skipValue, hspare]
  exact hskip (spare + 1)

end AlloyGrade.Json
