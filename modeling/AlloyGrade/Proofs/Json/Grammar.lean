import AlloyGrade.Proofs.Json.Reading

/-! The grammar of JSON. A document is a tree, and a tree is a list of tokens. In a text there may be white space in
front of each token and behind the last one. -/

namespace AlloyGrade.Json

open Scan

/-! ### Strings -/

/-- A character of a string as it is written, or half of one. -/
inductive Glyph where
  | plain (c : Char) (hquote : c ≠ '"') (hslash : c ≠ '\\') (hcontrol : ¬c.toNat < 0x20)
  | escape (e c : Char) (h : simpleEscape? e = some c)
  | unicode (h₁ h₂ h₃ h₄ : Char) (n : Nat) (h : hexQuad? h₁ h₂ h₃ h₄ = some n)

def Glyph.chars : Glyph → List Char
  | .plain c .. => [c]
  | .escape e .. => ['\\', e]
  | .unicode h₁ h₂ h₃ h₄ .. => ['\\', 'u', h₁, h₂, h₃, h₄]

/-- A string between its quotes. -/
def literal (glyphs : List Glyph) : List Char := '"' :: (glyphs.flatMap Glyph.chars ++ ['"'])

/-- What a string spells, if every half of a character is next to its other half. -/
def spelled? : List Glyph → Option (List Char)
  | [] => some []
  | .plain c .. :: glyphs => (spelled? glyphs).map (c :: ·)
  | .escape _ c _ :: glyphs => (spelled? glyphs).map (c :: ·)
  | .unicode _ _ _ _ n _ :: glyphs =>
    if isTrailing n then none
    else if isLeading n then
      match glyphs with
      | .unicode _ _ _ _ m _ :: glyphs =>
        if isTrailing m then (spelled? glyphs).map (ofSurrogates n m :: ·) else none
      | _ => none
    else (spelled? glyphs).map (Char.ofNat n :: ·)

/-- The text that a string spells. -/
def spelling? (glyphs : List Glyph) : Option String := (spelled? glyphs).map String.ofList

/-! ### Numbers -/

/-- One digit or more. -/
structure DigitRun where
  chars : List Char
  ne_nil : chars ≠ []
  digits : ∀ c ∈ chars, c.isDigit

structure Exponent where
  letter : Char
  sign : Option Char
  digits : DigitRun
  hletter : letter = 'e' ∨ letter = 'E'
  hsign : ∀ c ∈ sign, c = '+' ∨ c = '-'

def Exponent.chars (e : Exponent) : List Char := e.letter :: (e.sign.toList ++ e.digits.chars)

/-- A number as it is written. Its whole part does not begin with a zero, unless it is one. -/
structure Numeral where
  negative : Bool
  whole : DigitRun
  fraction : Option DigitRun
  exponent : Option Exponent
  hzero : whole.chars.head? = some '0' → whole.chars.length = 1

/-- What stands behind the whole part. -/
def Numeral.tail (n : Numeral) : List Char :=
  (n.fraction.map fun ds => '.' :: ds.chars).getD [] ++ (n.exponent.map Exponent.chars).getD []

def Numeral.chars (n : Numeral) : List Char := (if n.negative then ['-'] else []) ++ (n.whole.chars ++ n.tail)

/-! ### Documents -/

inductive Tree where
  | null
  | bool (b : Bool)
  | number (n : Numeral)
  | string (glyphs : List Glyph)
  | array (items : List Tree)
  | object (members : List (List Glyph × Tree))

/-- Parts with a comma in front of each, and what closes them. -/
def others (close : Char) (parts : List (List (List Char))) : List (List Char) :=
  parts.flatMap ([','] :: ·) ++ [[close]]

/-- Parts with commas between them, and what closes them. -/
def enclosed (close : Char) : List (List (List Char)) → List (List Char)
  | [] => [[close]]
  | part :: parts => part ++ others close parts

mutual

@[simp] def Tree.tokens : Tree → List (List Char)
  | .null => [['n', 'u', 'l', 'l']]
  | .bool b => [if b then ['t', 'r', 'u', 'e'] else ['f', 'a', 'l', 's', 'e']]
  | .number n => [n.chars]
  | .string glyphs => [literal glyphs]
  | .array items => ['['] :: enclosed ']' (itemTokens items)
  | .object members => ['\x7b'] :: enclosed '\x7d' (memberTokens members)

def itemTokens : List Tree → List (List (List Char))
  | [] => []
  | item :: items => item.tokens :: itemTokens items

def memberTokens : List (List Glyph × Tree) → List (List (List Char))
  | [] => []
  | (name, value) :: members => (literal name :: [':'] :: value.tokens) :: memberTokens members

end

theorem itemTokens_eq (items : List Tree) : itemTokens items = items.map Tree.tokens := by
  induction items with
  | nil => rfl
  | cons item items ih => rw [itemTokens, ih, List.map_cons]

theorem memberTokens_eq (members : List (List Glyph × Tree)) :
    memberTokens members = members.map fun m => literal m.1 :: [':'] :: m.2.tokens := by
  induction members with
  | nil => rfl
  | cons m members ih => rw [memberTokens, ih, List.map_cons]

/-- The characters of a text are these tokens and white space. -/
inductive Layout : List (List Char) → List Char → Prop
  | done {blanks : List Char} (hblanks : ∀ c ∈ blanks, isSpace c) : Layout [] blanks
  | token {blanks token rest : List Char} {tokens : List (List Char)} (hblanks : ∀ c ∈ blanks, isSpace c)
      (hrest : Layout tokens rest) : Layout (token :: tokens) (blanks ++ (token ++ rest))

/-- The text is a document with this tree. -/
def Tree.Spells (x : Tree) (text : String) : Prop := Layout x.tokens text.toList

/-- Induction over the trees inside a tree. -/
theorem Tree.induct {P : Tree → Prop} (null : P .null) (bool : ∀ b, P (.bool b)) (number : ∀ n, P (.number n))
    (string : ∀ glyphs, P (.string glyphs)) (array : ∀ items, (∀ x ∈ items, P x) → P (.array items))
    (object : ∀ members, (∀ m ∈ members, P m.2) → P (.object members)) (x : Tree) : P x :=
  @Tree.rec P (fun items => ∀ x ∈ items, P x) (fun members => ∀ m ∈ members, P m.2) (fun m => P m.2)
    null bool number string array object nofun (fun _ _ hx hxs => List.forall_mem_cons.mpr ⟨hx, hxs⟩)
    nofun (fun _ _ hm hms => List.forall_mem_cons.mpr ⟨hm, hms⟩) (fun _ _ hx => hx) x

theorem ne_nil_of_mem_enclosed {close : Char} {parts : List (List (List Char))}
    (h : ∀ part ∈ parts, ∀ token ∈ part, token ≠ []) : ∀ token ∈ enclosed close parts, token ≠ [] := by
  cases parts with
  | nil => simp [enclosed]
  | cons part parts =>
    intro token htoken
    simp only [enclosed, others, List.mem_append, List.mem_flatMap, List.mem_cons, List.not_mem_nil, or_false] at htoken
    rcases htoken with htoken | ⟨other, hother, rfl | htoken⟩ | rfl
    · exact h part (.head _) token htoken
    · exact List.cons_ne_nil _ _
    · exact h other (.tail _ hother) token htoken
    · exact List.cons_ne_nil _ _

theorem Tree.ne_nil_of_mem_tokens (x : Tree) : ∀ token ∈ x.tokens, token ≠ [] := by
  induction x using Tree.induct with
  | null => simp [tokens]
  | bool b => cases b <;> simp [tokens]
  | number n => simp [tokens, Numeral.chars, n.whole.ne_nil]
  | string glyphs => simp [tokens, literal]
  | array items ih =>
    rw [tokens, itemTokens_eq]
    refine List.forall_mem_cons.mpr ⟨List.cons_ne_nil _ _, ne_nil_of_mem_enclosed fun part hpart => ?_⟩
    obtain ⟨x, hx, rfl⟩ := List.mem_map.mp hpart
    exact ih x hx
  | object members ih =>
    rw [tokens, memberTokens_eq]
    refine List.forall_mem_cons.mpr ⟨List.cons_ne_nil _ _, ne_nil_of_mem_enclosed fun part hpart => ?_⟩
    obtain ⟨m, hm, rfl⟩ := List.mem_map.mp hpart
    simpa [literal] using ih m hm

/-! ### The next token -/

/-- The first character of a tree. -/
@[simp] def Tree.head : Tree → Char
  | .null => 'n'
  | .bool b => if b then 't' else 'f'
  | .number n => if n.negative then '-' else n.whole.chars.head n.whole.ne_nil
  | .string _ => '"'
  | .array _ => '['
  | .object _ => '\x7b'

theorem Numeral.chars_eq_cons (n : Numeral) : ∃ tail, n.chars = (Tree.number n).head :: tail := by
  rw [Numeral.chars, Tree.head]
  cases n.negative with
  | true => exact ⟨_, rfl⟩
  | false => exact ⟨n.whole.chars.tail ++ n.tail, by simp [← List.cons_append]⟩

theorem Tree.tokens_eq_cons (x : Tree) : ∃ tail tokens, x.tokens = (x.head :: tail) :: tokens := by
  cases x with
  | null => exact ⟨['u', 'l', 'l'], [], by rw [tokens, head]⟩
  | bool b =>
    cases b with
    | false => exact ⟨['a', 'l', 's', 'e'], [], by simp [tokens, head]⟩
    | true => exact ⟨['r', 'u', 'e'], [], by simp [tokens, head]⟩
  | number n =>
    obtain ⟨tail, htail⟩ := n.chars_eq_cons
    exact ⟨tail, [], by rw [tokens, htail]⟩
  | string glyphs => exact ⟨glyphs.flatMap Glyph.chars ++ ['"'], [], by rw [tokens, literal, head]⟩
  | array items => exact ⟨[], enclosed ']' (itemTokens items), by rw [tokens, head]⟩
  | object members => exact ⟨[], enclosed '\x7d' (memberTokens members), by rw [tokens, head]⟩

theorem DigitRun.isDigit_head (ds : DigitRun) : (ds.chars.head ds.ne_nil).isDigit :=
  ds.digits _ (List.head_mem ds.ne_nil)

theorem Tree.head_number (n : Numeral) : (Tree.number n).head = '-' ∨ (Tree.number n).head.isDigit := by
  rw [head]
  split_ifs
  · exact .inl rfl
  · exact .inr n.whole.isDigit_head

theorem Tree.head_number_ne (n : Numeral) {c : Char} (hdigit : c.isDigit = false) (hsign : c ≠ '-') :
    (Tree.number n).head ≠ c := by
  rintro rfl
  rcases head_number n with h | h
  · exact hsign h
  · rw [hdigit] at h
    cases h

/-- A tree begins with a digit or with one of seven characters. -/
theorem Tree.head_of_all {p : Char → Bool} (x : Tree) (hp : ['-', 'n', 't', 'f', '"', '[', '\x7b'].all p)
    (hdigit : ∀ c, c.isDigit → p c) : p x.head := by
  simp only [List.all_cons, List.all_nil, Bool.and_true, Bool.and_eq_true] at hp
  cases x with
  | number n =>
    rcases head_number n with h | h
    · rw [h]
      exact hp.1
    · exact hdigit _ h
  | bool b => cases b <;> simp [head, hp]
  | null | string | array | object => simp [head, hp]

theorem Tree.isSpace_head (x : Tree) : isSpace x.head = false := by
  have hhead := x.head_of_all (p := fun c => !isSpace c) (by decide) fun c hc => by simp [isSpace_of_isDigit hc]
  simpa using hhead

theorem Tree.head_ne_closer (x : Tree) (frame : Frame) : x.head ≠ frame.closer := by
  have hhead := x.head_of_all (p := (· != frame.closer)) (by cases frame <;> decide) fun c hc => ?_
  · simpa using hhead
  · cases frame
    all_goals
      simp only [Frame.closer, bne_iff_ne, ne_eq]
      rintro rfl
      exact absurd hc (by decide)

/-! ### Layouts -/

/-- The same white space in front of every token. -/
theorem layout_spaced {blanks : List Char} (h : ∀ c ∈ blanks, isSpace c) (tokens : List (List Char)) :
    Layout tokens (tokens.flatMap (blanks ++ ·)) := by
  induction tokens with
  | nil => exact .done isSpace_of_mem_nil
  | cons token tokens ih =>
    rw [List.flatMap_cons, List.append_assoc]
    exact .token h ih

theorem exists_layout (tokens : List (List Char)) : ∃ cs, Layout tokens cs :=
  ⟨_, layout_spaced isSpace_of_mem_nil tokens⟩

namespace Layout

variable {tokens : List (List Char)} {cs : List Char} {β : Type}

/-- Looking for the next token passes over the white space in front of it. -/
theorem peekToken_bind {c : Char} {tail : List Char} (h : Layout ((c :: tail) :: tokens) cs)
    (hc : isSpace c = false) : ∃ rest, Layout tokens rest ∧
      ∀ {β : Type} (f : Char → Reader β), (peekToken >>= f) cs = f c (c :: (tail ++ rest)) := by
  cases h with
  | token hblanks hrest => exact ⟨_, hrest, fun f => Json.peekToken_bind hblanks hc f⟩

theorem skipSpace_bind {c : Char} {tail : List Char} (h : Layout ((c :: tail) :: tokens) cs)
    (hc : isSpace c = false) : ∃ rest, Layout tokens rest ∧
      ∀ {β : Type} (f : Unit → Reader β), (skipSpace >>= f) cs = f () (c :: (tail ++ rest)) := by
  cases h with
  | token hblanks hrest =>
    refine ⟨_, hrest, fun f => ?_⟩
    rw [skipSpace, skipWhile_bind, List.cons_append, dropWhile_append_of_stops hblanks (stops_cons hc _)]

/-- A token of one character that is looked at and then passed over. -/
theorem mark {c : Char} (h : Layout ([c] :: tokens) cs) (hc : isSpace c = false) :
    ∃ rest, Layout tokens rest ∧ ∀ {β : Type} (f : Char → Reader β), (peekToken >>= f) cs = f c (c :: rest) :=
  h.peekToken_bind hc

theorem tree {x : Tree} (h : Layout (x.tokens ++ tokens) cs) :
    ∃ cs', Layout (x.tokens ++ tokens) cs' ∧
      ∀ {β : Type} (f : Char → Reader β), (peekToken >>= f) cs = f x.head cs' := by
  obtain ⟨tail, more, hx⟩ := x.tokens_eq_cons
  rw [hx, List.cons_append] at h ⊢
  obtain ⟨rest, hrest, hpeek⟩ := h.peekToken_bind x.isSpace_head
  exact ⟨[] ++ ((x.head :: tail) ++ rest), .token isSpace_of_mem_nil hrest, hpeek⟩

/-- A tree of one token. -/
theorem scalar {x : Tree} {token : List Char} (hx : x.tokens = [token]) (h : Layout (x.tokens ++ tokens) cs) :
    ∃ rest, Layout tokens rest ∧
      ∀ {β : Type} (f : Char → Reader β), (peekToken >>= f) cs = f x.head (token ++ rest) := by
  obtain ⟨tail, more, htokens⟩ := x.tokens_eq_cons
  obtain ⟨rfl, -⟩ := List.cons.inj (hx.symm.trans htokens)
  rw [hx] at h
  exact h.peekToken_bind x.isSpace_head

theorem length_le {first : List (List Char)} (h : Layout (first ++ tokens) cs) (hne : ∀ token ∈ first, token ≠ []) :
    first.length ≤ cs.length := by
  induction first generalizing cs with
  | nil => exact Nat.zero_le _
  | cons token first ih =>
    cases h with
    | token hblanks hrest =>
      have hlength := ih hrest fun t ht => hne t (.tail _ ht)
      have htoken := List.length_pos_iff.mpr (hne token (.head _))
      simp only [List.length_cons, List.length_append]
      omega

end Layout

/-- What may follow a value. -/
def Ends (tokens : List (List Char)) : Prop := ∀ token ∈ tokens.head?, token ∈ [[','], [']'], ['\x7d']]

/-- A comma or a closing bracket comes first. -/
theorem ends_others (frame : Frame) (parts : List (List (List Char))) (ts : List (List Char)) :
    Ends (others frame.closer parts ++ ts) := by
  cases parts with
  | nil => cases frame <;> simp [Ends, others, Frame.closer]
  | cons part parts => simp [Ends, others]

/-- The characters that may follow a value. -/
def Follows (rest : List Char) : Prop := ∀ c ∈ rest.head?, c ∈ [',', ']', '\x7d', ' ', '\n', '\t', '\r']

theorem Layout.follows {tokens : List (List Char)} {cs : List Char} (h : Layout tokens cs) (hends : Ends tokens) :
    Follows cs := by
  have hspace {c : Char} (hc : isSpace c) : c ∈ [',', ']', '\x7d', ' ', '\n', '\t', '\r'] :=
    .tail _ (.tail _ (.tail _ (isSpace_iff.mp hc)))
  cases h with
  | done hblanks => exact fun c hc => hspace (hblanks c (List.mem_of_mem_head? hc))
  | token hblanks hrest =>
    rename_i blanks token rest tokens
    cases blanks with
    | cons b blanks => exact fun c hc => hspace (Option.some.inj hc ▸ hblanks b (.head _))
    | nil =>
      intro c hc
      have htoken := hends token rfl
      simp only [List.mem_cons, List.not_mem_nil, or_false] at htoken
      rcases htoken with rfl | rfl | rfl
      all_goals
        obtain rfl := Option.some.inj hc
        decide

theorem Follows.stops {p : Char → Bool} {rest : List Char} (h : Follows rest)
    (hp : [',', ']', '\x7d', ' ', '\n', '\t', '\r'].any p = false) : Stops p rest :=
  fun c hc => Bool.eq_false_iff.mpr (List.any_eq_false.mp hp c (h c hc))

end AlloyGrade.Json
