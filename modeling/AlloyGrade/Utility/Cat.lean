import AlloyGrade.Utility.Quoting

/-! The utility that writes files one after the other, with numbers and marks if asked for. -/

namespace AlloyGrade.Utility

open Process Tool

structure Marks where
  numbers : Bool
  numbersFilled : Bool
  squeeze : Bool
  ends : Bool
  tabs : Bool
  others : Bool

namespace Marks

def isPlain (m : Marks) : Bool :=
  !(m.numbers || m.numbersFilled || m.squeeze || m.ends || m.tabs || m.others)

/-- How an octet that cannot be printed is shown. -/
def visible (c : Char) : Octets :=
  let n := c.toNat
  if n < 32 then ['^', Char.ofNat (n + 64)]
  else if n < 127 then [c]
  else if n = 127 then ['^', '?']
  else if n < 160 then ['M', '-', '^', Char.ofNat (n - 64)]
  else if n < 255 then ['M', '-', Char.ofNat (n - 128)]
  else ['M', '-', '^', '?']

def lineNumber (n : Nat) : Octets :=
  let ds := Octets.ofNat n
  List.replicate (6 - ds.length) ' ' ++ ds ++ ['\t']

end Marks

/-- Where the writing stands: how many line ends have just come, and the number of the last line. -/
structure CatState where
  ends : Nat
  line : Nat

namespace Marks

def mark (m : Marks) : Octets → CatState → List Octets → Octets × CatState
  | [], s, acc => (acc.reverse.flatten, s)
  | c :: rest, s, acc =>
    if c = '\n' then
      if m.squeeze && 2 ≤ s.ends then mark m rest s acc
      else
        let numbered := 0 < s.ends && m.numbers && !m.numbersFilled
        let line := if numbered then s.line + 1 else s.line
        let text := (if numbered then lineNumber line else []) ++ (if m.ends then ['$'] else []) ++ ['\n']
        mark m rest ⟨s.ends + 1, line⟩ (text :: acc)
    else
      let numbered := 0 < s.ends && (m.numbers || m.numbersFilled)
      let line := if numbered then s.line + 1 else s.line
      let shown :=
        if c = '\t' then (if m.tabs then ['^', 'I'] else [c])
        else if m.others then visible c
        else if c = '\r' && m.ends && rest.head? = some '\n' then ['^', 'M']
        else [c]
      mark m rest ⟨0, line⟩ (((if numbered then lineNumber line else []) ++ shown) :: acc)

end Marks

def catOptions : Options :=
  .of "AbeEnstTuv" "" [("show-all", 'A'), ("number-nonblank", 'b'), ("show-ends", 'E'), ("number", 'n'), ("squeeze-blank", 's'),
    ("show-tabs", 'T'), ("show-nonprinting", 'v')]

/-- Copies what a descriptor gives, piece by piece. -/
def copyThrough (fd : Nat) : Nat → Tool (Except Errno Unit)
  | 0 => return .ok ()
  | fuel + 1 => do
    match ← ask (.read fd 65536) with
    | .error e => return .error e
    | .ok [] => return .ok ()
    | .ok piece =>
      put piece
      flush
      if (← get).lost.isSome then finish
      copyThrough fd fuel

/-- The file behind a descriptor that could grow while it is read. -/
def growing (v : View) (fd : Nat) : Option Location :=
  match v.handles.lookup fd with
  | some (.entry loc (.file _)) => if loc.isEmpty then none else some loc
  | _ => none

def isEmptyFile (v : View) (loc : Location) : Bool :=
  match v.fs.lookup loc with
  | some (.file f) => f.content.isEmpty
  | _ => false

def catOne (m : Marks) (s : CatState) (name : Octets) : Tool CatState := do
  let opened ← if name == ['-'] then pure (.ok 0) else open_ name .reading
  match opened with
  | .error e =>
    wrong (because (nameShown name) e)
    return s
  | .ok fd =>
    let v ← view
    let into := growing v 1
    if into.isSome && into = growing v fd && !isEmptyFile v (into.getD []) then
      wrong (nameShown name ++ ": input file is output file".toList)
      unless name == ['-'] do close fd
      return s
    let (s, problem) ← if m.isPlain then do
        match ← copyThrough fd patience with
        | .ok () => pure (s, none)
        | .error e => pure (s, some e)
      else match ← readAll fd with
        | .ok text =>
          let (shown, s) := m.mark text s []
          put shown
          pure (s, none)
        | .error e => pure (s, some e)
    match problem with
    | some e => wrong (because (nameShown name) e)
    | none => pure ()
    unless name == ['-'] do close fd
    return s

def catEach (m : Marks) : List Octets → CatState → Tool Unit
  | [], _ => return ()
  | name :: rest, s => do catEach m rest (← catOne m s name)

def cat : Body := fun args => do
  let (opts, names) ← catOptions.find args
  let has := Options.has opts
  let m : Marks := {
    numbers := has 'n' || has 'b'
    numbersFilled := has 'b'
    squeeze := has 's'
    ends := has 'E' || has 'A' || has 'e'
    tabs := has 'T' || has 'A' || has 't'
    others := has 'v' || has 'A' || has 'e' || has 't' }
  let v ← view
  if (v.handles.lookup 1).isNone then fail 1 ("standard output: ".toList ++ (Errno.text Errno.badDescriptor).toList)
  let names := if names.isEmpty then [['-']] else names
  catEach m names ⟨1, 0⟩
  if names.contains ['-'] && (v.handles.lookup 0).isNone then
    fail 1 ("closing standard input: ".toList ++ (Errno.text Errno.badDescriptor).toList)

end AlloyGrade.Utility
