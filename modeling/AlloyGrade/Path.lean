import AlloyGrade.Text.Utf8

/-! Paths as callers write them: octets, never normalised. Two paths are compared by their components,
so repeated slashes, trailing slashes and inner dots make no difference. -/

namespace AlloyGrade

structure Path where
  bytes : Bytes
deriving DecidableEq, Repr, Inhabited

/-- A part of a path that counts when paths are compared. -/
inductive Component where
  | root
  | here
  | up
  | name (bytes : Bytes)
deriving DecidableEq, Repr

def Component.ofPiece (piece : Bytes) : Component :=
  if piece = [Bytes.dot] then .here
  else if piece = [Bytes.dot, Bytes.dot] then .up
  else .name piece

namespace Path

def ofString (s : String) : Path := ⟨Bytes.ofString s⟩

/-- The path as shown to people. -/
def display (p : Path) : String := Utf8.lossy p.bytes

def isAbsolute (p : Path) : Bool := p.bytes.head? == some Bytes.slash

/-- The pieces between slashes, without the empty ones. -/
def pieces (p : Path) : List Bytes :=
  (Bytes.splitOn Bytes.slash p.bytes).filter (!·.isEmpty)

/-- A dot counts only where it opens a relative path. -/
def components (p : Path) : List Component :=
  let parts := p.pieces.map Component.ofPiece
  if p.isAbsolute then .root :: parts.filter (· != .here)
  else match parts with
    | .here :: rest => .here :: rest.filter (· != .here)
    | _ => parts.filter (· != .here)

instance : BEq Path := ⟨fun p q => p.components == q.components⟩

/-- Writes `q` after `p`; an absolute `q` replaces `p`. -/
def join (p q : Path) : Path :=
  if q.isAbsolute then q
  else if p.bytes.isEmpty || p.bytes.getLast? == some Bytes.slash then ⟨p.bytes ++ q.bytes⟩
  else ⟨p.bytes ++ Bytes.slash :: q.bytes⟩

/-- The path that spells the given components. -/
def ofComponents : List Component → Path
  | [] => ⟨[]⟩
  | .root :: rest => ⟨Bytes.slash :: (ofComponents rest).bytes⟩
  | c :: rest =>
    let head := match c with
      | .here => [Bytes.dot]
      | .up => [Bytes.dot, Bytes.dot]
      | .name n => n
      | .root => []
    if rest.isEmpty then ⟨head⟩ else ⟨head ++ Bytes.slash :: (ofComponents rest).bytes⟩

/-- The path without its last component; the root and the empty path have none. -/
def parent? (p : Path) : Option Path :=
  match p.components.getLast? with
  | none | some .root => none
  | some _ => some (ofComponents p.components.dropLast)

def hasNul (p : Path) : Bool := p.bytes.contains 0

end Path

end AlloyGrade
