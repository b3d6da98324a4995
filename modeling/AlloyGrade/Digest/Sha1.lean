import AlloyGrade.Digest.Md5

/-! SHA-1, with the padding and the words of SHA-256 and a chaining state of five words. -/

namespace AlloyGrade.Sha1

structure State where
  a : UInt32
  b : UInt32
  c : UInt32
  d : UInt32
  e : UInt32
deriving DecidableEq, Repr

def initial : State := ⟨0x67452301, 0xefcdab89, 0x98badcfe, 0x10325476, 0xc3d2e1f0⟩

/-- One more word of the schedule. -/
def extend (w : Array UInt32) : Array UInt32 :=
  let n := w.size
  w.push (Md5.rotateLeft (w.getD (n - 3) 0 ^^^ w.getD (n - 8) 0 ^^^ w.getD (n - 14) 0 ^^^ w.getD (n - 16) 0) 1)

/-- The block's sixteen words and sixty-four made from them. -/
def schedule (block : Bytes) : List UInt32 :=
  ((List.range 64).foldl (fun w _ => extend w) (Sha256.words block).toArray).toList

/-- The mixing function and the constant of a step. -/
def mix (i : Nat) (b c d : UInt32) : UInt32 × UInt32 :=
  if i < 20 then ((b &&& c) ||| (~~~b &&& d), 0x5a827999)
  else if i < 40 then (b ^^^ c ^^^ d, 0x6ed9eba1)
  else if i < 60 then (Sha256.majority b c d, 0x8f1bbcdc)
  else (b ^^^ c ^^^ d, 0xca62c1d6)

def step (s : State) (wi : UInt32 × Nat) : State :=
  let (f, k) := mix wi.2 s.b s.c s.d
  ⟨Md5.rotateLeft s.a 5 + f + s.e + k + wi.1, s.a, Md5.rotateLeft s.b 30, s.c, s.d⟩

def compress (s : State) (block : Bytes) : State :=
  let r := (schedule block).zipIdx.foldl step s
  ⟨s.a + r.a, s.b + r.b, s.c + r.c, s.d + r.d, s.e + r.e⟩

/-- The digest of a message, 20 octets. -/
def digest (message : Bytes) : Bytes :=
  let padded := Sha256.pad message
  let s := (Sha256.blocks (padded.length / 64) padded).foldl compress initial
  [s.a, s.b, s.c, s.d, s.e].flatMap Sha256.wordOctets

end AlloyGrade.Sha1
