import AlloyGrade.Digest.Sha256

/-! MD5. The padding is that of SHA-256, but octets make words with the least significant first. -/

namespace AlloyGrade.Md5

structure State where
  a : UInt32
  b : UInt32
  c : UInt32
  d : UInt32
deriving DecidableEq, Repr

def initial : State := ⟨0x67452301, 0xefcdab89, 0x98badcfe, 0x10325476⟩

def roundConstants : List UInt32 :=
  [0xd76aa478, 0xe8c7b756, 0x242070db, 0xc1bdceee, 0xf57c0faf, 0x4787c62a, 0xa8304613, 0xfd469501,
   0x698098d8, 0x8b44f7af, 0xffff5bb1, 0x895cd7be, 0x6b901122, 0xfd987193, 0xa679438e, 0x49b40821,
   0xf61e2562, 0xc040b340, 0x265e5a51, 0xe9b6c7aa, 0xd62f105d, 0x02441453, 0xd8a1e681, 0xe7d3fbc8,
   0x21e1cde6, 0xc33707d6, 0xf4d50d87, 0x455a14ed, 0xa9e3e905, 0xfcefa3f8, 0x676f02d9, 0x8d2a4c8a,
   0xfffa3942, 0x8771f681, 0x6d9d6122, 0xfde5380c, 0xa4beea44, 0x4bdecfa9, 0xf6bb4b60, 0xbebfbc70,
   0x289b7ec6, 0xeaa127fa, 0xd4ef3085, 0x04881d05, 0xd9d4d039, 0xe6db99e5, 0x1fa27cf8, 0xc4ac5665,
   0xf4292244, 0x432aff97, 0xab9423a7, 0xfc93a039, 0x655b59c3, 0x8f0ccc92, 0xffeff47d, 0x85845dd1,
   0x6fa87e4f, 0xfe2ce6e0, 0xa3014314, 0x4e0811a1, 0xf7537e82, 0xbd3af235, 0x2ad7d2bb, 0xeb86d391]

def shifts : List (List UInt32) := [[7, 12, 17, 22], [5, 9, 14, 20], [4, 11, 16, 23], [6, 10, 15, 21]]

def rotateLeft (x n : UInt32) : UInt32 := (x <<< n) ||| (x >>> (32 - n))

/-- Four octets make a word, least significant first. -/
def words : Bytes → List UInt32
  | a :: b :: c :: d :: rest =>
    ((d.toUInt32 <<< 24) ||| (c.toUInt32 <<< 16) ||| (b.toUInt32 <<< 8) ||| a.toUInt32) :: words rest
  | _ => []

/-- The mixing function of a step, and which word of the block it takes. -/
def mix (i : Nat) (b c d : UInt32) : UInt32 × Nat :=
  if i < 16 then ((b &&& c) ||| (~~~b &&& d), i)
  else if i < 32 then ((d &&& b) ||| (~~~d &&& c), (5 * i + 1) % 16)
  else if i < 48 then (b ^^^ c ^^^ d, (3 * i + 5) % 16)
  else (c ^^^ (b ||| ~~~d), (7 * i) % 16)

def step (block : Array UInt32) (s : State) (ki : UInt32 × Nat) : State :=
  let (k, i) := ki
  let (f, g) := mix i s.b s.c s.d
  let shift := ((shifts[i / 16]?.getD [])[i % 4]?).getD 0
  ⟨s.d, s.b + rotateLeft (f + s.a + k + block.getD g 0) shift, s.b, s.c⟩

def compress (s : State) (block : Bytes) : State :=
  let r := roundConstants.zipIdx.foldl (step (words block).toArray) s
  ⟨s.a + r.a, s.b + r.b, s.c + r.c, s.d + r.d⟩

/-- The message, a closing one bit, zeros, and the length with the least significant octet first. -/
def pad (message : Bytes) : Bytes :=
  message ++ 0x80 :: (List.replicate (Sha256.paddingZeros message.length) 0 ++ (Sha256.lengthOctets message.length).reverse)

/-- The digest of a message, 16 octets. -/
def digest (message : Bytes) : Bytes :=
  let padded := pad message
  let s := (Sha256.blocks (padded.length / 64) padded).foldl compress initial
  [s.a, s.b, s.c, s.d].flatMap fun w => (Sha256.wordOctets w).reverse

end AlloyGrade.Md5
