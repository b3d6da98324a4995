/-! Octet strings. File names, arguments and captured streams are octets; text enters them as UTF-8
and leaves them through the decoder of `Text.Utf8`. -/

namespace AlloyGrade

abbrev Bytes := List UInt8

namespace Bytes

/-- The UTF-8 octets of a text. -/
def ofString (s : String) : Bytes := s.toList.flatMap String.utf8EncodeChar

/-- An ASCII character as one octet. -/
def ofAscii (c : Char) : UInt8 := UInt8.ofNat c.toNat

def slash : UInt8 := 0x2f

def dot : UInt8 := 0x2e

/-- Splits at every `sep`; the pieces joined by `sep` give the whole back. -/
def splitOn (sep : UInt8) : Bytes → List Bytes
  | [] => [[]]
  | b :: rest =>
    match splitOn sep rest with
    | [] => [[b]]
    | piece :: pieces => if b = sep then [] :: piece :: pieces else (b :: piece) :: pieces

/-- The strict order in which directory listings are sorted. -/
def lt : Bytes → Bytes → Bool
  | [], [] => false
  | [], _ :: _ => true
  | _ :: _, [] => false
  | a :: as, b :: bs => a < b || (a == b && lt as bs)

end Bytes

end AlloyGrade
