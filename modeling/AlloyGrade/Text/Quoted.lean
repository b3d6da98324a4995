import AlloyGrade.Text.Printable
import AlloyGrade.Text.Utf8

/-! Text between double quotes, with escapes for whatever would not show. File names are quoted the same
way, except that an octet outside UTF-8 is written in hexadecimal. -/

namespace AlloyGrade.Text.Quoted

def hexDigits (n : Nat) : List Char := Nat.toDigits 16 n

/-- A code point in braces, as in `\u{301}`. -/
def codePoint (c : Char) : List Char :=
  ['\\', 'u', '\x7b'] ++ hexDigits c.toNat ++ ['\x7d']

def escape (c : Char) : List Char :=
  if c = '\x00' then ['\\', '0']
  else if c = '\t' then ['\\', 't']
  else if c = '\n' then ['\\', 'n']
  else if c = '\r' then ['\\', 'r']
  else if c = '"' then ['\\', '"']
  else if c = '\\' then ['\\', '\\']
  else if Printable.isShown c then [c]
  else codePoint c

/-- A text in quotes. -/
def text (s : String) : String :=
  String.ofList (['"'] ++ s.toList.flatMap escape ++ ['"'])

/-- An octet as `\xFF`. -/
def octet (b : UInt8) : List Char :=
  let digits := (hexDigits b.toNat).map Char.toUpper
  ['\\', 'x'] ++ List.replicate (2 - digits.length) '0' ++ digits

/-- The characters of an octet string and the octets of its ill-formed parts, in order. -/
def nameParts : Bytes → Nat → List (Char ⊕ UInt8)
  | [], _ => []
  | _, 0 => []
  | b :: rest, fuel + 1 =>
    match (List.range 4).findSome? fun n => Utf8.decode? ((b :: rest).take (n + 1)) with
    | some s =>
      match s.toList with
      | [c] => .inl c :: nameParts ((b :: rest).drop (String.utf8EncodeChar c).length) fuel
      | _ => .inr b :: nameParts rest fuel
    | none => .inr b :: nameParts rest fuel

/-- A file name in quotes. -/
def name (bs : Bytes) : String :=
  let parts := (nameParts bs bs.length).flatMap fun
    | .inl c => escape c
    | .inr b => octet b
  String.ofList (['"'] ++ parts ++ ['"'])

end AlloyGrade.Text.Quoted
