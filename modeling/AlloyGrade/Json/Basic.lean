/-! JSON documents and their two printed forms. Objects keep the order of their members. -/

namespace AlloyGrade

inductive Json where
  | null
  | bool (b : Bool)
  | int (n : Int)
  | str (s : String)
  | obj (members : List (String × Json))
deriving Repr

namespace Json

/-! ### Strings -/

def hexDigit (n : Nat) : Char :=
  if n < 10 then Char.ofNat (48 + n) else Char.ofNat (87 + n)

/-- Quotes, backslashes and controls are escaped, and nothing else. -/
def escape (c : Char) : List Char :=
  if c = '"' then ['\\', '"']
  else if c = '\\' then ['\\', '\\']
  else if c.toNat = 8 then ['\\', 'b']
  else if c = '\t' then ['\\', 't']
  else if c = '\n' then ['\\', 'n']
  else if c.toNat = 12 then ['\\', 'f']
  else if c = '\r' then ['\\', 'r']
  else if c.toNat < 0x20 then ['\\', 'u', '0', '0', hexDigit (c.toNat / 16), hexDigit (c.toNat % 16)]
  else [c]

def quoted (s : String) : List Char := '"' :: (s.toList.flatMap escape ++ ['"'])

/-! ### Documents -/

def scalar : Json → List Char
  | .null => "null".toList
  | .bool b => (if b then "true" else "false").toList
  | .int n => (toString n).toList
  | .str s => quoted s
  | .obj _ => []

def indent (depth : Nat) : List Char := '\n' :: List.replicate (2 * depth) ' '

mutual

def prettyChars (depth : Nat) : Json → List Char
  | .obj [] => ['\x7b', '\x7d']
  | .obj (m :: ms) =>
    ['\x7b'] ++ indent (depth + 1) ++ prettyMember depth m ++ prettyMembers depth ms ++ indent depth ++ ['\x7d']
  | value => scalar value

def prettyMember (depth : Nat) : String × Json → List Char
  | (name, value) => quoted name ++ [':', ' '] ++ prettyChars (depth + 1) value

def prettyMembers (depth : Nat) : List (String × Json) → List Char
  | [] => []
  | m :: ms => [','] ++ indent (depth + 1) ++ prettyMember depth m ++ prettyMembers depth ms

end

/-- One member to a line, indented by two for each level. -/
def pretty (j : Json) : String := String.ofList (prettyChars 0 j)

mutual

def compactChars : Json → List Char
  | .obj [] => ['\x7b', '\x7d']
  | .obj (m :: ms) => ['\x7b'] ++ compactMember m ++ compactMembers ms ++ ['\x7d']
  | value => scalar value

def compactMember : String × Json → List Char
  | (name, value) => quoted name ++ [':'] ++ compactChars value

def compactMembers : List (String × Json) → List Char
  | [] => []
  | m :: ms => [','] ++ compactMember m ++ compactMembers ms

end

/-- All on one line, without blanks. -/
def compact (j : Json) : String := String.ofList (compactChars j)

end Json

end AlloyGrade
