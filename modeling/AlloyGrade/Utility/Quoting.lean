import AlloyGrade.Utility.Basic

/-! Names of files in messages: as they are if a shell would take them so, and quoted for a shell otherwise. -/

namespace AlloyGrade.Utility

def isPrintable (c : Char) : Bool := 32 ≤ c.toNat && c.toNat < 127

/-- Characters that mean nothing special in any kind of quotes. -/
def isHarmless (c : Char) : Bool := c.isAlphanum || ['%', '+', ',', '-', '.', '/', ':', ']', '_'].contains c

/-- Whether a shell would take a name differently. -/
def needsQuotes (name : Octets) : Bool :=
  name.isEmpty || name == ['\x7b'] || name == ['\x7d'] || ['#', '~'].any (some · == name.head?) ||
    name.any fun c => !isPrintable c ||
      [' ', '!', '"', '$', '&', '(', ')', '*', ';', '<', '=', '>', '[', '^', '\x60', '|', '\'', '?', '\\'].contains c

def octalEscape (c : Char) : Octets :=
  let n := c.toNat
  '\\' :: [n / 64, n / 8 % 8, n % 8].map fun d => Char.ofNat ('0'.toNat + d)

def escaped (c : Char) : Octets :=
  match c with
  | '\x07' => ['\\', 'a']
  | '\x08' => ['\\', 'b']
  | '\x0c' => ['\\', 'f']
  | '\n' => ['\\', 'n']
  | '\r' => ['\\', 'r']
  | '\t' => ['\\', 't']
  | '\x0b' => ['\\', 'v']
  | c => octalEscape c

/-- The inside of single quotes; characters that cannot be printed stand in quotes of their own. -/
def quotedInside : Octets → Bool → Octets
  | [], _ => ['\'']
  | c :: rest, inEscape =>
    if c = '\'' then (if inEscape then ['\'', '\''] else []) ++ ['\'', '\\', '\'', '\''] ++ quotedInside rest false
    else if isPrintable c then (if inEscape then ['\'', '\''] else []) ++ c :: quotedInside rest false
    else (if inEscape then [] else ['\'', '$', '\'']) ++ escaped c ++ quotedInside rest true

/-- A name in quotes for a shell. -/
def nameQuoted (name : Octets) : Octets :=
  let isolated := name == ['\x7b'] || name == ['\x7d']
  let compatible := name.all fun c => isHarmless c || c = ' ' || c = '\''
  if name.contains '\'' && compatible && !isolated then ['"'] ++ name ++ ['"'] else '\'' :: quotedInside name false

/-- A name, quoted for a shell only if it has to be. -/
def nameShown (name : Octets) : Octets := if needsQuotes name then nameQuoted name else name

/-- A text in quotes, with escapes for what cannot be printed. -/
def textQuoted (text : Octets) : Octets :=
  quoted (text.flatMap fun c =>
    if c = '\'' || c = '\\' then ['\\', c] else if isPrintable c then [c] else escaped c)

end AlloyGrade.Utility
