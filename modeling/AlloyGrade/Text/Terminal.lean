import AlloyGrade.Text.Utf8

/-! Text without what steers a terminal: control characters other than white space, and the sequences that an
escape character opens. A machine reads one octet at a time and says which octets are shown. -/

namespace AlloyGrade.Text.Terminal

/-- Where the machine is in a sequence. -/
inductive State where
  | ground
  /-- Inside a character, with so many octets still due. -/
  | character (due : Nat)
  | escape
  /-- An escape sequence that goes on past its first octet. -/
  | intermediate
  /-- A control sequence, up to its final letter. -/
  | control
  /-- A command of the operating system, up to a bell. -/
  | command
  /-- The head of a device control string: before its parameters, among them, and behind them. -/
  | device
  | parameters
  | qualified
  /-- Any other string, up to the octet that ends strings. -/
  | string
deriving DecidableEq, Repr

def isSpace (b : UInt8) : Bool := b == 0x20 || b == 0x09 || b == 0x0a || b == 0x0c || b == 0x0d

/-- What an octet does between sequences: the next state, if it changes, and whether the octet is shown. -/
def plain (b : UInt8) : Option State × Bool :=
  if b == 0x1b then (some .escape, false)
  else if b == 0x18 || b == 0x1a then (some .ground, false)
  else if b < 0x20 then (none, isSpace b)
  else if b < 0x7f then (none, true)
  else if b < 0xc2 then (none, false)
  else if b < 0xe0 then (some (.character 1), true)
  else if b < 0xf0 then (some (.character 2), true)
  else if b < 0xf5 then (some (.character 3), true)
  else (none, false)

/-- Outside strings white space is carried out even inside a sequence. -/
def controlOr (b : UInt8) (other : Option State) : Option State × Bool :=
  if b < 0x20 then (none, isSpace b)
  else if b < 0x7f then (other, false)
  else (none, false)

/-- What an octet does in a state: the next state, if it changes, and whether the octet is shown. -/
def change (s : State) (b : UInt8) : Option State × Bool :=
  if b == 0x1b || b == 0x18 || b == 0x1a then plain b
  else match s with
    | .ground => plain b
    | .character due => (some (if due ≤ 1 then .ground else .character (due - 1)), true)
    | .escape =>
      controlOr b <| some <|
        if b < 0x30 then .intermediate
        else if b == 0x5b then .control
        else if b == 0x5d then .command
        else if b == 0x50 then .device
        else if b == 0x58 || b == 0x5e || b == 0x5f then .string
        else .ground
    | .intermediate => controlOr b (if b < 0x30 then none else some .ground)
    | .control => controlOr b (if b < 0x40 then none else some .ground)
    | .command => (if b == 0x07 then some .ground else none, false)
    | .device | .parameters =>
      (if b < 0x20 || 0x7f ≤ b then none
        else if b < 0x30 then some .qualified
        else if b < 0x3c then some .parameters
        else if b < 0x40 then some (if s = .device then .parameters else .string)
        else some .string, false)
    | .qualified => (if b < 0x30 || 0x7f ≤ b then none else some .string, false)
    | .string => (if b == 0x9c then some .ground else none, false)

/-- The octets that are shown. While octets are `showing`, they are read as between sequences, but a sequence that
white space has interrupted is not over: it goes on with the next octet that is not shown. -/
def shownOctets : State → Bool → Bytes → Bytes
  | _, _, [] => []
  | .character due, _, b :: rest => b :: shownOctets (if due ≤ 1 then .ground else .character (due - 1)) true rest
  | s, true, b :: rest =>
    match plain b with
    | (next, true) => b :: shownOctets (next.getD s) true rest
    | (next, false) =>
      let s := next.getD s
      shownOctets ((change s b).1.getD s) false rest
  | s, false, b :: rest =>
    match change s b with
    | (_, true) => b :: shownOctets ((plain b).1.getD s) true rest
    | (next, false) => shownOctets (next.getD s) false rest

/-- The part of a text that a terminal would show. -/
def shown (s : String) : String := Utf8.lossy (shownOctets .ground false (Bytes.ofString s))

end AlloyGrade.Text.Terminal
