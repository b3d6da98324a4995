import AlloyGrade.Text.Bytes

/-! Decoding of UTF-8 by a machine that reads one octet at a time. It emits a character for each
well-formed sequence and `none` for each maximal ill-formed part, so one machine serves both the strict
decoder and the lossy one, which writes U+FFFD for `none`. -/

namespace AlloyGrade.Utf8

/-- Between two octets the machine holds nothing, or the head of a sequence: how many octets are still
due, the range in which the next one must lie, and the value read so far. -/
inductive State where
  | ground
  | pending (due : Nat) (low high : UInt8) (value : Nat)
deriving DecidableEq, Repr

/-- What an octet does at the start of a sequence. -/
def start (b : UInt8) : State × List (Option Char) :=
  let v := b.toNat
  if v < 0x80 then (.ground, [some (Char.ofNat v)])
  else if v < 0xc2 then (.ground, [none])
  else if v < 0xe0 then (.pending 1 0x80 0xbf (v - 0xc0), [])
  else if v = 0xe0 then (.pending 2 0xa0 0xbf 0, [])
  else if v = 0xed then (.pending 2 0x80 0x9f 0xd, [])
  else if v < 0xf0 then (.pending 2 0x80 0xbf (v - 0xe0), [])
  else if v = 0xf0 then (.pending 3 0x90 0xbf 0, [])
  else if v < 0xf4 then (.pending 3 0x80 0xbf (v - 0xf0), [])
  else if v = 0xf4 then (.pending 3 0x80 0x8f 4, [])
  else (.ground, [none])

/-- One step: the next state, and what is emitted, last first. -/
def step : State → UInt8 → State × List (Option Char)
  | .ground, b => start b
  | .pending due low high value, b =>
    if low ≤ b ∧ b ≤ high then
      let value := value * 64 + (b.toNat - 0x80)
      if due ≤ 1 then (.ground, [some (Char.ofNat value)]) else (.pending (due - 1) 0x80 0xbf value, [])
    else
      let (next, out) := start b
      (next, out ++ [none])

/-- A sequence cut short by the end of the input is one ill-formed part. -/
def finish : State → List (Option Char)
  | .ground => []
  | .pending .. => [none]

def feed (acc : State × List (Option Char)) (b : UInt8) : State × List (Option Char) :=
  let (next, out) := step acc.1 b
  (next, out ++ acc.2)

/-- The characters and ill-formed parts of an octet string, in order. -/
def units (bs : Bytes) : List (Option Char) :=
  let (last, out) := bs.foldl feed (.ground, [])
  (finish last ++ out).reverse

def replacement : Char := Char.ofNat 0xfffd

/-- The text of an octet string, each maximal ill-formed part shown as U+FFFD. -/
def lossy (bs : Bytes) : String :=
  String.ofList ((units bs).map (·.getD replacement))

/-- The text of a well-formed octet string. -/
def decode? (bs : Bytes) : Option String :=
  let us := units bs
  if us.all Option.isSome then some (String.ofList (us.filterMap id)) else none

end AlloyGrade.Utf8
