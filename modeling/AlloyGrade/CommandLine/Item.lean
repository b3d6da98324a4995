import AlloyGrade.CommandLine.UsageError
import AlloyGrade.Text.Utf8

/-! An argument vector as a list of items. Splitting stops at the first argument that cannot be placed. -/

namespace AlloyGrade.CommandLine

inductive Item where
  /-- An option and its value, which stands after an equals sign or is the next argument. -/
  | option (o : ValueOption) (value : Option Bytes) (attached : Bool)
  | flag (f : Flag)
  | file (r : FileRole) (bytes : Bytes)
  | inquiry (i : Inquiry)
deriving DecidableEq, Repr

/-- An item that more arguments could have completed; it is looked at once the next item is there. -/
def Item.isOpen : Item → Bool
  | .option _ _ attached => !attached
  | .file .. => true
  | _ => false

/-- Items, and the fault that ended the splitting. -/
structure Split where
  items : List Item
  fault : Option UsageError
deriving DecidableEq, Repr

namespace Split

def done : Split := ⟨[], none⟩

def stop (e : UsageError) : Split := ⟨[], some e⟩

def cons (item : Item) (s : Split) : Split := { s with items := item :: s.items }

/-- The items that are looked at: an item that a fault leaves open is not. -/
def examined (s : Split) : List Item :=
  match s.fault with
  | none => s.items
  | some _ => if (s.items.getLast?.map Item.isOpen).getD false then s.items.dropLast else s.items

end Split

def dash : UInt8 := 0x2d

def equalsSign : UInt8 := 0x3d

/-- An argument that is a value wherever one is due: a lone dash is, anything longer with a dash is not. -/
def isValue (arg : Bytes) : Bool := arg.head? != some dash || arg == [dash]

/-- The name and the attached value of an argument with two dashes. -/
def splitName (body : Bytes) : Bytes × Option Bytes :=
  let name := body.takeWhile (· != equalsSign)
  (name, if name.length < body.length then some (body.drop (name.length + 1)) else none)

/-- The next free place for a file. -/
def placeFile (place : Option FileRole) (arg : Bytes) (rest : Option FileRole → Split) : Split :=
  match place with
  | some .original => .cons (.file .original arg) (rest (some .generated))
  | some .generated => .cons (.file .generated arg) (rest none)
  | none => .stop (.unexpectedArgument (Utf8.lossy arg))

/-- After two dashes alone, every argument is a file. -/
def splitFiles : Option FileRole → List Bytes → Split
  | _, [] => .done
  | place, arg :: args => placeFile place arg fun place => splitFiles place args

/-- The letters of an argument with one dash, in front of what follows it. -/
def splitLetters (rest : Split) : Bytes → Split
  | [] => rest
  | b :: more =>
    if b = Bytes.ofAscii 'v' then .cons (.flag .verbose) (splitLetters rest more)
    else if b = Bytes.ofAscii 'h' then .cons (.inquiry (.help false)) (splitLetters rest more)
    else if b = Bytes.ofAscii 'V' then .cons (.inquiry .version) (splitLetters rest more)
    else match (Utf8.units (b :: more)).head? with
      | some (some c) => .stop (.unexpectedArgument ("-" ++ String.singleton c))
      | _ => .stop (.unexpectedArgument ("-" ++ Utf8.lossy (b :: more)))

/-- Splits the arguments; `place` is the next free place for a file. -/
def split : Option FileRole → List Bytes → Split
  | _, [] => .done
  | place, arg :: args =>
    if arg = [dash, dash] then splitFiles place args
    else if [dash, dash].isPrefixOf arg then
      let (name, value) := splitName (arg.drop 2)
      match Argument.ofName? name, value with
      | some (.option o), some v => .cons (.option o (some v) true) (split place args)
      | some (.option o), none =>
        match args with
        | [] => .cons (.option o none false) .done
        | v :: rest =>
          if isValue v then .cons (.option o (some v) false) (split place rest)
          else .cons (.option o none false) (split place (v :: rest))
      | some (.flag f), none => .cons (.flag f) (split place args)
      | some .help, none => .cons (.inquiry (.help true)) (split place args)
      | some .version, none => .cons (.inquiry .version) (split place args)
      | some argument, some v => .stop (.unexpectedValue (Utf8.lossy v) argument)
      | _, _ => .stop (.unexpectedArgument ("--" ++ Utf8.lossy name))
    else if isValue arg then placeFile place arg fun place => split place args
    else splitLetters (split place args) (arg.drop 1)

end AlloyGrade.CommandLine
