import AlloyGrade.Shell.Arithmetic
import AlloyGrade.Shell.State
import AlloyGrade.Text.Conversion

/-! The builtins that write: `echo` and `printf`. -/

namespace AlloyGrade.Shell

/-! ### Escapes -/

def isOctal (c : Char) : Bool := '0' ≤ c && c ≤ '7'

def octalValue (cs : Octets) : Nat := cs.foldl (fun n c => 8 * n + (c.toNat - '0'.toNat)) 0

/-- What stands behind a backslash: the character meant, and what follows. -/
def escape (cs : Octets) : Char × Octets :=
  match cs with
  | c :: rest =>
    if isOctal c then
      let ds := (cs.take 3).takeWhile isOctal
      (Octets.octet (octalValue ds), cs.drop ds.length)
    else match c with
      | '\\' => ('\\', rest)
      | 'a' => ('\x07', rest)
      | 'b' => ('\x08', rest)
      | 'f' => ('\x0c', rest)
      | 'n' => ('\n', rest)
      | 'r' => ('\r', rest)
      | 't' => ('\t', rest)
      | 'v' => ('\x0b', rest)
      | _ => ('\\', cs)
  | [] => ('\\', [])

/-- A text with its escapes replaced, and whether it asked for silence afterwards. An octal number has a zero in
front. -/
def unescapeFrom : Nat → Octets → Octets → Octets × Bool
  | 0, _, acc => (acc.reverse, false)
  | _, [], acc => (acc.reverse, false)
  | fuel + 1, c :: rest, acc =>
    if c ≠ '\\' then unescapeFrom fuel rest (c :: acc)
    else match rest with
      | 'c' :: _ => (acc.reverse, true)
      | '0' :: d :: more =>
        let (meant, after) := escape (if isOctal d then d :: more else rest)
        unescapeFrom fuel after (meant :: acc)
      | _ =>
        let (meant, after) := escape rest
        unescapeFrom fuel after (meant :: acc)

def unescape (cs : Octets) : Octets × Bool := unescapeFrom (cs.length + 1) cs []

namespace Builtin

/-- The arguments with their escapes replaced, up to one that asks for silence. -/
def echoTexts : List Octets → List Octets × Bool
  | [] => ([], false)
  | a :: rest =>
    let (text, silent) := unescape a
    if silent then ([text], true)
    else
      let (texts, silent) := echoTexts rest
      (text :: texts, silent)

def echo (args : List Octets) : Sh Nat := do
  let (noNewline, args) := match args with
    | ['-', 'n'] :: rest => (true, rest)
    | _ => (false, args)
  let (texts, silent) := echoTexts args
  Sh.put ([' '].intercalate texts)
  unless noNewline || silent do Sh.put ['\n']
  return 0

/-! ### Formats -/

structure Printing where
  args : List Octets
  failed : Bool

abbrev Print := StateT Printing Sh

namespace Print

def nextArg : Print (Option Octets) := modifyGet fun s =>
  match s.args with
  | a :: rest => (some a, { s with args := rest })
  | [] => (none, s)

/-- Complains about an argument that is not quite a number. -/
def checked (text rest : Octets) (outOfRange : Bool) : Print Unit := do
  let message? : Option String :=
    if !rest.isEmpty then
      some (if rest.length = text.length then ": expected numeric value" else ": not completely converted")
    else if outOfRange then some ": Numerical result out of range"
    else none
  match message? with
  | some message =>
    Sh.warn (text ++ message.toList)
    modify ({ · with failed := true })
  | none => return ()

/-- A number from an argument: of the character behind a quote, or as it is written. -/
def integer (signed : Bool) : Print Int := do
  match ← nextArg with
  | none => return 0
  | some text =>
    match text with
    | '"' :: c | '\'' :: c => return ((c.head?.map Char.toNat).getD 0 : Nat)
    | _ =>
      match Arithmetic.leading text with
      | none =>
        checked text text false
        return 0
      | some (n, cut, rest) =>
        if signed then
          checked text rest cut
          return n
        else
          let body := text.dropWhile Arithmetic.isBlank
          let negative := body.head? = some '-'
          let exact := match Arithmetic.unsigned (if negative || body.head? = some '+' then body.drop 1 else body) with
            | some (m, _) => m
            | none => 0
          let tooBig := Nat.pow 2 64 ≤ exact
          checked text rest tooBig
          return if tooBig then Int.pow 2 64 - 1 else if negative then -(exact : Int) else exact

def float : Print Dyadic.Number := do
  match ← nextArg with
  | none => return .finite false 0 0
  | some text =>
    match text with
    | '"' :: c | '\'' :: c => return .finite false ((c.head?.map Char.toNat).getD 0) 0
    | _ =>
      match Dyadic.leading Dyadic.double text with
      | some (x, outOfRange, rest) =>
        checked text rest outOfRange
        return x
      | none =>
        checked text text false
        return .finite false 0 0

/-- The flags, the width and the precision in front of a conversion letter, and what follows them. -/
def conversion (cs : Octets) : Print (Conversion × Octets) := do
  let flags := cs.takeWhile (['#', '-', '+', ' ', '0'].contains ·)
  let d := flags.foldl Conversion.withFlag .plain
  let rest := cs.drop flags.length
  let (d, rest) ← match rest with
    | '*' :: rest => do
      let n ← integer true
      pure (d.withWidth (Int.bmod n (Nat.pow 2 32)), rest)
    | _ =>
      let ds := rest.takeWhile Char.isDigit
      pure (d.withWidth (Octets.decimal ds), rest.drop ds.length)
  match rest with
  | '.' :: '*' :: rest =>
    let n ← integer true
    return (d.withPrecision (Int.bmod n (Nat.pow 2 32)), rest)
  | '.' :: rest =>
    let ds := rest.takeWhile Char.isDigit
    return (d.withPrecision (Octets.decimal ds), rest.drop ds.length)
  | _ => return (d, rest)

/-- Writes a format once; says whether an argument asked for silence. -/
def once : Nat → Octets → Print Bool
  | 0, _ => return false
  | _, [] => return false
  | fuel + 1, c :: rest => do
    match c, rest with
    | '\\', _ =>
      let (meant, after) := escape rest
      Sh.put [meant]
      once fuel after
    | '%', '%' :: rest =>
      Sh.put ['%']
      once fuel rest
    | '%', _ =>
      let (d, after) ← conversion rest
      match after with
      | [] => Sh.failString "missing format character"
      | letter :: after =>
        match letter with
        | 'b' =>
          let (text, silent) := unescape ((← nextArg).getD [])
          Sh.put (d.text text)
          if silent then return true
        | 'c' => Sh.put (d.pad [(((← nextArg).getD []).head?).getD '\x00'])
        | 's' => Sh.put (d.text ((← nextArg).getD []))
        | 'd' | 'i' => Sh.put (d.signed (← integer true))
        | 'o' | 'u' | 'x' | 'X' => Sh.put (d.unsigned letter ((← integer false) % Int.pow 2 64).toNat)
        | 'a' | 'A' | 'e' | 'E' | 'f' | 'F' | 'g' | 'G' => Sh.put (d.float Dyadic.double letter (← float))
        | _ => Sh.fail ((c :: rest).take (rest.length + 1 - after.length) ++ ": invalid directive".toList)
        once fuel after
    | _, _ =>
      Sh.put [c]
      once fuel rest

/-- Writes a format again and again until the arguments are used up. -/
def all (format : Octets) : Nat → Print Unit
  | 0 => return ()
  | fuel + 1 => do
    let before := (← get).args.length
    if ← once (format.length + 1) format then return ()
    let left := (← get).args.length
    if left ≠ before && left ≠ 0 then all format fuel

end Print

/-- Writes the first argument as a format for the others. -/
def printfWith : List Octets → Sh Nat
  | [] => Sh.failString "usage: printf format [arg ...]"
  | format :: args => do
    let (_, s) ← (Print.all format (args.length + 1)).run ⟨args, false⟩
    return if s.failed then 1 else 0

def printf (args : List Octets) : Sh Nat :=
  match args with
  | ['-', '-'] :: rest => printfWith rest
  | ('-' :: c :: _) :: _ => Sh.fail ("Illegal option -".toList ++ [c])
  | _ => printfWith args

end Builtin

end AlloyGrade.Shell
