import AlloyGrade.Utility.Input
import AlloyGrade.Utility.Tree

/-! The utilities that copy and cut files by sizes. -/

namespace AlloyGrade.Utility

open Process Tool

/-! ### Copies in blocks -/

/-- The value of an operand such as `bs=4`. -/
def operand? (names : List Octets) (key : String) : Option Octets :=
  ((names.filter fun n => (key ++ "=").toList.isPrefixOf n).getLast?).map (·.drop (key.length + 1))

def ddKeys : List String :=
  ["if", "of", "bs", "ibs", "obs", "cbs", "count", "skip", "seek", "status", "conv", "iflag", "oflag"]

/-- Reads blocks: whole ones and parts are counted. -/
def readBlocks (fd size : Nat) : Nat → Option Nat → List Octets → Nat × Nat → Tool (Except Errno (Octets × Nat × Nat))
  | 0, _, acc, n => return .ok (acc.reverse.flatten, n)
  | fuel + 1, count, acc, (whole, part) => do
    if count = some 0 then return .ok (acc.reverse.flatten, whole, part)
    match ← ask (.read fd size) with
    | .error e => return .error e
    | .ok [] => return .ok (acc.reverse.flatten, whole, part)
    | .ok piece =>
      let n := if piece.length = size then (whole + 1, part) else (whole, part + 1)
      readBlocks fd size fuel (count.map (· - 1)) (piece :: acc) n

def dd : Body := fun args => do
  let (_, names) ← (Options.of "" "" []).find args
  for name in names do
    let key := String.ofList (name.takeWhile (· ≠ '='))
    unless name.contains '=' && ddKeys.contains key do misuse 1 ("unrecognized operand ".toList ++ textQuoted name)
  let number (key : String) (otherwise : Nat) : Tool Nat := match operand? names key with
    | none => pure otherwise
    | some text => match count? text with
      | some n => pure n
      | none => fail 1 ("invalid number: ".toList ++ textQuoted text)
  let both ← number "bs" 512
  let input ← if (operand? names "bs").isSome then pure both else number "ibs" 512
  let output ← if (operand? names "bs").isSome then pure both else number "obs" 512
  let skip ← number "skip" 0
  let seek ← number "seek" 0
  let count ← match operand? names "count" with
    | none => pure none
    | some _ => do pure (some (← number "count" 0))
  let conversions := Octets.splitOn ',' ((operand? names "conv").getD [])
  let fd ← match operand? names "if" with
    | none => pure 0
    | some name => match ← open_ name .reading with
      | .ok fd => pure fd
      | .error e => fail 1 ("failed to open ".toList ++ because (nameQuoted name) e)
  let keeps := conversions.contains "notrunc".toList || 0 < seek
  let target ← match operand? names "of" with
    | none => pure 1
    | some name => match ← open_ name ⟨false, true, false, true, false, !keeps⟩ with
      | .ok fd => pure fd
      | .error e => fail 1 ("failed to open ".toList ++ because (nameQuoted name) e)
  if 0 < skip then
    match ← readBlocks fd input patience (some skip) [] (0, 0) with
    | .ok _ => pure ()
    | .error e => fail 1 ("error reading ".toList ++ because (nameQuoted ((operand? names "if").getD "standard input".toList)) e)
  match ← readBlocks fd input patience count [] (0, 0) with
  | .error e => fail 1 ("error reading ".toList ++ because (nameQuoted ((operand? names "if").getD "standard input".toList)) e)
  | .ok (text, whole, part) =>
    let text := if conversions.contains "ucase".toList then text.map Char.toUpper
      else if conversions.contains "lcase".toList then text.map Char.toLower
      else text
    if 0 < seek then
      let _ ← ask (.seek target (seek * output : Nat) .start)
    if target = 1 then
      put text
      flush
    else writeTo target text
    unless (operand? names "status") == some "none".toList do
      let records (n part : Nat) (which : String) : Octets :=
        Octets.ofNat n ++ ['+'] ++ Octets.ofNat part ++ (" records " ++ which ++ "\n").toList
      let outWhole := if (operand? names "bs").isSome then whole else text.length / output
      let outPart := if (operand? names "bs").isSome then part else if text.length % output = 0 then 0 else 1
      complain (records whole part "in" ++ records outWhole outPart "out")
      unless (operand? names "status") == some "noxfer".toList do
        complain (Octets.ofNat text.length ++ (if text.length = 1 then " byte" else " bytes").toList ++ " copied\n".toList)

/-! ### Sizes -/

def truncate : Body := fun args => do
  let (opts, names) ← (Options.of "co" "sr" [("no-create", 'c'), ("size", 's'), ("reference", 'r')]).find args
  match Options.last? opts 's' with
  | none => misuse 1 "you must specify either '--size' or '--reference'".toList
  | some text =>
    let sign := text.head?.filter (['+', '-', '<', '>', '/', '%'].contains ·)
    match count? (if sign.isSome then text.drop 1 else text) with
    | none => fail 1 ("Invalid number: ".toList ++ textQuoted text)
    | some n =>
      if names.isEmpty then misuse 1 "missing file operand".toList
      for name in names do
        let isThere := (← lookUp true name).isOk
        unless Options.has opts 'c' && !isThere do
          match ← open_ name ⟨false, true, false, !Options.has opts 'c', false, false⟩ with
          | .error e => wrong ("cannot open ".toList ++ nameQuoted name ++ " for writing: ".toList ++ (Errno.text e).toList)
          | .ok fd =>
            close fd
            let now := (← view).now
            let _ ← edit fun cwd fs => fs.alter cwd (Octets.toPath name) now fun old =>
              let size := match sign with
                | some '+' => old.length + n
                | some '-' => old.length - n
                | some '<' => min old.length n
                | some '>' => max old.length n
                | some '/' => if n = 0 then old.length else old.length / n * n
                | some '%' => if n = 0 then old.length else (old.length + n - 1) / n * n
                | _ => n
              old.take size ++ List.replicate (size - old.length) 0

/-! ### Installed files -/

def installOptions : Options :=
  .of "bcCdDpsvT" "gmotS" [("directory", 'd'), ("mode", 'm'), ("verbose", 'v'), ("target-directory", 't'), ("no-target-directory", 'T'),
    ("owner", 'o'), ("group", 'g')]

def install : Body := fun args => do
  let (opts, names) ← installOptions.find args
  let mode ← match Options.last? opts 'm' with
    | none => pure 0o755
    | some text => match Permissions.octal? text, Permissions.symbolic? text with
      | some n, _ => pure n
      | none, some changes => pure (Permissions.applyAll 0 false 0 changes)
      | none, none => fail 1 ("invalid mode ".toList ++ textQuoted text)
  if Options.has opts 'd' then
    if names.isEmpty then misuse 1 "missing file operand".toList
    for name in names do makeParts false (pathsAbove name)
  else
    for (source, target) in ← targets opts names true do
      if Options.has opts 'D' then
        makeParts false ((pathsAbove target).dropLast)
      match ← lookUp true source with
      | .error e => wrong ("cannot stat ".toList ++ because (nameQuoted source) e)
      | .ok (_, .file f) =>
        let _ ← edit fun cwd fs => fs.unlink cwd (Octets.toPath target)
        let v ← view
        let modified := if Options.has opts 'p' then f.modified else v.now
        let r ← edit fun cwd fs => fs.create cwd (Octets.toPath target) (.file ⟨f.content, mode, 0, modified, none⟩)
        match r with
        | .ok () => if Options.has opts 'v' then putLine (arrow source target)
        | .error e => wrong ("cannot create regular file ".toList ++ because (nameQuoted target) e)
      | .ok _ => wrong ("omitting directory ".toList ++ nameQuoted source)

end AlloyGrade.Utility
