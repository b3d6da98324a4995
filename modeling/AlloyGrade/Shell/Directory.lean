import AlloyGrade.Files.Permissions
import AlloyGrade.Shell.Jobs
import AlloyGrade.Shell.Variables

/-! The builtins about the directory of the shell and the mask for new files, and `read`. -/

namespace AlloyGrade.Shell

open Process

/-- A path with its dots resolved by name only; what precedes two dots goes away, but never the root. -/
def resolveDots (root : Octets) (names : List Octets) : Octets :=
  let kept := names.foldl (fun (kept : List Octets) n =>
    if n.isEmpty || n == ['.'] then kept
    else if n == ['.', '.'] then kept.drop 1
    else n :: kept) []
  root ++ ['/'].intercalate kept.reverse

/-- Where a change of directory leads, by name. -/
def logicalTarget (current dest : Octets) : Octets :=
  match dest with
  | '/' :: '/' :: c :: rest =>
    if c = '/' then resolveDots ['/'] (Octets.splitOn '/' dest) else resolveDots ['/', '/'] (Octets.splitOn '/' (c :: rest))
  | ['/', '/'] => ['/', '/']
  | '/' :: _ => resolveDots ['/'] (Octets.splitOn '/' dest)
  | _ =>
    let root := if "//".toList.isPrefixOf current then ['/', '/'] else ['/']
    resolveDots root (Octets.splitOn '/' current ++ Octets.splitOn '/' dest)

/-- The directory of the process as the system knows it. -/
def physicalDirectory : Sh Octets := do return Octets.ofPath (← Sh.view).cwd.path

/-- Notes the directory that has been reached. -/
def noteDirectory (logical : Option Octets) (setOld : Bool) : Sh Unit := do
  let old := (← get).logical
  if setOld then Sh.setVariable "OLDPWD".toList (some old) true false
  let physical : Option Octets ← match logical with
    | some _ => pure none
    | none => do pure (some (← physicalDirectory))
  let now := (logical.orElse fun _ => physical).getD []
  modify ({ · with logical := now, physical })
  Sh.setVariable "PWD".toList (some now) true false

/-- Changes the directory. -/
def changeDirectory (dest : Octets) (physically : Bool) : Sh Bool := do
  let s ← get
  let target := if physically then none else some (logicalTarget s.logical dest)
  match ← Sh.ask (.chdir (Octets.toPath (target.getD dest))) with
  | .ok () =>
    noteDirectory target true
    return true
  | .error _ => return false

/-- Whether a name starts with a directory of its own: a slash, or one or two dots. -/
def isAnchored (dest : Octets) : Bool :=
  match Octets.splitOn '/' dest with
  | [] :: _ :: _ => true
  | ['.'] :: _ | ['.', '.'] :: _ => true
  | _ => false

namespace Builtin

/-- Whether the options ask for the real directory. -/
def wantsPhysical (args : List Octets) : Sh (Bool × List Octets) := do
  let (opts, args) ← options "LP" "" args
  return ((opts.getLast?.map (·.1)) = some 'P', args)

def cd (args : List Octets) : Sh Nat := do
  let (physically, args) ← wantsPhysical args
  let (dest, shows) ← match args with
    | [] => do pure (((← Sh.value? "HOME".toList).getD []), false)
    | ['-'] :: _ => do pure (((← Sh.value? "OLDPWD".toList).getD []), true)
    | d :: _ => pure (d, false)
  let v ← Sh.view
  let searched : Option (Octets × Bool) ← if isAnchored dest then pure none else do
    let name := if dest.isEmpty then ['.'] else dest
    let dirs := Octets.splitOn ':' ((← Sh.value? "CDPATH".toList).getD [])
    let found := dirs.findSome? fun d =>
      let full := if d.isEmpty then name else d ++ '/' :: name
      if v.fs.isDir v.cwd (Octets.toPath full) then some (full, !d.isEmpty) else none
    pure found
  let (target, shows) := match searched with
    | some (full, prints) => (full, shows || prints)
    | none => (if dest.isEmpty then ['.'] else dest, shows)
  if ← changeDirectory target physically then
    if shows then Sh.put ((← get).logical ++ ['\n'])
    return 0
  else Sh.fail ("can't cd to ".toList ++ if dest.isEmpty then ['.'] else dest)

def pwd (args : List Octets) : Sh Nat := do
  let (physically, _) ← wantsPhysical args
  let s ← get
  if physically then
    if s.physical.isNone then
      let physical ← physicalDirectory
      modify ({ · with physical := some physical })
      Sh.setVariable "PWD".toList (some s.logical) true false
    Sh.put ((← get).physical.getD [] ++ ['\n'])
  else Sh.put (s.logical ++ ['\n'])
  return 0

/-- A number in octal digits. -/
def octalText (n : Nat) : Octets := Nat.toDigits 8 n

def umask (args : List Octets) : Sh Nat := do
  let (opts, args) ← options "S" "" args
  let mask := (← Sh.view).umask
  match args with
  | [] =>
    if opts.isEmpty then
      let ds := octalText mask
      Sh.put (List.replicate (4 - ds.length) '0' ++ ds ++ ['\n'])
    else
      let allowed := 0o777 ^^^ mask
      Sh.put ("u=".toList ++ Permissions.triple (allowed / 64) ++ ",g=".toList ++ Permissions.triple (allowed / 8) ++
        ",o=".toList ++ Permissions.triple allowed ++ ['\n'])
  | a :: _ =>
    if a.head?.any Char.isDigit then
      if a.all fun c => '0' ≤ c && c ≤ '7' then
        Sh.ask (.setUmask (a.foldl (fun n c => 8 * n + (c.toNat - '0'.toNat)) 0 &&& 0o777))
      else Sh.fail ("Illegal number: ".toList ++ a)
    else match Permissions.symbolic? a with
      | some changes =>
        let allowed := Permissions.applyAll 0 false (0o777 ^^^ mask) changes
        Sh.ask (.setUmask ((0o777 ^^^ (allowed &&& 0o777))))
      | none => Sh.fail ("Illegal mode: ".toList ++ a)
  return 0

/-! ### Reading a line -/

/-- What has been read of a line. -/
structure Reading where
  line : Line
  /-- Where the current region starts. -/
  start : Nat
  /-- The last character was a backslash. -/
  escaped : Bool

/-- Reads up to the end of the line; says whether the input ended first. -/
def readLine (raw : Bool) : Nat → Reading → Sh (Reading × Bool)
  | 0, r => return (r, true)
  | fuel + 1, r => do
    match ← Sh.ask (.read 0 1) with
    | .error e =>
      if e = Errno.interrupted then
        Sh.poll
        if (← get).pending.isEmpty then readLine raw fuel r else return (r, true)
      else return (r, true)
    | .ok [] => return (r, true)
    | .ok (c :: _) =>
      if c = joint then readLine raw fuel r
      else if r.escaped then
        let line := r.line.mark r.start false
        let line := if c = '\n' then line else line.push (.quoted c)
        readLine raw fuel ⟨line, line.size, false⟩
      else if !raw && c = '\\' then readLine raw fuel { r with escaped := true }
      else if c = '\n' then return (r, false)
      else readLine raw fuel { r with line := r.line.push (.plain c) }

def assignFields : List Octets → List (List Glyph) → Sh Unit
  | [], _ => return ()
  | name :: names, fields => do
    checkName name
    Sh.assign name (Glyph.text (fields.headD []))
    assignFields names (fields.drop 1)

def readFields (args : List Octets) : Sh Nat := do
  let (opts, names) ← options "r" "p" args
  if names.isEmpty then Sh.failString "arg count"
  let (r, ended) ← readLine (opts.any (·.1 == 'r')) Sh.patience ⟨.empty, 0, false⟩
  let line := r.line.mark r.start false
  assignFields names (line.split (← get).separators (some names.length))
  return if ended then 1 else 0

end Builtin

end AlloyGrade.Shell
