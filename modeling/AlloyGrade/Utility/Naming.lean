import AlloyGrade.Utility.Running
import AlloyGrade.Utility.Tree

/-! The utilities that tell names: parts of paths, places, users and the system. -/

namespace AlloyGrade.Utility

open Process Tool

/-! ### Parts of paths -/

def withoutSuffix (name suffix : Octets) : Octets :=
  if suffix.length < name.length && Octets.endsWith name suffix then name.take (name.length - suffix.length) else name

def basename : Body := fun args => do
  let (opts, names) ← { Options.of "az" "s" [("multiple", 'a'), ("suffix", 's'), ("zero", 'z')] with inOrder := true }.find args
  let stop := if Options.has opts 'z' then '\x00' else '\n'
  let show_ (name suffix : Octets) : Tool Unit := put (withoutSuffix (lastPart name) suffix ++ [stop])
  if names.isEmpty then misuse 1 "missing operand".toList
  if Options.has opts 'a' || Options.has opts 's' then
    for name in names do show_ name ((Options.last? opts 's').getD [])
  else match names with
    | [name] => show_ name []
    | [name, suffix] => show_ name suffix
    | _ => misuse 1 ("extra operand ".toList ++ textQuoted ((names.drop 2).headD []))

/-- The path without its last part. -/
def parentPart (name : Octets) : Octets :=
  let kept := withoutSlashes name
  let above := kept.take (kept.length - (lastPart kept).length)
  if kept == ['/'] then kept
  else if above.isEmpty then ['.']
  else withoutSlashes above

def dirname : Body := fun args => do
  let (opts, names) ← (Options.of "z" "" [("zero", 'z')]).find args
  if names.isEmpty then misuse 1 "missing operand".toList
  for name in names do put (parentPart name ++ [if Options.has opts 'z' then '\x00' else '\n'])

/-! ### Places -/

def pwd : Body := fun args => do
  let (opts, names) ← (Options.of "LP" "" [("logical", 'L'), ("physical", 'P')]).find args
  unless names.isEmpty do warn "ignoring non-option arguments".toList
  let v ← view
  let here := Octets.ofPath v.cwd.path
  let logical := (valueIn? (← get).environment "PWD".toList).getD []
  let isFaithful := logical.head? == some '/' && !(Octets.splitOn '/' logical).any (fun p => p == ['.'] || p == ['.', '.']) &&
    (match v.fs.stat [] (Octets.toPath logical) with
      | .ok (loc, _) => loc == v.cwd
      | .error _ => false)
  putLine (if (opts.getLast?.map (·.1)) == some 'L' && isFaithful then logical else here)

/-- How much of a path has to be there for it to be resolved. -/
inductive Presence where
  | all
  | parent
  | nothing
deriving DecidableEq

/-- The location that a path stands for, piece by piece; what is missing is taken by its name. -/
def resolveLoosely (fs : FileSystem) (cwd : Location) (name : Octets) : Location :=
  let path := Octets.toPath name
  let start := if name.head? == some '/' then [] else cwd
  path.pieces.foldl (fun here piece =>
    if piece == Bytes.ofString "." || piece.isEmpty then here
    else if piece == Bytes.ofString ".." then here.dropLast
    else match fs.resolve here true ⟨piece⟩ with
      | .ok (.present loc _) => loc
      | .ok (.absent dir last) => dir ++ [last]
      | .error _ => here ++ [piece]) start

def canonical (presence : Presence) (name : Octets) : Tool (Except Errno Location) := do
  let v ← view
  match presence with
  | .nothing => return .ok (resolveLoosely v.fs v.cwd name)
  | .all =>
    match v.fs.stat v.cwd (Octets.toPath name) with
    | .ok (loc, _) => return .ok loc
    | .error e => return .error (.ofError e)
  | .parent =>
    match v.fs.resolve v.cwd true (Octets.toPath (withoutSlashes name)) with
    | .ok (.present loc _) => return .ok loc
    | .ok (.absent dir last) => return .ok (dir ++ [last])
    | .error e => return .error (.ofError e)

def readlink : Body := fun args => do
  let (opts, names) ← (Options.of "femnqsvz" "" [("canonicalize", 'f'), ("canonicalize-existing", 'e'),
    ("canonicalize-missing", 'm'), ("no-newline", 'n'), ("quiet", 'q'), ("silent", 's'), ("verbose", 'v'), ("zero", 'z')]).find args
  if names.isEmpty then misuse 1 "missing operand".toList
  let stop : Octets := if Options.has opts 'n' && names.length = 1 then [] else if Options.has opts 'z' then ['\x00'] else ['\n']
  let presence := (opts.filterMap fun (c, _) => match c with
    | 'f' => some Presence.parent
    | 'e' => some Presence.all
    | 'm' => some Presence.nothing
    | _ => none).getLast?
  for name in names do
    let found : Except Errno Octets ← match presence with
      | some presence => do pure ((← canonical presence name).map fun loc => Octets.ofPath loc.path)
      | none => do
        match ← lookUp false name with
        | .ok (_, .link target) => pure (.ok (Octets.ofPath target))
        | .ok _ => pure (.error Errno.invalid)
        | .error e => pure (.error e)
    match found with
    | .ok text => put (text ++ stop)
    | .error e =>
      if Options.has opts 'v' then warn (because (nameShown name) e)
      modify ({ · with failed := true })

def realpath : Body := fun args => do
  let (opts, names) ← (Options.of "emLPqsz" "RB" [("canonicalize-existing", 'e'), ("canonicalize-missing", 'm'), ("quiet", 'q'),
    ("strip", 's'), ("no-symlinks", 's'), ("zero", 'z'), ("relative-to", 'R'), ("relative-base", 'B')]).find args
  if names.isEmpty then misuse 1 "missing operand".toList
  let presence := if Options.has opts 'm' then Presence.nothing else if Options.has opts 'e' then .all else .parent
  let v ← view
  let base ← match Options.last? opts 'R' with
    | none => pure none
    | some dir => do
      match ← canonical presence dir with
      | .ok loc => pure (some loc)
      | .error e => fail 1 (because (nameShown dir) e)
  for name in names do
    let found ← if Options.has opts 's' then
        pure (.ok ((Octets.toPath name).pieces.foldl (fun (here : Location) piece =>
          if piece == Bytes.ofString "." || piece.isEmpty then here
          else if piece == Bytes.ofString ".." then here.dropLast
          else here ++ [piece]) (if name.head? == some '/' then [] else v.cwd)))
      else canonical presence name
    match found with
    | .ok loc =>
      let shown := match base with
        | some dir => relativePath dir loc
        | none => Octets.ofPath loc.path
      put (shown ++ [if Options.has opts 'z' then '\x00' else '\n'])
    | .error e =>
      if !Options.has opts 'q' then warn (because (nameShown name) e)
      modify ({ · with failed := true })

def which : Body := fun args => do
  let (opts, names) ← (Options.of "as" "" []).find args
  let v ← view
  let dirs := Octets.splitOn ':' ((valueIn? (← get).environment "PATH".toList).getD [])
  if names.isEmpty then exit 1
  for name in names do
    let paths := if name.contains '/' then [name] else dirs.map fun d => (if d.isEmpty then ['.'] else d) ++ '/' :: name
    let found := paths.filter fun p =>
      match v.fs.stat v.cwd (Octets.toPath p) with
      | .ok (_, .file f) => f.isExecutable
      | _ => false
    if found.isEmpty then modify ({ · with failed := true })
    for p in if Options.has opts 'a' then found else found.take 1 do putLine p

/-! ### New names -/

/-- A name from a template, different for every process and try. -/
def filled (template : Octets) (seed : Nat) : Octets :=
  let xs := (template.reverse.takeWhile (· == 'X')).length
  let letters := (List.range xs).map fun i => Char.ofNat ('a'.toNat + (seed * (2 * i + 3) + seed / Nat.pow 26 i + 7 * i) % 26)
  template.take (template.length - xs) ++ letters

def mktempFrom (isDir dry quiet : Bool) (template : Octets) : Nat → Nat → Tool Unit
  | 0, _ => exit 1
  | fuel + 1, seed => do
    let name := filled template seed
    match ← lookUp false name with
    | .ok _ => mktempFrom isDir dry quiet template fuel (seed + 1)
    | .error _ =>
      let now := (← view).now
      let r ← if dry then pure (.ok ())
        else edit fun cwd fs => fs.create cwd (Octets.toPath name) (if isDir then .dir else .file ⟨[], 0o600, 0, now, none⟩)
      match r with
      | .ok () => putLine name
      | .error e =>
        unless quiet do
          warn ("failed to create ".toList ++ (if isDir then "directory" else "file").toList ++ " via template ".toList ++
            because (nameQuoted template) e)
        exit 1

def mktemp : Body := fun args => do
  let (opts, names) ← (Options.of "dqtu" "p" [("directory", 'd'), ("quiet", 'q'), ("dry-run", 'u'), ("tmpdir", 'p')]).find args
  let root := (valueIn? (← get).environment "TMPDIR".toList).getD "/tmp".toList
  let template ← match names with
    | [] => pure (within ((Options.last? opts 'p').getD root) "tmp.XXXXXXXXXX".toList)
    | [name] => pure (match Options.last? opts 'p' with
      | some dir => within (if dir.isEmpty then root else dir) name
      | none => if Options.has opts 't' then within root name else name)
    | _ => misuse 1 "too many templates".toList
  if (template.reverse.takeWhile (· == 'X')).length < 3 then
    fail 1 ("too few X's in template ".toList ++ textQuoted template)
  let v ← view
  mktempFrom (Options.has opts 'd') (Options.has opts 'u') (Options.has opts 'q') template 100 (v.pid * 31 + v.clock)

/-! ### Users and systems -/

def noOperand (names : List Octets) : Tool Unit := do
  match names with
  | [] => pure ()
  | extra :: _ => misuse 1 ("extra operand ".toList ++ textQuoted extra)

def id_ : Body := fun args => do
  let (opts, names) ← (Options.of "agGnruz" "" [("user", 'u'), ("group", 'g'), ("groups", 'G'), ("name", 'n'), ("real", 'r')]).find args
  for name in names do
    unless name == "root".toList || name == ['0'] do fail 1 (textQuoted name ++ ": no such user".toList)
  if ['u', 'g', 'G'].any (Options.has opts ·) then putLine (if Options.has opts 'n' then "root".toList else ['0'])
  else putString "uid=0(root) gid=0(root) groups=0(root)\n"

def whoami : Body := fun args => do
  let (_, names) ← (Options.of "" "" []).find args
  noOperand names
  putString "root\n"

def groups : Body := fun args => do
  let (_, names) ← (Options.of "" "" []).find args
  if names.isEmpty then putString "root\n"
  for name in names do
    if name == "root".toList then putString "root : root\n"
    else wrong (textQuoted name ++ ": no such user".toList)

def uname : Body := fun args => do
  let (opts, names) ← (Options.of "asnrvmpio" "" [("all", 'a'), ("kernel-name", 's'), ("machine", 'm'), ("nodename", 'n'),
    ("operating-system", 'o'), ("kernel-release", 'r')]).find args
  noOperand names
  let has (c : Char) : Bool := Options.has opts c || Options.has opts 'a'
  let parts : List String := (if has 's' || opts.isEmpty then ["Linux"] else []) ++ (if has 'n' then ["localhost"] else []) ++
    (if has 'r' then ["6.1.0"] else []) ++ (if has 'v' then ["#1"] else []) ++ (if has 'm' then ["x86_64"] else []) ++
    (if Options.has opts 'p' || Options.has opts 'i' then ["unknown"] else []) ++ (if has 'o' then ["GNU/Linux"] else [])
  putLine ([' '].intercalate (parts.map String.toList))

def arch : Body := fun _ => putString "x86_64\n"

def tty : Body := fun args => do
  let (opts, _) ← { Options.of "s" "" [("silent", 's'), ("quiet", 's')] with misuse := 2 }.find args
  unless Options.has opts 's' do putString "not a tty\n"
  exit 1

def nproc : Body := fun args => do
  let (_, names) ← (Options.of "" "" [("all", 'a'), ("ignore", 'i')]).find args
  noOperand names
  putString "1\n"

def hostname : Body := fun _ => putString "localhost\n"

def sync : Body := fun _ => exit 0

end AlloyGrade.Utility
