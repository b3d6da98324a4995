import AlloyGrade.Files.Permissions
import AlloyGrade.Utility.Quoting

/-! The utilities that make, remove and rename files and directories. -/

namespace AlloyGrade.Utility

open Process Tool

/-- What a name stands for. -/
def lookUp (follow : Bool) (name : Octets) : Tool (Except Errno (Location × Entry)) := do
  let v ← view
  match v.fs.find v.cwd follow (Octets.toPath name) with
  | .ok found => return .ok found
  | .error e => return .error (Errno.ofError e)

/-- The names in a directory, in order. -/
def childrenOf (name : Octets) : Tool (List Octets) := do
  let v ← view
  match v.fs.stat v.cwd (Octets.toPath name) with
  | .ok (loc, .dir) => return ((v.fs.names loc).map Octets.ofBytes).mergeSort fun a b => !Octets.lt b a
  | _ => return []

def isDirectory (name : Octets) : Tool Bool := do
  let v ← view
  return v.fs.isDir v.cwd (Octets.toPath name)

def withoutSlashes (name : Octets) : Octets :=
  let kept := (name.reverse.dropWhile (· == '/')).reverse
  if kept.isEmpty then name.take 1 else kept

/-- The last part of a path. -/
def lastPart (name : Octets) : Octets :=
  let kept := withoutSlashes name
  if kept == ['/'] then kept else (kept.reverse.takeWhile (· ≠ '/')).reverse

/-- A name in a directory. -/
def within (dir name : Octets) : Octets := if dir.getLast? = some '/' then dir ++ name else dir ++ '/' :: name

/-! ### Directories -/

def mkdirOptions : Options :=
  .of "pvZ" "m" [("parents", 'p'), ("verbose", 'v'), ("mode", 'm')]

/-- The path and the paths above it, the shortest first. -/
def pathsAbove (name : Octets) : List Octets :=
  let cut := (List.range name.length).filter fun n =>
    0 < n && name[n]? = some '/' && name[n - 1]? ≠ some '/' && (name.drop n).any (· ≠ '/')
  cut.map name.take ++ [name]

def makeDirectory (verbose : Bool) (name : Octets) : Tool (Except Errno Unit) := do
  let r ← edit fun cwd fs => fs.makeDir cwd (Octets.toPath name)
  if verbose && r.isOk then put ("mkdir: created directory ".toList ++ textQuoted name ++ ['\n'])
  return r

/-- Makes what is missing of a path; a part that cannot be passed is an error. -/
def makeParts (verbose : Bool) : List Octets → Tool Unit
  | [] => return ()
  | part :: rest => do
    if ← isDirectory part then makeParts verbose rest
    else match ← makeDirectory verbose part with
      | .ok () => makeParts verbose rest
      | .error e =>
        let e := if e = Errno.alreadyExists && !rest.isEmpty then 20 else e
        wrong ("cannot create directory ".toList ++ because (textQuoted part) e)

def mkdir : Body := fun args => do
  let (opts, names) ← mkdirOptions.find args
  if names.isEmpty then misuse 1 "missing operand".toList
  match Options.last? opts 'm' with
  | some mode =>
    if (Permissions.octal? mode).isNone && (Permissions.symbolic? mode).isNone then
      fail 1 ("invalid mode ".toList ++ textQuoted mode)
  | none => pure ()
  let verbose := Options.has opts 'v'
  for name in names do
    if Options.has opts 'p' then
      if name.isEmpty then wrong "cannot create directory '': No such file or directory".toList
      else makeParts verbose (pathsAbove name)
    else match ← makeDirectory verbose name with
      | .ok () => pure ()
      | .error e => wrong ("cannot create directory ".toList ++ because (textQuoted name) e)

def rmdirOptions : Options :=
  .of "pv" "" [("parents", 'p'), ("verbose", 'v'), ("ignore-fail-on-non-empty", 'i')]

/-- Removes directories until one of them cannot be. -/
def removeParts (verbose lenient : Bool) : List Octets → Tool Unit
  | [] => return ()
  | part :: rest => do
    if verbose then put ("rmdir: removing directory, ".toList ++ nameQuoted part ++ ['\n'])
    match ← edit fun cwd fs => fs.removeDir cwd (Octets.toPath part) with
    | .ok () => removeParts verbose lenient rest
    | .error e => unless lenient && e = 39 do wrong ("failed to remove ".toList ++ because (nameQuoted part) e)

def rmdir : Body := fun args => do
  let (opts, names) ← rmdirOptions.find args
  if names.isEmpty then misuse 1 "missing operand".toList
  for name in names do
    let parts := if Options.has opts 'p' then (pathsAbove (withoutSlashes name)).reverse else [name]
    removeParts (Options.has opts 'v') (Options.has opts 'i') parts

/-! ### Removal -/

def rmOptions : Options :=
  .of "dfiIrRv" "" [("force", 'f'), ("recursive", 'r'), ("dir", 'd'), ("verbose", 'v'), ("no-preserve-root", 'N'),
    ("preserve-root", 'P'), ("one-file-system", 'x')]

/-- Removes what stands under a name, with all below it. -/
def removeTree (verbose : Bool) : Nat → Octets → Tool Unit
  | 0, _ => return ()
  | fuel + 1, name => do
    match ← lookUp false name with
    | .ok (_, .dir) =>
      for child in ← childrenOf name do removeTree verbose fuel (within name child)
      match ← edit fun cwd fs => fs.removeDir cwd (Octets.toPath name) with
      | .ok () => if verbose then put ("removed directory ".toList ++ nameQuoted name ++ ['\n'])
      | .error e => wrong ("cannot remove ".toList ++ because (nameQuoted name) e)
    | _ =>
      match ← edit fun cwd fs => fs.unlink cwd (Octets.toPath name) with
      | .ok () => if verbose then put ("removed ".toList ++ nameQuoted name ++ ['\n'])
      | .error e => wrong ("cannot remove ".toList ++ because (nameQuoted name) e)

def rm : Body := fun args => do
  let (opts, names) ← rmOptions.find args
  let forced := Options.has opts 'f'
  let deep := Options.has opts 'r' || Options.has opts 'R'
  let verbose := Options.has opts 'v'
  if names.isEmpty then
    if forced then finish else misuse 1 "missing operand".toList
  for name in names do
    let last := lastPart name
    if deep && (last == ['.'] || last == ['.', '.']) then
      wrong ("refusing to remove '.' or '..' directory: skipping ".toList ++ nameQuoted name)
    else if deep && !name.isEmpty && name.all (· == '/') && !Options.has opts 'N' then
      warn ("it is dangerous to operate recursively on ".toList ++ nameQuoted name)
      wrong "use --no-preserve-root to override this failsafe".toList
    else match ← lookUp false name with
      | .error e => unless forced && (e = 2 || e = 20) do wrong ("cannot remove ".toList ++ because (nameQuoted name) e)
      | .ok (_, .dir) =>
        if deep then removeTree verbose 1000 name
        else if Options.has opts 'd' then
          match ← edit fun cwd fs => fs.removeDir cwd (Octets.toPath name) with
          | .ok () => if verbose then put ("removed directory ".toList ++ nameQuoted name ++ ['\n'])
          | .error e => wrong ("cannot remove ".toList ++ because (nameQuoted name) e)
        else wrong ("cannot remove ".toList ++ because (nameQuoted name) Errno.isDirectory)
      | .ok _ => removeTree verbose 1 name

def unlink : Body := fun args => do
  let (_, names) ← (Options.of "" "" []).find args
  match names with
  | [] => misuse 1 "missing operand".toList
  | [name] =>
    match ← edit fun cwd fs => fs.unlink cwd (Octets.toPath name) with
    | .ok () => pure ()
    | .error e => fail 1 ("cannot unlink ".toList ++ because (nameQuoted name) e)
  | _ :: extra :: _ => misuse 1 ("extra operand ".toList ++ textQuoted extra)

/-! ### Targets of copies, moves and links -/

/-- Where each source goes: into a directory, or under the name of the target. -/
def targets (opts : List (Char × Octets)) (names : List Octets) (followsTarget : Bool) :
    Tool (List (Octets × Octets)) := do
  match Options.last? opts 't' with
  | some dir =>
    if names.isEmpty then misuse 1 "missing file operand".toList
    if ← isDirectory dir then return names.map fun n => (n, within dir (lastPart n))
    match ← lookUp true dir with
    | .error e => fail 1 ("target directory ".toList ++ because (nameQuoted dir) e)
    | .ok _ => fail 1 ("target directory ".toList ++ because (nameQuoted dir) 20)
  | none =>
    match names with
    | [] => misuse 1 "missing file operand".toList
    | [only] => misuse 1 ("missing destination file operand after ".toList ++ nameQuoted only)
    | _ =>
      let target := names.getLast?.getD []
      let sources := names.dropLast
      let isDir ← match ← lookUp followsTarget target with
        | .ok (_, .dir) => pure true
        | _ => pure false
      if Options.has opts 'T' then
        match sources with
        | [s] => return [(s, target)]
        | _ => misuse 1 ("extra operand ".toList ++ nameQuoted ((names.drop 2).headD []))
      else if isDir then return sources.map fun n => (n, within target (lastPart n))
      else match sources with
        | [s] => return [(s, target)]
        | _ =>
          match ← lookUp true target with
          | .error e => fail 1 ("target ".toList ++ because (nameQuoted target) e)
          | .ok _ => fail 1 ("target ".toList ++ because (nameQuoted target) 20)

def arrow (source target : Octets) : Octets := nameQuoted source ++ " -> ".toList ++ nameQuoted target

/-! ### Copies -/

def cpOptions : Options :=
  .of "abdfHilLnprRsuvxPT" "St" [("archive", 'a'), ("force", 'f'), ("recursive", 'r'), ("verbose", 'v'), ("no-clobber", 'n'),
    ("dereference", 'L'), ("no-dereference", 'P'), ("target-directory", 't'), ("no-target-directory", 'T'), ("preserve", 'p'),
    ("link", 'l'), ("symbolic-link", 's'), ("update", 'u'), ("parents", 'Q'), ("remove-destination", 'D')]

structure Copying where
  deep : Bool
  follow : Bool
  verbose : Bool
  keepOld : Bool
  preserve : Bool
  links : Bool
  symbolic : Bool
  /-- Only what is newer than what it would replace is copied. -/
  update : Bool

/-- Copies the octets and the permissions of a file over whatever has the name. -/
def copyFile (how : Copying) (umask : Nat) (f : Regular) (target : Octets) : Tool (Except Errno Unit) := do
  let v ← view
  let modified := if how.preserve then f.modified else v.now
  edit fun cwd fs =>
    let path := Octets.toPath target
    match fs.resolve cwd true path with
    | .error e => (.error e, fs)
    | .ok (.absent dir name) =>
      if target.getLast? = some '/' then (.error .notDirectory, fs)
      else
        let mode := if how.preserve then f.mode else f.mode &&& (0o777 - (umask &&& 0o777))
        fs.create cwd (dir ++ [name]).path (.file ⟨f.content, mode, 0, modified, none⟩)
    | .ok (.present loc (.file g)) =>
      let mode := if how.preserve then f.mode else g.mode
      (.ok (), fs.putFile loc { g with content := f.content, mode, modified })
    | .ok (.present _ .dir) => (.error .isDirectory, fs)
    | .ok (.present ..) => (.ok (), fs)

/-- Copies what is no directory. -/
def copyEntry (how : Copying) (umask : Nat) (source target : Octets) (announce : Tool Unit) (entry : Entry) : Tool Unit := do
  let report (what : String) (r : Except Errno Unit) : Tool Unit :=
    match r with
    | .ok () => announce
    | .error e => wrong (what.toList ++ because (nameQuoted target) e)
  if how.symbolic then
    report "cannot create symbolic link " (← edit fun cwd fs =>
      fs.create cwd (Octets.toPath target) (.link (Octets.toPath source)))
  else if how.links then
    report "cannot create hard link " (← edit fun cwd fs => fs.hardLink cwd (Octets.toPath source) (Octets.toPath target))
  else match entry with
    | .file f => report "cannot create regular file " (← copyFile how umask f target)
    | .link path =>
      let _ ← edit fun cwd fs => fs.unlink cwd (Octets.toPath target)
      report "cannot create symbolic link " (← edit fun cwd fs => fs.create cwd (Octets.toPath target) (.link path))
    | .fifo => report "cannot create fifo " (← edit fun cwd fs => fs.create cwd (Octets.toPath target) .fifo)
    | .device _ => report "cannot create regular file " (← copyFile how umask (.plain []) target)
    | .dir => pure ()

/-- Copies one thing, with all below it if that is asked for. -/
def copyTree (how : Copying) (umask : Nat) : Nat → Bool → Octets → Octets → Tool Unit
  | 0, _, _, _ => return ()
  | fuel + 1, atTop, source, target => do
    let announce : Tool Unit := if how.verbose then putLine (arrow source target) else pure ()
    match ← lookUp (how.follow || (atTop && !how.deep)) source with
    | .error e => wrong ("cannot stat ".toList ++ because (nameQuoted source) e)
    | .ok (loc, .dir) =>
      if !how.deep then wrong ("-r not specified; omitting directory ".toList ++ nameQuoted source)
      else
        let there ← lookUp true target
        let inside := match there with
          | .ok (l, .dir) => loc.isPrefixOf l
          | _ => false
        let v ← view
        let below := match v.fs.resolve v.cwd true (Octets.toPath (withoutSlashes target)) with
          | .ok (.absent dir _) => loc.isPrefixOf dir
          | _ => inside
        if below && atTop then
          wrong ("cannot copy a directory, ".toList ++ nameQuoted source ++ ", into itself, ".toList ++ nameQuoted target)
        else match there with
          | .ok (_, .dir) =>
            for child in ← childrenOf source do copyTree how umask fuel false (within source child) (within target child)
          | .ok _ =>
            wrong ("cannot overwrite non-directory ".toList ++ nameQuoted target ++ " with directory ".toList ++ nameQuoted source)
          | .error _ =>
            match ← edit fun cwd fs => fs.makeDir cwd (Octets.toPath target) with
            | .error e => wrong ("cannot create directory ".toList ++ because (nameQuoted target) e)
            | .ok () =>
              announce
              for child in ← childrenOf source do copyTree how umask fuel false (within source child) (within target child)
    | .ok (loc, entry) =>
      match ← lookUp true target with
      | .ok (there, other) =>
        if other = .dir then
          wrong ("cannot overwrite directory ".toList ++ nameQuoted target ++ " with non-directory".toList)
        else if there = loc then
          wrong (nameQuoted source ++ " and ".toList ++ nameQuoted target ++ " are the same file".toList)
        else if how.keepOld || (how.update && entry.modified ≤ other.modified) then pure ()
        else copyEntry how umask source target announce entry
      | .error _ => copyEntry how umask source target announce entry

def cp : Body := fun args => do
  let (opts, names) ← cpOptions.find args
  let has := Options.has opts
  let deep := has 'r' || has 'R' || has 'a'
  let how : Copying :=
    ⟨deep, has 'L' || (!deep && !has 'P' && !has 'd'), has 'v', has 'n', has 'p' || has 'a', has 'l', has 's', has 'u'⟩
  let atTopFollows := !has 'P' && !has 'd' && !has 'a' && !deep
  let how := { how with follow := has 'L' || atTopFollows }
  let umask := (← view).umask
  for (source, target) in ← targets opts names true do
    copyTree { how with deep } umask 1000 atTopFollows source target

/-! ### Moves -/

def mvOptions : Options :=
  .of "bfinuvZT" "St" [("force", 'f'), ("no-clobber", 'n'), ("verbose", 'v'), ("target-directory", 't'),
    ("no-target-directory", 'T'), ("interactive", 'i'), ("update", 'u')]

def moveOne (keepOld update verbose : Bool) (source target : Octets) : Tool Unit := do
  match ← lookUp false source with
  | .error e => wrong ("cannot stat ".toList ++ because (nameQuoted source) e)
  | .ok (loc, entry) =>
    let there ← lookUp false target
    match there with
    | .ok (l, other) =>
      if l = loc then
        return ← if entry = .dir && source != target then
          wrong ("cannot move ".toList ++ nameQuoted source ++ " to a subdirectory of itself, ".toList ++ nameQuoted target)
        else wrong (nameQuoted source ++ " and ".toList ++ nameQuoted target ++ " are the same file".toList)
      else if keepOld then return ()
      else if update && entry.modified ≤ other.modified then return ()
      else if entry = .dir && other ≠ .dir then
        return ← wrong ("cannot overwrite non-directory ".toList ++ nameQuoted target ++ " with directory ".toList ++ nameQuoted source)
      else if entry ≠ .dir && other = .dir then
        return ← wrong ("cannot overwrite directory ".toList ++ nameQuoted target ++ " with non-directory".toList)
    | .error _ => pure ()
    match ← ask (.rename (Octets.toPath source) (Octets.toPath target)) with
    | .ok () => if verbose then put ("renamed ".toList ++ arrow source target ++ ['\n'])
    | .error e =>
      if e = 22 then
        wrong ("cannot move ".toList ++ nameQuoted source ++ " to a subdirectory of itself, ".toList ++ nameQuoted target)
      else if e = 39 then wrong ("cannot overwrite ".toList ++ because (nameQuoted target) e)
      else wrong ("cannot move ".toList ++ nameQuoted source ++ " to ".toList ++ because (nameQuoted target) e)

def mv : Body := fun args => do
  let (opts, names) ← mvOptions.find args
  for (source, target) in ← targets opts names true do
    moveOne (Options.has opts 'n') (Options.has opts 'u') (Options.has opts 'v') source target

/-! ### Links -/

def lnOptions : Options :=
  .of "bdFfinLPrsvT" "St" [("symbolic", 's'), ("force", 'f'), ("no-dereference", 'n'), ("verbose", 'v'),
    ("target-directory", 't'), ("no-target-directory", 'T'), ("relative", 'r'), ("logical", 'L'), ("physical", 'P')]

/-- The path to a location, seen from a directory. -/
def relativePath (dir loc : Location) : Octets :=
  let shared := ((dir.zip loc).takeWhile fun (a, b) => a == b).length
  let up := List.replicate (dir.length - shared) "..".toList
  let parts := up ++ (loc.drop shared).map Octets.ofBytes
  if parts.isEmpty then ['.'] else ['/'].intercalate parts

def linkOne (symbolic forced verbose relative : Bool) (source target : Octets) : Tool Unit := do
  let v ← view
  let kind := if symbolic then "symbolic link " else "hard link "
  let source ← if symbolic && relative then
      match v.fs.resolve v.cwd false (Octets.toPath target), v.fs.resolve v.cwd true (Octets.toPath source) with
      | .ok (.absent dir _), .ok (.absent d n) => pure (relativePath dir (d ++ [n]))
      | .ok (.absent dir _), .ok (.present loc _) => pure (relativePath dir loc)
      | .ok (.present l _), .ok (.present loc _) => pure (relativePath l.dropLast loc)
      | _, _ => pure source
    else pure source
  let ready ← if symbolic then pure true else do
    match ← lookUp false source with
    | .error e =>
      wrong ("failed to access ".toList ++ because (nameQuoted source) e)
      pure false
    | .ok (_, .dir) =>
      wrong (nameShown source ++ ": hard link not allowed for directory".toList)
      pure false
    | .ok _ => pure true
  if ready then
    if forced then
      match ← lookUp false target with
      | .ok (_, .dir) | .error _ => pure ()
      | .ok _ =>
        let _ ← edit fun cwd fs => fs.unlink cwd (Octets.toPath target)
    let r ← edit fun cwd fs =>
      if symbolic then
        if source.isEmpty then (.error .noEntry, fs) else fs.create cwd (Octets.toPath target) (.link (Octets.toPath source))
      else fs.hardLink cwd (Octets.toPath source) (Octets.toPath target)
    match r with
    | .ok () =>
      if verbose then
        put (nameQuoted target ++ (if symbolic then " -> " else " => ").toList ++ nameQuoted source ++ ['\n'])
    | .error e =>
      let pair := if symbolic || e = Errno.alreadyExists then [] else " => ".toList ++ nameQuoted source
      wrong (("failed to create " ++ kind).toList ++ because (nameQuoted target ++ pair) e)

def ln : Body := fun args => do
  let (opts, names) ← lnOptions.find args
  let has := Options.has opts
  let pairs ← match names, Options.last? opts 't' with
    | [], none => misuse 1 "missing file operand".toList
    | [only], none => pure [(only, lastPart only)]
    | names, _ => targets opts names (!has 'n')
  for (source, target) in pairs do
    linkOne (has 's') (has 'f') (has 'v') (has 'r') source target

def link : Body := fun args => do
  let (_, names) ← (Options.of "" "" []).find args
  match names with
  | [a, b] =>
    match ← edit fun cwd fs => fs.hardLink cwd (Octets.toPath a) (Octets.toPath b) with
    | .ok () => pure ()
    | .error e => fail 1 ("cannot create link ".toList ++ nameQuoted b ++ " to ".toList ++ because (nameQuoted a) e)
  | [] => misuse 1 "missing operand".toList
  | [a] => misuse 1 ("missing operand after ".toList ++ textQuoted a)
  | _ :: _ :: extra :: _ => misuse 1 ("extra operand ".toList ++ textQuoted extra)

/-! ### Files and their permissions -/

def mkfifo : Body := fun args => do
  let (_, names) ← (Options.of "Z" "m" [("mode", 'm')]).find args
  if names.isEmpty then misuse 1 "missing operand".toList
  for name in names do
    match ← edit fun cwd fs => fs.create cwd (Octets.toPath name) .fifo with
    | .ok () => pure ()
    | .error e => wrong ("cannot create fifo ".toList ++ because (nameQuoted name) e)

def chmodOptions : Options :=
  .of "Rcfv" "" [("recursive", 'R'), ("changes", 'c'), ("silent", 'f'), ("quiet", 'f'), ("verbose", 'v')]

/-- The nine letters of permission bits. -/
def modeLetters (mode : Nat) : Octets :=
  let part (v : Nat) (special : Bool) (letter : Char) : Octets :=
    [if v &&& 4 ≠ 0 then 'r' else '-', if v &&& 2 ≠ 0 then 'w' else '-',
      if v &&& 1 ≠ 0 then if special then letter else 'x' else if special then letter.toUpper else '-']
  part (mode / 64) (mode &&& 0o4000 ≠ 0) 's' ++ part (mode / 8) (mode &&& 0o2000 ≠ 0) 's' ++
    part mode (mode &&& 0o1000 ≠ 0) 't'

def fourOctal (mode : Nat) : Octets :=
  let ds := Nat.toDigits 8 mode
  List.replicate (4 - ds.length) '0' ++ ds

/-- The permission bits of an entry. -/
def modeOf : Entry → Nat
  | .file f => f.mode
  | .dir => 0o755
  | .link _ => 0o777
  | .fifo => 0o644
  | .device _ => 0o666

def changeMode (verbose changesOnly quiet deep : Bool) (new : Bool → Nat → Nat) : Nat → Octets → Tool Unit
  | 0, _ => return ()
  | fuel + 1, name => do
    match ← lookUp true name with
    | .error e =>
      if !quiet then
        match ← lookUp false name with
        | .ok _ => wrong ("cannot operate on dangling symlink ".toList ++ nameQuoted name)
        | .error _ => wrong ("cannot access ".toList ++ because (nameQuoted name) e)
      else modify ({ · with failed := true })
      if verbose then put (nameQuoted name ++ " could not be accessed\n".toList)
    | .ok (_, entry) =>
      let old := modeOf entry
      let mode := new (entry = .dir) old
      let _ ← edit fun cwd fs => fs.setMode cwd (Octets.toPath name) mode
      let shown (m : Nat) : Octets := fourOctal m ++ " (".toList ++ modeLetters m ++ ")".toList
      if old ≠ mode && (verbose || changesOnly) then
        putLine ("mode of ".toList ++ nameQuoted name ++ " changed from ".toList ++ shown old ++ " to ".toList ++ shown mode)
      else if verbose then putLine ("mode of ".toList ++ nameQuoted name ++ " retained as ".toList ++ shown mode)
      if deep && entry = .dir then
        for child in ← childrenOf name do changeMode verbose changesOnly quiet deep new fuel (within name child)

def chmod : Body := fun args => do
  let isMode (a : Octets) : Bool := match a with
    | '-' :: c :: _ => ['r', 'w', 'x', 'X', 's', 't', 'u', 'g', 'o', 'a', ',', '+', '=', '0', '1', '2', '3', '4', '5', '6', '7'].contains c
    | _ => false
  let before := args.takeWhile (· != ['-', '-'])
  let dashed := before.filter isMode
  let (opts, operands) ← chmodOptions.find (before.filter (!isMode ·) ++ args.drop before.length)
  let operands := dashed ++ operands
  match operands with
  | [] => misuse 1 "missing operand".toList
  | [mode] => misuse 1 ("missing operand after ".toList ++ textQuoted mode)
  | mode :: names =>
    let umask := (← view).umask
    let new : Bool → Nat → Nat ← match Permissions.octal? mode, Permissions.symbolic? mode with
      | some n, _ => pure fun _ _ => n
      | none, some changes => pure fun isDir old => Permissions.applyAll umask isDir old changes
      | none, none => misuse 1 ("invalid mode: ".toList ++ textQuoted mode)
    for name in names do
      changeMode (Options.has opts 'v') (Options.has opts 'c') (Options.has opts 'f') (Options.has opts 'R') new 1000 name

end AlloyGrade.Utility
