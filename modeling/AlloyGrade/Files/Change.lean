import AlloyGrade.Files.Listing
import AlloyGrade.Files.Resolve

/-! Operations that change a file system. Each returns the outcome and the file system left behind. -/

namespace AlloyGrade

/-- A path without the slashes it ends in; a path of slashes only keeps one. -/
def Path.withoutTrailingSlash (p : Path) : Path :=
  let kept := (p.bytes.reverse.dropWhile (· == Bytes.slash)).reverse
  if kept.isEmpty then ⟨p.bytes.take 1⟩ else ⟨kept⟩

/-- The path itself and the paths above it, nearest first, without the empty path. -/
def Path.ancestors (p : Path) : List Path :=
  p :: ((List.range p.components.length).reverse.filterMap fun n =>
    let above := Path.ofComponents (p.components.take n)
    if above.bytes.isEmpty then none else some above)

namespace FileSystem

abbrev Change := Except IoError Unit × FileSystem

/-- The directory in which the system shows its processes; nothing can be made in it. -/
def processes : Location := [Bytes.ofString "proc"]

/-- Puts an entry at a free name. -/
def create (fs : FileSystem) (cwd : Location) (p : Path) (entry : Entry) : Change :=
  match fs.resolve cwd false p with
  | .error e => (.error e, fs)
  | .ok (.present ..) => (.error .alreadyExists, fs)
  | .ok (.absent dir name) =>
    if processes.isPrefixOf dir then (.error .noEntry, fs) else (.ok (), fs.insert (dir ++ [name]) entry)

def makeDir (fs : FileSystem) (cwd : Location) (p : Path) : Change :=
  fs.create cwd p.withoutTrailingSlash .dir

/-- Makes a directory and whatever is missing above it, given the path and its ancestors. -/
def makeDirsFrom (fs : FileSystem) (cwd : Location) : List Path → Change
  | [] => (.ok (), fs)
  | p :: above =>
    match fs.makeDir cwd p with
    | (.ok (), made) => (.ok (), made)
    | (.error e, _) =>
      if e = .noEntry then
        match makeDirsFrom fs cwd above with
        | (.error e, left) => (.error e, left)
        | (.ok (), left) =>
          match left.makeDir cwd p with
          | (.ok (), made) => (.ok (), made)
          | (.error e, _) => if left.isDir cwd p then (.ok (), left) else (.error e, left)
      else if fs.isDir cwd p then (.ok (), fs)
      else (.error e, fs)

def makeDirs (fs : FileSystem) (cwd : Location) (p : Path) : Change :=
  if p.bytes.isEmpty then (.ok (), fs) else fs.makeDirsFrom cwd p.ancestors

/-- Puts a file in the place of the one at a location, under all the names that one has. -/
def putFile (fs : FileSystem) (loc : Location) (f : Regular) : FileSystem :=
  if f.serial = 0 then fs.insert loc (.file f)
  else ⟨fs.entries.map fun (l, entry) =>
    match entry with
    | .file g => if g.serial = f.serial then (l, .file f) else (l, entry)
    | _ => (l, entry)⟩

/-- Changes the contents of a file, made first if the name is free. Devices and pipes swallow them. -/
def write (fs : FileSystem) (cwd : Location) (p : Path) (change : Bytes → Bytes) : Change :=
  match fs.resolve cwd true p with
  | .error e => (.error e, fs)
  | .ok (.absent dir name) =>
    if processes.isPrefixOf dir then (.error .noEntry, fs)
    else (.ok (), fs.insert (dir ++ [name]) (.file (.plain (change []))))
  | .ok (.present loc (.file f)) => (.ok (), fs.putFile loc { f with content := change f.content })
  | .ok (.present _ .dir) => (.error .isDirectory, fs)
  | .ok (.present ..) => (.ok (), fs)

/-- Changes the contents of the file at a path at some time. -/
def alter (fs : FileSystem) (cwd : Location) (p : Path) (now : Int) (change : Bytes → Bytes) : Change :=
  match fs.stat cwd p with
  | .error e => (.error e, fs)
  | .ok (loc, .file f) => (.ok (), fs.putFile loc { f with content := change f.content, modified := now })
  | .ok _ => (.ok (), fs)

/-- Removes an empty directory. -/
def removeDir (fs : FileSystem) (cwd : Location) (p : Path) : Change :=
  if p.pieces.getLast? == some [Bytes.dot] then (.error (.os 22), fs)
  else if p.pieces.getLast? == some [Bytes.dot, Bytes.dot] then (.error (.os 39), fs)
  else match fs.find cwd false p.withoutTrailingSlash with
    | .error e => (.error e, fs)
    | .ok (loc, .dir) =>
      if loc.isEmpty then (.error (.os 16), fs)
      else if fs.names loc != [] then (.error (.os 39), fs) else (.ok (), fs.removeTree loc)
    | .ok _ => (.error .notDirectory, fs)

/-- Removes the directory at a path with all it holds: first what is in it, and then, by the path once more, the
directory itself. What the path does not lead to any more is left where it is. A link goes alone, and whatever is neither
a directory nor a link stays. -/
def removeDirAll (fs : FileSystem) (cwd : Location) (p : Path) : Change :=
  match fs.find cwd false p with
  | .error e => (.error e, fs)
  | .ok (loc, .dir) =>
    match (fs.removeBelow loc).removeDir cwd p with
    | (.ok (), left) => (.ok (), left)
    | (.error e, left) => (if e = .noEntry then .ok () else .error e, left)
  | .ok (loc, .link _) => (.ok (), fs.removeTree loc)
  | .ok _ => (.error .notDirectory, fs)

/-- Removes a name that does not stand for a directory. -/
def unlink (fs : FileSystem) (cwd : Location) (p : Path) : Change :=
  match fs.find cwd false p with
  | .error e => (.error e, fs)
  | .ok (_, .dir) => (.error .isDirectory, fs)
  | .ok (loc, _) => (.ok (), fs.removeTree loc)

/-- Moves whatever stands at a location, with all below it. -/
def moveTree (fs : FileSystem) (source target : Location) : FileSystem :=
  ⟨(fs.removeTree target).entries.map fun (loc, entry) =>
    if source.isPrefixOf loc then (target ++ loc.drop source.length, entry) else (loc, entry)⟩

/-- Gives what stands at one path another name, in place of what had it; links are not followed. A directory
replaces only an empty directory, and cannot be moved below itself. -/
def rename (fs : FileSystem) (cwd : Location) (source target : Path) : Change :=
  match fs.find cwd false source with
  | .error e => (.error e, fs)
  | .ok (old, entry) =>
    let target := if entry = .dir then target.withoutTrailingSlash else target
    match fs.resolve cwd false target with
    | .error e => (.error e, fs)
    | .ok (.absent dir name) =>
      if entry = .dir && old.isPrefixOf dir then (.error (.os 22), fs)
      else (.ok (), fs.moveTree old (dir ++ [name]))
    | .ok (.present new replaced) =>
      if new = old then (.ok (), fs)
      else if entry = .dir && old.isPrefixOf new then (.error (.os 22), fs)
      else match entry, replaced with
        | .dir, .dir => if fs.names new != [] then (.error (.os 39), fs) else (.ok (), fs.moveTree old new)
        | .dir, _ => (.error .notDirectory, fs)
        | _, .dir => (.error .isDirectory, fs)
        | .file f, .file g =>
          if f.serial ≠ 0 && f.serial = g.serial then (.ok (), fs) else (.ok (), fs.moveTree old new)
        | _, _ => (.ok (), fs.moveTree old new)

/-- A number that no file has. -/
def freshSerial (fs : FileSystem) : Nat :=
  1 + fs.entries.foldl (fun n (_, entry) => match entry with
    | .file f => max n f.serial
    | _ => n) 0

/-- Gives the object at a path, where a final link is not followed, one more name. -/
def hardLink (fs : FileSystem) (cwd : Location) (source target : Path) : Change :=
  match fs.find cwd false source with
  | .error e => (.error e, fs)
  | .ok (_, .dir) => (.error (.os 1), fs)
  | .ok (loc, .file f) =>
    let shared := if f.serial = 0 then { f with serial := fs.freshSerial } else f
    let linked := fs.create cwd target (.file shared)
    match linked.1 with
    | .error e => (.error e, fs)
    | .ok () => (.ok (), if f.serial = 0 then linked.2.insert loc (.file shared) else linked.2)
  | .ok (_, entry) => fs.create cwd target entry

/-- Sets the permission bits of the file at a path. -/
def setMode (fs : FileSystem) (cwd : Location) (p : Path) (mode : Nat) : Change :=
  match fs.stat cwd p with
  | .error e => (.error e, fs)
  | .ok (loc, .file f) => (.ok (), fs.putFile loc { f with mode })
  | .ok _ => (.ok (), fs)

/-- Sets the time of the last change to the file at a path. -/
def setModified (fs : FileSystem) (cwd : Location) (p : Path) (modified : Int) : Change :=
  match fs.stat cwd p with
  | .error e => (.error e, fs)
  | .ok (loc, .file f) => (.ok (), fs.putFile loc { f with modified })
  | .ok _ => (.ok (), fs)

/-- Removes whatever stands at a path, of any kind; a final link is not followed. -/
def removeAny (fs : FileSystem) (cwd : Location) (p : Path) : Change :=
  match fs.find cwd false p with
  | .error e => (.error e, fs)
  | .ok (loc, _) => (.ok (), fs.removeTree loc)

end FileSystem

end AlloyGrade
