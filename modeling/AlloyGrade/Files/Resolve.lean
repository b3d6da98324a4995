import AlloyGrade.Files.Basic

/-! Path resolution. A path is walked name by name; `advance` goes as far as it can without crossing a
symbolic link, and `walk` restarts it at each link, up to a fixed number of links. Only names are looked up: a walk is
always in some directory, and goes on from there even if that directory has been removed. A canonical path is not read
off such a walk: it is written down while the names are worked off, with every link replaced by its target. -/

namespace AlloyGrade

/-- The names to walk. A trailing slash asks for a directory, which a final dot expresses. -/
def Path.steps (p : Path) : List Name :=
  let pieces := p.pieces
  if !pieces.isEmpty && p.bytes.getLast? == some Bytes.slash then pieces ++ [[Bytes.dot]] else pieces

/-- Where a path leads: to an object, or to a free name in a directory. -/
inductive Place where
  | present (loc : Location) (entry : Entry)
  | absent (dir : Location) (name : Name)
deriving DecidableEq, Repr

/-- The object at a place. -/
def Place.object : Place → Except IoError (Location × Entry)
  | .present loc entry => .ok (loc, entry)
  | .absent .. => .error .noEntry

namespace FileSystem

/-- How far a walk gets before it needs a link to be read. -/
inductive Progress where
  | arrived (loc : Location) (entry : Entry)
  | absent (dir : Location) (name : Name)
  | redirected (dir : Location) (target : Path) (rest : List Name)
  | failed (error : IoError)
deriving DecidableEq, Repr

def maxPathLength : Nat := 4096

def maxLinks : Nat := 40

/-- Walks the given names from a directory; a link in last position is followed only if `follow` holds. No name can be
found or made in a directory that has been removed, but the directory itself and the one above it can be reached. -/
def advance (fs : FileSystem) (follow : Bool) : Location → List Name → Progress
  | current, [] => .arrived current .dir
  | current, step :: rest =>
    if step = [Bytes.dot] then advance fs follow current rest
    else if step = [Bytes.dot, Bytes.dot] then advance fs follow current.dropLast rest
    else if maxNameLength < step.length then .failed .nameTooLong
    else match fs.lookup (current ++ [step]) with
      | none => if rest.isEmpty && fs.isDirAt current then .absent current step else .failed .noEntry
      | some .dir => advance fs follow (current ++ [step]) rest
      | some (.link target) =>
        if rest.isEmpty && !follow then .arrived (current ++ [step]) (.link target)
        else .redirected current target rest
      | some entry => if rest.isEmpty then .arrived (current ++ [step]) entry else .failed .notDirectory

/-- Walks across at most `links` links. -/
def walk (fs : FileSystem) (follow : Bool) : Nat → Location → List Name → Except IoError Place
  | links, current, steps =>
    match advance fs follow current steps with
    | .arrived loc entry => .ok (.present loc entry)
    | .absent dir name => .ok (.absent dir name)
    | .failed e => .error e
    | .redirected dir target rest =>
      match links with
      | 0 => .error .linkLoop
      | links + 1 => walk fs follow links (if target.isAbsolute then [] else dir) (target.steps ++ rest)

/-- The directory that a path starts from. -/
def origin (cwd : Location) (p : Path) : Location := if p.isAbsolute then [] else cwd

/-- Where a path leads, seen from the directory `cwd`, however long it is written. -/
def lead (fs : FileSystem) (cwd : Location) (follow : Bool) (p : Path) : Except IoError Place :=
  if p.hasNul then .error .nulInName
  else if p.bytes.isEmpty then .error .noEntry
  else walk fs follow maxLinks (origin cwd p) p.steps

/-- Where the system says that a path leads. -/
def resolve (fs : FileSystem) (cwd : Location) (follow : Bool) (p : Path) : Except IoError Place :=
  if !p.hasNul && maxPathLength ≤ p.bytes.length then .error .nameTooLong else fs.lead cwd follow p

/-- The object a path denotes, with or without following a final link. -/
def find (fs : FileSystem) (cwd : Location) (follow : Bool) (p : Path) : Except IoError (Location × Entry) :=
  fs.resolve cwd follow p >>= Place.object

/-- The object a path denotes once every link is followed. -/
def stat (fs : FileSystem) (cwd : Location) (p : Path) : Except IoError (Location × Entry) :=
  fs.find cwd true p

def pathExists (fs : FileSystem) (cwd : Location) (p : Path) : Bool := (fs.stat cwd p).isOk

def isFile (fs : FileSystem) (cwd : Location) (p : Path) : Bool :=
  match fs.stat cwd p with
  | .ok (_, .file ..) => true
  | _ => false

def isDir (fs : FileSystem) (cwd : Location) (p : Path) : Bool :=
  match fs.stat cwd p with
  | .ok (_, .dir) => true
  | _ => false

/-- The octets of a regular file that can be read; a device or an empty pipe has none to give. -/
def readFile (fs : FileSystem) (cwd : Location) (p : Path) : Except IoError Bytes :=
  match fs.stat cwd p with
  | .error e => .error e
  | .ok (_, .file f) => (f.barred.map Except.error).getD (.ok f.content)
  | .ok (_, .dir) => .error .isDirectory
  | .ok _ => .ok []

/-! ### Canonical paths -/

/-- Whether only a directory can stand before the given names: before dots, up to the next name. -/
def asksForDir : List Name → Bool
  | [] => false
  | step :: rest =>
    if step = [Bytes.dot] then rest.isEmpty || asksForDir rest else step = [Bytes.dot, Bytes.dot]

/-- Writes down the location that the given names lead to, one name after the other. A dot changes nothing of what is
written and two dots take the last name off. What a new name stands for is looked at by the path written so far, with a
slash behind it where only a directory will do, and this path can be too long for the system. `atLink` says how to go
on at a link. -/
def writeOut (fs : FileSystem) (atLink : Location → Path → List Name → Except IoError Location) :
    Location → List Name → Except IoError Location
  | written, [] => .ok written
  | written, step :: rest =>
    if step = [Bytes.dot] then writeOut fs atLink written rest
    else if step = [Bytes.dot, Bytes.dot] then writeOut fs atLink written.dropLast rest
    else
      let length := (Location.path (written ++ [step])).bytes.length
      if maxNameLength < step.length || maxPathLength ≤ length then .error .nameTooLong
      else match fs.lookup (written ++ [step]) with
        | none => .error .noEntry
        | some (.link target) => atLink written target rest
        | some .dir =>
          if asksForDir rest && maxPathLength ≤ length + 1 then .error .nameTooLong
          else writeOut fs atLink (written ++ [step]) rest
        | some _ => if rest.isEmpty then .ok (written ++ [step]) else .error .notDirectory

/-- Puts the target of each link in the place of the link, up to a number of links. -/
def unlinked (fs : FileSystem) : Nat → Location → List Name → Except IoError Location
  | 0 => writeOut fs fun _ _ _ => .error .linkLoop
  | links + 1 => writeOut fs fun dir target rest =>
    unlinked fs links (if target.isAbsolute then [] else dir) (target.steps ++ rest)

/-- A directory that a relative path can start from. -/
def startAt (fs : FileSystem) (dir : Location) : Except IoError Location :=
  match fs.lookup dir with
  | none => .error .noEntry
  | some .dir => .ok dir
  | some _ => .error .notDirectory

/-- The absolute, link-free path of the object that a path denotes, however long the path itself is written. -/
def canonicalize (fs : FileSystem) (cwd : Location) (p : Path) : Except IoError Path :=
  if p.hasNul then .error .nulInName
  else if p.bytes.isEmpty then .error .noEntry
  else do
    let start ← fs.startAt (origin cwd p)
    return (← fs.unlinked maxLinks start p.steps).path

end FileSystem

end AlloyGrade
