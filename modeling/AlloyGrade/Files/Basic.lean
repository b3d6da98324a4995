import AlloyGrade.Path
import AlloyGrade.Files.IoError

/-! A file system as a finite table from locations to what stands there. A location is the link-free
list of names from the root. Only what can be reached from the root counts: a row whose location does not lead
through directories stands for nothing. -/

namespace AlloyGrade

abbrev Name := Bytes

/-- The longest name a directory can hold. -/
def maxNameLength : Nat := 255

/-- The names a directory can hold. -/
def isEntryName (name : Name) : Bool :=
  !name.isEmpty && name != [Bytes.dot] && name != [Bytes.dot, Bytes.dot] && !name.contains Bytes.slash &&
    !name.contains 0 && name.length ≤ maxNameLength

/-- The names from the root down; the root itself is the empty list. -/
abbrev Location := List Name

/-- A regular file: what it holds, its permission bits, a number, when it was last changed, in nanoseconds since
the beginning of 1970, and why it cannot be read, if so. Names of one and the same file share a number other than zero;
only a file with a single name can have the number zero. -/
structure Regular where
  content : Bytes
  mode : Nat
  serial : Nat
  modified : Int
  barred : Option IoError
deriving DecidableEq, Repr

namespace Regular

/-- The time of files that no process has changed: the start of the year 2026. -/
def dawn : Int := 1767225600000000000

/-- A file that is not a program. -/
def plain (content : Bytes) : Regular := ⟨content, 0o644, 0, dawn, none⟩

def program (content : Bytes) : Regular := ⟨content, 0o755, 0, dawn, none⟩

def isExecutable (f : Regular) : Bool := f.mode &&& 0o111 != 0

end Regular

inductive Device where
  | null
  | zero
  | full
  | terminal
deriving DecidableEq, Repr

inductive Entry where
  | dir
  | file (f : Regular)
  | link (target : Path)
  | fifo
  | device (d : Device)
deriving DecidableEq, Repr

/-- When something was last changed; only files keep account of it. -/
def Entry.modified : Entry → Int
  | .file f => f.modified
  | _ => Regular.dawn

structure FileSystem where
  entries : List (Location × Entry)
deriving DecidableEq, Repr

/-- The absolute path that spells a location. -/
def Location.path : Location → Path
  | [] => ⟨[Bytes.slash]⟩
  | names => ⟨names.flatMap (Bytes.slash :: ·)⟩

namespace FileSystem

def empty : FileSystem := ⟨[]⟩

/-- Descends from an entry along the given names, through directories only. -/
def descend (fs : FileSystem) : Location → Entry → List Name → Option Entry
  | _, entry, [] => some entry
  | here, .dir, name :: rest =>
    if isEntryName name then
      match fs.entries.lookup (here ++ [name]) with
      | some entry => descend fs (here ++ [name]) entry rest
      | none => none
    else none
  | _, _, _ :: _ => none

/-- What stands at a location; no link is followed. -/
def lookup (fs : FileSystem) (loc : Location) : Option Entry := fs.descend [] .dir loc

@[simp] theorem lookup_nil (fs : FileSystem) : fs.lookup [] = some .dir := rfl

theorem descend_append (fs : FileSystem) (here : Location) (entry : Entry) (names more : List Name) :
    fs.descend here entry (names ++ more) =
      (fs.descend here entry names).bind fun e => fs.descend (here ++ names) e more := by
  induction names generalizing here entry with
  | nil => simp [descend]
  | cons name names ih =>
    cases entry <;> simp only [List.cons_append, descend, Option.bind_none]
    split
    · cases fs.entries.lookup (here ++ [name]) with
      | none => rfl
      | some e => simp [ih]
    · rfl

/-- What stands in a directory is found through the directory. -/
theorem lookup_child (fs : FileSystem) (dir : Location) (name : Name) :
    fs.lookup (dir ++ [name]) = match fs.lookup dir with
      | some .dir => if isEntryName name then fs.entries.lookup (dir ++ [name]) else none
      | _ => none := by
  simp only [lookup, descend_append]
  cases fs.descend [] .dir dir with
  | none => rfl
  | some entry =>
    cases entry <;> simp only [Option.bind_some, descend, List.nil_append]
    split
    · cases fs.entries.lookup (dir ++ [name]) <;> rfl
    · rfl

/-- Whatever stands somewhere stands in a directory. -/
theorem lookup_parent (fs : FileSystem) {dir : Location} {name : Name} {entry : Entry}
    (h : fs.lookup (dir ++ [name]) = some entry) :
    fs.lookup dir = some .dir ∧ isEntryName name = true := by
  rw [lookup_child] at h
  split at h
  · rename_i hd
    refine ⟨hd, ?_⟩
    cases hn : isEntryName name with
    | true => rfl
    | false => simp [hn] at h
  · cases h

def isDirAt (fs : FileSystem) (loc : Location) : Bool := fs.lookup loc == some .dir

/-- Puts an entry at a location, in place of what stood there. -/
def insert (fs : FileSystem) (loc : Location) (entry : Entry) : FileSystem :=
  ⟨(loc, entry) :: fs.entries.filter (·.1 != loc)⟩

/-- Takes away a location and everything below it. -/
def removeTree (fs : FileSystem) (loc : Location) : FileSystem :=
  ⟨fs.entries.filter (!loc.isPrefixOf ·.1)⟩

/-- Takes away everything below a location. -/
def removeBelow (fs : FileSystem) (loc : Location) : FileSystem :=
  ⟨fs.entries.filter fun row => !loc.isPrefixOf row.1 || row.1 == loc⟩

end FileSystem

end AlloyGrade
