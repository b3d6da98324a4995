import AlloyGrade.Files.Basic

/-! What a directory holds: the names in it, and all that is below it written out, one line for each entry in the order
of the lines' octets. -/

namespace AlloyGrade

/-- The names below a directory, joined by slashes, and what the entry is. -/
def Entry.line (relative : Location) (entry : Entry) : Bytes :=
  let name := ([Bytes.slash].intercalate relative)
  match entry with
  | .dir => name ++ [Bytes.slash]
  | .file f => name ++ Bytes.ofString (" " ++ toString f.content.length)
  | .link target => name ++ Bytes.ofString " -> " ++ target.bytes
  | .fifo => name ++ Bytes.ofString " fifo"
  | .device _ => name ++ Bytes.ofString " device"

namespace FileSystem

/-- The names in a directory. -/
def names (fs : FileSystem) (dir : Location) : List Name :=
  fs.entries.filterMap fun (loc, entry) =>
    if loc.length = dir.length + 1 && dir.isPrefixOf loc && fs.lookup loc == some entry then loc.getLast? else none

def listing (fs : FileSystem) (root : Location) : List Bytes :=
  let below := fs.entries.filterMap fun (loc, entry) =>
    if root.isPrefixOf loc && root.length < loc.length && fs.lookup loc == some entry then
      some (entry.line (loc.drop root.length))
    else none
  below.mergeSort fun a b => !Bytes.lt b a

end FileSystem

end AlloyGrade
