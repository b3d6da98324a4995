import AlloyGrade.Utility.Quoting

/-! Reading input by files and by lines. -/

namespace AlloyGrade.Utility

open Process Tool

/-- How a utility complains about a file that it cannot read. -/
abbrev Complaint := Octets → Errno → Octets

def plainComplaint : Complaint := fun name e => because (nameShown name) e

/-- The names to read from; without any, the standard input. -/
def orInput (names : List Octets) : List Octets := if names.isEmpty then [['-']] else names

/-- Does something with the contents of each file; a file that cannot be read is passed over with a complaint. -/
def forEachFile (names : List Octets) (complaint : Complaint) (act : Octets → Octets → Tool Unit) : Tool Unit := do
  for name in orInput names do
    match ← contents name with
    | .ok text => act name text
    | .error e => wrong (complaint name e)

/-- The contents of all files together. -/
def allContents (complaint : Complaint) : List Octets → Tool Octets
  | [] => return []
  | name :: rest => do
    let here ← match ← contents name with
      | .ok text => pure text
      | .error e =>
        wrong (complaint name e)
        pure []
    return here ++ (← allContents complaint rest)

/-- The pieces of a text that a mark ends; the last one may lack it. -/
def pieces (mark : Char) (text : Octets) : List Octets :=
  match text with
  | [] => []
  | _ =>
    let all := Octets.splitOn mark text
    if all.getLast? = some [] then all.dropLast else all

/-- What has been read and not yet used. -/
structure Source where
  fd : Nat
  pending : Octets
  ended : Bool

namespace Source

def ofFd (fd : Nat) : Source := ⟨fd, [], false⟩

/-- Reads on for the end of a line; the pieces before it are given last first. -/
def lineFrom (mark : Char) (fd : Nat) : Nat → List Octets → Tool (Except Errno (Option (Octets × Bool) × Source))
  | 0, _ => return .ok (none, ⟨fd, [], true⟩)
  | fuel + 1, before => do
    match ← ask (.read fd 65536) with
    | .error e => return .error e
    | .ok [] =>
      let line := before.reverse.flatten
      return .ok (if line.isEmpty then none else some (line, false), ⟨fd, [], true⟩)
    | .ok piece =>
      match Octets.cutAt mark piece [] with
      | some (line, rest) => return .ok (some (before.reverse.flatten ++ line, true), ⟨fd, rest, false⟩)
      | none => lineFrom mark fd fuel (piece :: before)

/-- The next line without its end, and whether it had one. -/
def nextLine (mark : Char) (fuel : Nat) (s : Source) : Tool (Except Errno (Option (Octets × Bool) × Source)) := do
  match Octets.cutAt mark s.pending [] with
  | some (line, rest) => return .ok (some (line, true), { s with pending := rest })
  | none =>
    if s.ended then return .ok (if s.pending.isEmpty then none else some (s.pending, false), { s with pending := [] })
    else lineFrom mark s.fd fuel [s.pending]

/-- Gives back what has been read too much, where that is possible. -/
def giveBack (s : Source) : Tool Unit := do
  unless s.pending.isEmpty do
    let _ ← ask (.seek s.fd (-(s.pending.length : Int)) .here)

end Source

/-- The descriptor of a file; a dash stands for the standard input. -/
def openInput (name : Octets) : Tool (Except Errno Nat) := do
  if name == ['-'] then return .ok 0 else open_ name .reading

def closeInput (name : Octets) (fd : Nat) : Tool Unit := do
  unless name == ['-'] do close fd

/-- A count in an argument, perhaps with a unit behind it. -/
def count? (text : Octets) : Option Nat :=
  let ds := text.takeWhile Char.isDigit
  if ds.isEmpty then none
  else
    let n := Octets.decimal ds
    match String.ofList (text.drop ds.length) with
    | "" => some n
    | "b" => some (n * 512)
    | "kB" => some (n * 1000)
    | "K" | "k" | "KiB" => some (n * 1024)
    | "MB" => some (n * 1000000)
    | "M" | "MiB" => some (n * 1048576)
    | "GB" => some (n * 1000000000)
    | "G" | "GiB" => some (n * 1073741824)
    | _ => none

end AlloyGrade.Utility
