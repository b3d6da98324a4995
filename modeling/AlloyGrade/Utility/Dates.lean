import AlloyGrade.Time.Calendar
import AlloyGrade.Utility.Tree

/-! The utilities that deal with dates and with the times of files. -/

namespace AlloyGrade.Utility

open Process Tool

/-! ### Times of files -/

def touchOptions : Options :=
  .of "acfhm" "drt" [("no-create", 'c'), ("date", 'd'), ("reference", 'r'), ("time", 'x'), ("no-dereference", 'h')]

/-- The time that options ask for, the present time by default. -/
def touchTime (opts : List (Char × Octets)) (now : Int) : Tool Int := do
  let refused (text : Octets) : Tool Int := fail 1 ("invalid date format ".toList ++ textQuoted text)
  match Options.last? opts 'd', Options.last? opts 't', Options.last? opts 'r' with
  | some text, none, none =>
    match Calendar.moment? now text with
    | some m => return m
    | none => refused text
  | none, some text, none =>
    match Calendar.stamp? now text with
    | some m => return m
    | none => refused text
  | date, none, some name =>
    match ← lookUp true name with
    | .error e => fail 1 ("failed to get attributes of ".toList ++ because (nameQuoted name) e)
    | .ok (_, entry) =>
      match date with
      | none => return entry.modified
      | some text =>
        match Calendar.moment? entry.modified text with
        | some m => return m
        | none => refused text
  | none, none, none => return now
  | _, _, _ => misuse 1 "cannot specify times from more than one source".toList

def touch : Body := fun args => do
  let (opts, names) ← touchOptions.find args
  let time ← touchTime opts (← view).now
  if names.isEmpty then misuse 1 "missing file operand".toList
  let changes := Options.has opts 'm' || !Options.has opts 'a'
  let set (name : Octets) : Tool Unit := do
    let _ ← edit fun cwd fs => fs.setModified cwd (Octets.toPath name) time
  for name in names do
    match ← lookUp true name with
    | .ok _ => if changes then set name
    | .error e =>
      if Options.has opts 'c' && e = Errno.noEntry then pure ()
      else match ← ask (.open_ (Octets.toPath name) ⟨false, true, false, true, false, false⟩ 0o666) with
        | .ok fd =>
          close fd
          if changes then set name
        | .error e => wrong ("cannot touch ".toList ++ because (nameQuoted name) e)

/-! ### Dates -/

def dateOptions : Options :=
  let o := Options.of "RuI" "dfrs" [("date", 'd'), ("file", 'f'), ("reference", 'r'), ("set", 's'), ("rfc-email", 'R'), ("utc", 'u'),
    ("universal", 'u'), ("debug", 'D')]
  { o with known := o.known ++ [⟨'3', "rfc-3339", true⟩, ⟨'8', "iso-8601", true⟩] }

/-- Takes apart the option whose value may follow it directly. -/
def isoOption (arg : Octets) : Octets :=
  if arg == "-I".toList || arg == "--iso-8601".toList then "--iso-8601=date".toList
  else if "-I".toList.isPrefixOf arg then "--iso-8601=".toList ++ arg.drop 2
  else arg

def precisionOf? (text : Octets) : Option Nat :=
  ["date", "hours", "minutes", "seconds", "ns"].findIdx? fun n => !text.isEmpty && text.isPrefixOf n.toList

def isoFormat (precision : Nat) : String :=
  match precision with
  | 0 => "%Y-%m-%d"
  | 1 => "%Y-%m-%dT%H%:z"
  | 2 => "%Y-%m-%dT%H:%M%:z"
  | 3 => "%Y-%m-%dT%H:%M:%S%:z"
  | _ => "%Y-%m-%dT%H:%M:%S,%N%:z"

def spacedFormat (precision : Nat) : String :=
  match precision with
  | 0 => "%Y-%m-%d"
  | 3 => "%Y-%m-%d %H:%M:%S%:z"
  | _ => "%Y-%m-%d %H:%M:%S.%N%:z"

def date : Body := fun args => do
  let (opts, names) ← dateOptions.find (args.map isoOption)
  let now := (← view).now
  let badArgument (text : Octets) (name : String) : Tool Octets :=
    misuse 1 ("invalid argument ".toList ++ textQuoted text ++ " for ".toList ++ textQuoted name.toList)
  let format ← match Options.last? opts '8', Options.last? opts '3' with
    | some text, _ =>
      match precisionOf? text with
      | some n => pure (isoFormat n).toList
      | none => badArgument text "--iso-8601"
    | none, some text =>
      match precisionOf? text with
      | some n => pure (spacedFormat n).toList
      | none => badArgument text "--rfc-3339"
    | none, none => pure (if Options.has opts 'R' then "%a, %d %b %Y %H:%M:%S %z" else "%a %b %e %H:%M:%S %Z %Y").toList
  let format ← match names with
    | [] => pure format
    | [name] =>
      if name.head? = some '+' then pure (name.drop 1)
      else fail 1 ("invalid date ".toList ++ textQuoted name)
    | _ :: second :: _ => misuse 1 ("extra operand ".toList ++ textQuoted second)
  let moment ← match Options.last? opts 'd', Options.last? opts 'r' with
    | some text, _ =>
      match Calendar.moment? now text with
      | some m => pure m
      | none => fail 1 ("invalid date ".toList ++ textQuoted text)
    | none, some name =>
      match ← lookUp true name with
      | .ok (_, entry) => pure entry.modified
      | .error e => fail 1 (because name e)
    | none, none => pure now
  putLine (Calendar.format (format.length + 100) format moment)

end AlloyGrade.Utility
