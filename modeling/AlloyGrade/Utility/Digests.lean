import AlloyGrade.Digest.Hex
import AlloyGrade.Digest.Sha1
import AlloyGrade.Utility.Input

/-! The utilities that compute digests and checksums, and that write octets as letters. -/

namespace AlloyGrade.Utility

open Process Tool

/-! ### Digests -/

/-- A kind of digest: its name in a tag, and what it makes of a message. -/
structure DigestKind where
  tag : String
  size : Nat
  digest : Bytes → Bytes

def sumOptions : Options :=
  .of "bctwz" "" [("binary", 'b'), ("check", 'c'), ("tag", 'T'), ("text", 't'), ("quiet", 'q'), ("status", 's'), ("strict", 'S'),
    ("warn", 'w'), ("ignore-missing", 'i'), ("zero", 'z')]

/-- A name with what would disturb a line escaped; says whether there was any. -/
def lineName (name : Octets) : Bool × Octets :=
  (name.any fun c => c = '\\' || c = '\n' || c = '\r', name.flatMap fun c => match c with
    | '\\' => ['\\', '\\']
    | '\n' => ['\\', 'n']
    | '\r' => ['\\', 'r']
    | c => [c])

def hexDigest (kind : DigestKind) (text : Octets) : Octets := (Hex.encode (kind.digest (Octets.toBytes text))).toList

/-- A line of a list of digests: the digest and the name. -/
def sumLine? (kind : DigestKind) (line : Octets) : Option (Octets × Octets) :=
  let line := if line.head? = some '\\' then line.drop 1 else line
  let tagged := (kind.tag ++ " (").toList
  if tagged.isPrefixOf line then
    let body := line.drop tagged.length
    let name := body.take (body.length - 4 - kind.size)
    let hex := body.drop (body.length - kind.size)
    if name.length + 4 + hex.length = body.length then some (hex, name) else none
  else
    let hex := line.take kind.size
    let rest := line.drop kind.size
    if hex.length = kind.size && hex.all (fun c => c.isDigit || ('a' ≤ c.toLower && c.toLower ≤ 'f')) && rest.head? = some ' ' &&
        2 < rest.length then
      some (hex.map Char.toLower, rest.drop 2)
    else none

/-- Checks the files of a list of digests. -/
def checkSums (kind : DigestKind) (opts : List (Char × Octets)) (listName : Octets) (text : Octets) : Tool Unit := do
  let has := Options.has opts
  let entries := (pieces '\n' text).map (sumLine? kind)
  let good := entries.filterMap id
  let outcomes ← good.mapM fun (hex, name) => do
    match ← contents name with
    | .error e =>
      if has 'i' && e = Errno.noEntry then return (0 : Nat)
      warn (because (nameShown name) e)
      unless has 's' do putLine (name ++ ": FAILED open or read".toList)
      modify ({ · with failed := true })
      return 1
    | .ok content =>
      if hexDigest kind content == hex then
        unless has 's' || has 'q' do putLine (name ++ ": OK".toList)
        return 0
      else
        unless has 's' do putLine (name ++ ": FAILED".toList)
        modify ({ · with failed := true })
        return 2
  let shownName := if listName == ['-'] then "'standard input'".toList else nameShown listName
  if good.isEmpty then wrong (shownName ++ ": no properly formatted checksum lines found".toList)
  else unless has 's' do
    let plural (n : Nat) (one many : String) : Octets := Octets.ofNat n ++ (if n = 1 then one else many).toList
    let bad := entries.length - good.length
    let unread := (outcomes.filter (· == 1)).length
    let wrongs := (outcomes.filter (· == 2)).length
    if 0 < bad then
      warn ("WARNING: ".toList ++ plural bad " line is improperly formatted" " lines are improperly formatted")
    if 0 < unread then
      warn ("WARNING: ".toList ++ plural unread " listed file could not be read" " listed files could not be read")
    if 0 < wrongs then
      warn ("WARNING: ".toList ++ plural wrongs " computed checksum did NOT match" " computed checksums did NOT match")

def digestUtility (kind : DigestKind) : Body := fun args => do
  let (opts, names) ← sumOptions.find args
  forEachFile names plainComplaint fun name text => do
    if Options.has opts 'c' then checkSums kind opts name text
    else
      let hex := hexDigest kind text
      let (isEscaped, shown) := lineName name
      let escape : Octets := if isEscaped then ['\\'] else []
      putLine (escape ++ if Options.has opts 'T' then (kind.tag ++ " (").toList ++ shown ++ ") = ".toList ++ hex
        else hex ++ (if Options.has opts 'b' then " *" else "  ").toList ++ shown)

def sha256sum : Body := digestUtility ⟨"SHA256", 64, Sha256.digest⟩

def sha1sum : Body := digestUtility ⟨"SHA1", 40, Sha1.digest⟩

def md5sum : Body := digestUtility ⟨"MD5", 32, Md5.digest⟩

/-! ### Checksums -/

/-- One bit of the division by the generator of the checksum. -/
def crcBit (crc : UInt32) : UInt32 :=
  if crc &&& 0x80000000 ≠ 0 then (crc <<< 1) ^^^ 0x04c11db7 else crc <<< 1

def crcOctet (crc : UInt32) (b : UInt8) : UInt32 :=
  (List.range 8).foldl (fun c _ => crcBit c) (crc ^^^ (b.toUInt32 <<< 24))

/-- The octets of a length, least significant first, without zeros at the end. -/
def lengthDigits : Nat → Nat → Bytes
  | 0, _ => []
  | fuel + 1, n => if n = 0 then [] else UInt8.ofNat n :: lengthDigits fuel (n / 256)

def crc (bytes : Bytes) : UInt32 := ~~~((bytes ++ lengthDigits 16 bytes.length).foldl crcOctet 0)

def cksum : Body := fun args => do
  let (_, names) ← (Options.of "" "a" [("algorithm", 'a')]).find args
  forEachFile names plainComplaint fun name text =>
    putLine (Octets.ofNat (crc (Octets.toBytes text)).toNat ++ [' '] ++ Octets.ofNat text.length ++
      if names.isEmpty then [] else ' ' :: name)

/-! ### Letters for octets -/

def base64Letters : Array Char :=
  "ABCDEFGHIJKLMNOPQRSTUVWXYZabcdefghijklmnopqrstuvwxyz0123456789+/".toList.toArray

def base64Encode : Octets → Octets
  | a :: b :: c :: rest =>
    let n := a.toNat * 65536 + b.toNat * 256 + c.toNat
    digit (n / 262144) :: digit (n / 4096) :: digit (n / 64) :: digit n :: base64Encode rest
  | [a, b] =>
    let n := a.toNat * 65536 + b.toNat * 256
    [digit (n / 262144), digit (n / 4096), digit (n / 64), '=']
  | [a] =>
    let n := a.toNat * 65536
    [digit (n / 262144), digit (n / 4096), '=', '=']
  | [] => []
where
  digit (n : Nat) : Char := base64Letters.getD (n % 64) '='

/-- Decodes groups of four letters; what is not such a group is an error behind what came before it. -/
def base64Decode : Octets → Octets × Bool
  | a :: b :: c :: d :: rest =>
    let value (x : Char) : Option Nat := base64Letters.toList.findIdx? (· == x)
    match value a, value b, value c, value d with
    | some p, some q, some r, some s =>
      let n := p * 262144 + q * 4096 + r * 64 + s
      let (more, ok) := base64Decode rest
      (Octets.octet (n / 65536) :: Octets.octet (n / 256) :: Octets.octet n :: more, ok)
    | some p, some q, some r, none =>
      let n := p * 262144 + q * 4096 + r * 64
      if d = '=' then
        let (more, ok) := base64Decode rest
        (Octets.octet (n / 65536) :: Octets.octet (n / 256) :: more, ok)
      else ([Octets.octet (n / 65536), Octets.octet (n / 256)], false)
    | some p, some q, none, _ =>
      let n := p * 262144 + q * 4096
      if c = '=' && d = '=' then
        let (more, ok) := base64Decode rest
        (Octets.octet (n / 65536) :: more, ok)
      else ([Octets.octet (n / 65536)], false)
    | _, _, _, _ => ([], false)
  | [] => ([], true)
  | _ => ([], false)

/-- Cuts a text into lines of a width. -/
def wrapped64 (width : Nat) : Nat → Octets → Octets
  | 0, _ => []
  | fuel + 1, text =>
    if text.isEmpty then []
    else if width = 0 then text
    else text.take width ++ ['\n'] ++ wrapped64 width fuel (text.drop width)

def base64 : Body := fun args => do
  let (opts, names) ← (Options.of "di" "w" [("decode", 'd'), ("ignore-garbage", 'i'), ("wrap", 'w')]).find args
  match names with
  | _ :: extra :: _ => misuse 1 ("extra operand ".toList ++ textQuoted extra)
  | _ => pure ()
  let name := names.headD ['-']
  let text ← match ← contents name with
    | .ok text => pure text
    | .error e => fail 1 (if e = Errno.isDirectory then "read error: ".toList ++ (Errno.text e).toList else because (nameShown name) e)
  if Options.has opts 'd' then
    let letters := text.filter fun c => c ≠ '\n' && (!Options.has opts 'i' || base64Letters.toList.contains c || c = '=')
    let (decoded, ok) := base64Decode letters
    put decoded
    unless ok do fail 1 "invalid input".toList
  else
    let width ← match Options.last? opts 'w' with
      | none => pure 76
      | some w => match Octets.decimal? w with
        | some n => pure n
        | none => fail 1 ("invalid wrap size: ".toList ++ textQuoted w)
    put (wrapped64 width (text.length * 2 + 1) (base64Encode text))

end AlloyGrade.Utility
