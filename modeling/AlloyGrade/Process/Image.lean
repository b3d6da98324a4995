import AlloyGrade.Process.Program

/-! What an executable file holds, and how a program's name leads to one. A script names its interpreter in its
first line, of which the system looks at a fixed number of octets only. -/

namespace AlloyGrade

/-- A program of the system, known by name, or a script that names its interpreter. -/
inductive Image where
  | utility (name : Bytes)
  | script (interpreter : Path) (argument : Option Bytes)
deriving DecidableEq, Repr

namespace Image

def magic : Bytes := [0x7f, 0x45, 0x4c, 0x46]

def scriptMark : Bytes := [0x23, 0x21]

/-- The contents of the file that holds a program of the system. -/
def contents (name : Bytes) : Bytes := magic ++ name

def isBlankOctet (b : UInt8) : Bool := b == 0x20 || b == 0x09

/-- How much of a file is looked at. -/
def window : Nat := 256

def trimEnd (bs : Bytes) : Bytes := (bs.reverse.dropWhile isBlankOctet).reverse

/-- The first line behind its mark. Without a line end in sight, the interpreter at least has to end in sight. -/
def interpreterLine? (head : Bytes) : Option Bytes :=
  let rest := head.drop scriptMark.length
  let line := rest.takeWhile (fun b => b != 0x0a && b != 0)
  if rest[line.length]? == some 0x0a then some line
  else
    let inSight := rest.take (window - 1 - scriptMark.length)
    let name := (inSight.dropWhile isBlankOctet)
    if name.isEmpty then none
    else if head.length < window || name.any (fun b => isBlankOctet b || b == 0) then some inSight
    else none

def ofContents? (content : Bytes) : Option Image :=
  if magic.isPrefixOf content then some (.utility (content.drop magic.length))
  else if scriptMark.isPrefixOf content then
    match interpreterLine? (content.take window) with
    | none => none
    | some line =>
      let line := (trimEnd line).dropWhile isBlankOctet
      let interpreter := line.takeWhile fun b => !isBlankOctet b && b != 0
      let argument := match line.drop interpreter.length with
        | 0 :: _ => []
        | rest => (rest.dropWhile isBlankOctet).takeWhile (· != 0)
      if interpreter.isEmpty then none
      else some (.script ⟨interpreter⟩ (if argument.isEmpty then none else some argument))
  else none

end Image

namespace FileSystem

/-- What running the file at a path would execute. -/
def image (fs : FileSystem) (cwd : Location) (path : Path) : Except IoError Image :=
  match fs.stat cwd path with
  | .error e => .error e
  | .ok (_, .file f) =>
    if !f.isExecutable then .error .accessDenied
    else match Image.ofContents? f.content with
      | some image => .ok image
      | none => .error (.os 8)
  | .ok _ => .error .accessDenied

/-- How many interpreters may stand behind each other. -/
def maxInterpreters : Nat := 5

/-- The program of the system that a path leads to through its interpreters, with the arguments it is given. -/
def load (fs : FileSystem) (cwd : Location) : Nat → Path → List Bytes → Except IoError (Bytes × List Bytes)
  | 0, _, _ => .error .linkLoop
  | depth + 1, path, argv =>
    match fs.image cwd path with
    | .error e => .error e
    | .ok (.utility name) => .ok (name, argv)
    | .ok (.script interpreter argument) =>
      fs.load cwd depth interpreter (interpreter.bytes :: argument.toList ++ path.bytes :: argv.drop 1)

/-- The longest argument that can be handed to a program. -/
def maxArgument : Nat := 131072

/-- The most octets that all arguments together can have. -/
def maxArguments : Nat := 2097152 - 4096

/-- Loads a program, unless it is given too much. -/
def start (fs : FileSystem) (cwd : Location) (path : Path) (argv environment : List Bytes) :
    Except IoError (Bytes × List Bytes) :=
  let texts := argv ++ environment
  let whole := (texts.map fun t => t.length + 9).foldl (· + ·) 0
  match fs.stat cwd path with
  | .error e => .error e
  | .ok _ =>
    if texts.any (maxArgument ≤ ·.length) || maxArguments < whole then .error (.os 7)
    else fs.load cwd (maxInterpreters + 1) path argv

/-- Errors that let the search for a program go on in the next directory. -/
def passedOver (e : IoError) : Bool := e = .noEntry || e = .notDirectory || e = .accessDenied

/-- Tries the directories in turn. If none has the program, a file that may not be executed is reported before
the error met last. -/
def search (fs : FileSystem) (cwd : Location) (program : Bytes) (argv environment : List Bytes) :
    List Path → Bool → IoError → Except IoError (Bytes × List Bytes)
  | [], denied, last => .error (if denied then .accessDenied else last)
  | dir :: dirs, denied, _ =>
    match fs.start cwd (if dir.bytes.isEmpty then ⟨program⟩ else ⟨dir.bytes ++ Bytes.slash :: program⟩) argv environment with
    | .ok found => .ok found
    | .error e =>
      if passedOver e then fs.search cwd program argv environment dirs (denied || e = .accessDenied) e else .error e

/-- A name with a slash is a path; any other is looked up in the search path. -/
def locate (fs : FileSystem) (cwd : Location) (searchPath : List Path) (argv environment : List Bytes) :
    Except IoError (Bytes × List Bytes) :=
  let program := argv.headD []
  if program.contains Bytes.slash then fs.start cwd ⟨program⟩ argv environment
  else if maxNameLength < program.length then .error .nameTooLong
  else fs.search cwd program argv environment searchPath false .noEntry

end FileSystem

end AlloyGrade
