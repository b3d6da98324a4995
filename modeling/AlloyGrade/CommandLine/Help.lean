import AlloyGrade.CommandLine.Settings

/-! The help texts: a short one with an argument to a line, and a long one with a paragraph for each. -/

namespace AlloyGrade.CommandLine

/-- What help says about an option or a flag. -/
structure HelpEntry where
  letter : Option Char
  argument : Argument
  about : String
  envVariable : Option String
  default? : Option String
  /-- The values it takes, each with its meaning. -/
  values : List (String × String)

namespace HelpEntry

def flag (f : Flag) (letter : Option Char) (about : String) : HelpEntry :=
  ⟨letter, .flag f, about, none, none, []⟩

def option (o : ValueOption) (about : String) (default? : Option String) : HelpEntry :=
  ⟨none, .option o, about, o.envVariable, default?, []⟩

/-- The blanks in front of an entry. -/
def margin (e : HelpEntry) : String := if e.letter.isSome then "  " else "      "

/-- The argument behind its letter, if it has one. -/
def name (e : HelpEntry) : String :=
  (match e.letter with
    | some c => "-" ++ String.singleton c ++ ", "
    | none => "") ++ e.argument.shown

/-- Where else the value may come from; a variable is shown with its present value. -/
def sources (env : Environment) (e : HelpEntry) : List String :=
  (e.envVariable.map fun name =>
    "[env: " ++ name ++ "=" ++ Utf8.lossy ((env.get? name).getD []) ++ "]").toList ++
  (e.default?.map fun value => "[default: " ++ value ++ "]").toList

end HelpEntry

/-- A stretch of a help text, or a place where its style changes. -/
inductive HelpSpan where
  | text (s : String)
  | border
deriving DecidableEq, Repr

namespace HelpSpan

/-- What a terminal shows of a line of spans. A change of style ends any sequence that a value has left open. -/
def shown (spans : List HelpSpan) : String :=
  let (first, rest) := spans.foldr
    (fun span (first, rest) => match span with
      | .text s => (s ++ first, rest)
      | .border => ("", Text.Terminal.shown first ++ rest))
    ("", "")
  Text.Terminal.shown first ++ rest

/-- Text behind an entry's name, which is in a style of its own. -/
def named (e : HelpEntry) (rest : String) : List HelpSpan := [.text e.margin, .border, .text (e.name ++ rest)]

end HelpSpan

namespace Help

def about : String := "Score a generated Alloy model against its original"

def usageLine : String := "Usage: score [OPTIONS] <ORIGINAL_FILE> <GENERATED_FILE>"

def fileAbout : FileRole → String
  | .original => "Reference Alloy model"
  | .generated => "Generated Alloy model to score"

def entries (long : Bool) : List HelpEntry :=
  [.flag .equivalenceOnly none "Skip the syntax check and print only the equivalence score",
    { HelpEntry.option .format "Output format" (some "text") with
      values := [("text", "Score lines"), ("json", "JSON score report")] },
    .option .java "Java launcher used to run the Alloy tools" (some Config.defaultJava),
    .option .toolsDir
      ("Directory holding " ++ Artifacts.diffJarName ++ " and " ++ Artifacts.analyzerJarName ++
        " (default: directory of this executable)") none,
    .option .scope "Analysis scope for the equivalence check" (some (toString Config.defaultScope.toNat)),
    .option .solver "SAT solver for the equivalence check" (some Config.defaultSolver),
    .option .timeoutSecs "Per-tool timeout in seconds" (some (toString Config.defaultTimeoutSecs.toNat)),
    .option .workdir "Directory the analyzer runs in (default: current directory)" none,
    .flag .verbose (some 'v') "Enable verbose output",
    .flag .jsonLogs none "Emit JSON-formatted log lines",
    ⟨some 'h', .help, if long then "Print help (see a summary with '-h')" else "Print help (see more with '--help')",
      none, none, []⟩,
    ⟨some 'V', .version, "Print version", none, none, []⟩]

/-- A text filled up with blanks. -/
def padded (width : Nat) (s : String) : String := s ++ "".pushn ' ' (width - s.length)

/-- A text whose later lines stand that far to the right. -/
def indented (width : Nat) (s : String) : String :=
  String.ofList (s.toList.flatMap fun c => if c = '\n' then '\n' :: List.replicate width ' ' else [c])

/-- The width of the first of two columns, which stand two blanks apart. -/
def columnWidth (texts : List String) : Nat := texts.foldl (fun n s => max n s.length) 0 + 2

/-- Lines of plain text. -/
def plainLines (lines : List String) : List (List HelpSpan) := lines.map ([.text ·])

/-- The text of lines of spans. -/
def displayed (lines : List (List HelpSpan)) : String := HelpSpan.shown (lines.flatMap (· ++ [.text "\n"]))

/-- The line of an entry, with what is said about it in a second column. -/
def shortLine (env : Environment) (width : Nat) (e : HelpEntry) : List HelpSpan :=
  let values := if e.values.isEmpty then [] else
    ["[possible values: " ++ ", ".intercalate (e.values.map (·.1)) ++ "]"]
  let right := " ".intercalate (e.about :: e.sources env ++ values)
  HelpSpan.named e ("".pushn ' ' (width - (e.margin ++ e.name).length) ++ indented width right)

def shortText (env : Environment) : String :=
  let files := [FileRole.original, .generated].map fun r => ("  " ++ (Argument.file r).shown, fileAbout r)
  let fileWidth := columnWidth (files.map (·.1))
  let width := columnWidth ((entries false).map fun e => e.margin ++ e.name)
  displayed <| plainLines ([about, "", usageLine, "", "Arguments:"] ++
    (files.map fun (left, right) => padded fileWidth left ++ right) ++ ["", "Options:"]) ++
      (entries false).map (shortLine env width)

def margin : String := "          "

/-- The lines of a paragraph. -/
def paragraph (env : Environment) (e : HelpEntry) : List (List HelpSpan) :=
  let values := if e.values.isEmpty then [] else
    "" :: (margin ++ "Possible values:") :: e.values.map fun (name, meaning) => margin ++ "- " ++ name ++ ": " ++ meaning
  let sources := e.sources env
  HelpSpan.named e "" :: plainLines ([margin ++ e.about] ++ values ++
    if sources.isEmpty then [] else margin :: sources.map fun s => margin ++ indented margin.length s)

def longText (env : Environment) : String :=
  let files := [FileRole.original, .generated].map fun r => ["  " ++ (Argument.file r).shown, margin ++ fileAbout r]
  let options := (entries true).map (paragraph env)
  displayed <| plainLines ([about, "", usageLine, "", "Arguments:"] ++ [""].intercalate files ++ ["", "Options:"]) ++
    (plainLines [""]).intercalate options

def versionText : String := "score 0.1.0\n"

/-- The answer to an inquiry; what the environment brings in must not steer the terminal. -/
def answer (env : Environment) : Inquiry → String
  | .help true => longText env
  | .help false => shortText env
  | .version => versionText

end Help

end AlloyGrade.CommandLine
