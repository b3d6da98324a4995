import AlloyGrade.CommandLine.Argument
import AlloyGrade.CommandLine.Number
import AlloyGrade.Text.Terminal

/-! Why a command line is not accepted. -/

namespace AlloyGrade.CommandLine

inductive UsageError where
  | unexpectedArgument (text : String)
  | unexpectedValue (value : String) (argument : Argument)
  | valueRequired (argument : Argument)
  | repeated (argument : Argument)
  | invalidFormat (value : String)
  | invalidNumber (value : String) (option : ValueOption) (fault : NumberFault)
  | notUtf8
  | missingFiles (roles : List FileRole)
deriving DecidableEq, Repr

namespace UsageError

def possibleFormats : String := "\n  [possible values: text, json]"

/-- What was given, in quotes and without anything that steers a terminal. -/
def quoted (given : String) : String := "'" ++ Text.Terminal.shown given ++ "'"

def message : UsageError → String
  | .unexpectedArgument text => "unexpected argument " ++ quoted text ++ " found"
  | .unexpectedValue value argument =>
    "unexpected value " ++ quoted value ++ " for '" ++ argument.shown ++ "' found; no more were expected"
  | .valueRequired argument =>
    "a value is required for '" ++ argument.shown ++ "' but none was supplied" ++
      if argument = .option .format then possibleFormats else ""
  | .repeated argument => "the argument '" ++ argument.shown ++ "' cannot be used multiple times"
  | .invalidFormat value =>
    "invalid value " ++ quoted value ++ " for '" ++ (Argument.option .format).shown ++ "'" ++ possibleFormats
  | .invalidNumber value option fault =>
    "invalid value " ++ quoted value ++ " for '" ++ (Argument.option option).shown ++ "': " ++ fault.message
  | .notUtf8 => "invalid UTF-8 was detected in one or more arguments"
  | .missingFiles roles =>
    "the following required arguments were not provided:" ++
      String.join (roles.map fun r => "\n  " ++ (Argument.file r).shown)

end UsageError

end AlloyGrade.CommandLine
