import AlloyGrade.Files.IoError

/-! What comes back from a tool: its captured output and what that means, or the reason why there is none. -/

namespace AlloyGrade

/-- `needle` stands somewhere in the list without a gap. -/
def occursIn {α : Type} [BEq α] (needle : List α) : List α → Bool
  | [] => needle.isEmpty
  | a :: rest => needle.isPrefixOf (a :: rest) || occursIn needle rest

namespace Verdict

/-- The sentence with which the module differ declares two modules equivalent. -/
def marker : String := "The two modules are equivalent."

def reportsEquivalence (output : String) : Bool := occursIn marker.toList output.toList

/-- Standard output followed by standard error. -/
def combineStreams (stdout stderr : String) : String := stdout ++ stderr

def isValidExit (code : Int) : Bool := code == 0

end Verdict

structure ToolOutput where
  toolName : String
  /-- The exit status, -1 for a death by signal. -/
  exitCode : Int
  stdout : String
  stderr : String
  success : Bool
deriving DecidableEq, Repr

namespace ToolOutput

def passed (o : ToolOutput) : Bool := o.success && Verdict.isValidExit o.exitCode

def combined (o : ToolOutput) : String := Verdict.combineStreams o.stdout o.stderr

end ToolOutput

/-- Why a tool gave no output. -/
inductive RunError where
  | emptyCommand (tool : String)
  | spawn (tool : String) (source : IoError)
  | timeout (tool : String) (seconds : Nat)
deriving DecidableEq, Repr

namespace RunError

def message : RunError → String
  | .emptyCommand tool => "tool " ++ tool ++ " has empty command"
  | .spawn tool source => "tool " ++ tool ++ " failed to run: " ++ source.message
  | .timeout tool seconds => "tool " ++ tool ++ " timed out after " ++ toString seconds ++ " seconds"

/-- The error underneath. -/
def source? : RunError → Option IoError
  | .spawn _ source => some source
  | _ => none

end RunError

end AlloyGrade
