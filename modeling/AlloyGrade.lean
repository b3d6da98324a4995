import AlloyGrade.Document.Read
import AlloyGrade.Files.Listing
import AlloyGrade.Process.Program
import AlloyGrade.CommandLine.Argument
import AlloyGrade.CommandLine.Help
import AlloyGrade.CommandLine.Program
import AlloyGrade.Process.Image
import AlloyGrade.Process.Kernel
import AlloyGrade.Process.Schedule
import AlloyGrade.Shell.Grammar
import AlloyGrade.Shell.Parse
import AlloyGrade.Time.Epoch
import AlloyGrade.Shell.State
import AlloyGrade.Shell.Arithmetic
import AlloyGrade.Shell.Pattern
import AlloyGrade.Shell.Expand
import AlloyGrade.Decimal.Dyadic
import AlloyGrade.Shell.Format
import AlloyGrade.Shell.Test
import AlloyGrade.Shell.Options
import AlloyGrade.Shell.Variables
import AlloyGrade.Shell.Jobs
import AlloyGrade.Files.Permissions
import AlloyGrade.Shell.Directory
import AlloyGrade.Shell.Names
import AlloyGrade.Shell.Redirection
import AlloyGrade.Shell.Command
import AlloyGrade.Shell.Eval
import AlloyGrade.Shell.Start
import AlloyGrade.Utility.Basic
import AlloyGrade.Utility.Quoting
import AlloyGrade.Utility.Tree
import AlloyGrade.Utility.Cat
import AlloyGrade.Utility.Running
import AlloyGrade.Main
import AlloyGrade.Utility.Condition
import AlloyGrade.Utility.Write
import AlloyGrade.Text.Regex
import AlloyGrade.Text.RegexSyntax
import AlloyGrade.Utility.Expr
import AlloyGrade.Utility.Naming
import AlloyGrade.Utility.Input
import AlloyGrade.Utility.Lines
import AlloyGrade.Utility.Characters
import AlloyGrade.Utility.Sorting
import AlloyGrade.Digest.Md5
import AlloyGrade.Digest.Sha1
import AlloyGrade.Utility.Digests
import AlloyGrade.Utility.Comparing
import AlloyGrade.Utility.Search
import AlloyGrade.Utility.Arguments
import AlloyGrade.Utility.Numbers
import AlloyGrade.Utility.Listing
import AlloyGrade.Utility.Editor.Script
import AlloyGrade.Utility.Editor.Run
import AlloyGrade.Utility.Awk.Parse
import AlloyGrade.Utility.Awk.Machine
import AlloyGrade.Proofs.Files.Trail
import AlloyGrade.Proofs.Files.Unlinked
import AlloyGrade.Proofs.Files.Removal
import AlloyGrade.Proofs.Files.Child
import AlloyGrade.Proofs.Scratch
import AlloyGrade.Proofs.Grading.Execution
import AlloyGrade.Proofs.Grading.Course
import AlloyGrade.Proofs.Grading.Decisions
import AlloyGrade.Proofs.Grading.Cleanup
import AlloyGrade.Proofs.Grading.Inputs
import AlloyGrade.Proofs.Grading.Alike
import AlloyGrade.Proofs.Digest
import AlloyGrade.Proofs.Grading.Modes
import AlloyGrade.Proofs.Files.Apart
import AlloyGrade.Proofs.ScratchPlaces
import AlloyGrade.Proofs.ScratchFrame
import AlloyGrade.Proofs.Grading.Repeated
import AlloyGrade.Proofs.Grading.Interleaved
import AlloyGrade.Proofs.Text.Digits
import AlloyGrade.Proofs.Text.Utf8
import AlloyGrade.Proofs.Json.Reading
import AlloyGrade.Proofs.Json.Records
import AlloyGrade.Proofs.Json.Grammar
import AlloyGrade.Proofs.Json.Scalars
import AlloyGrade.Proofs.Json.Skipping
import AlloyGrade.Proofs.Json.Trees
import AlloyGrade.Proofs.Json.Members
import AlloyGrade.Proofs.Json.Rearranged
import AlloyGrade.Proofs.Time.Display
import AlloyGrade.Proofs.Time.Accepted
import AlloyGrade.Proofs.Document.RoundTrip
import AlloyGrade.Proofs.Document.Rearrangement
import AlloyGrade.Proofs.Text.Lossy
import AlloyGrade.Proofs.Text.Seam
import AlloyGrade.Proofs.Files.Canonical
import AlloyGrade.Proofs.Files.Components
import AlloyGrade.Proofs.Grading.Arguments
import AlloyGrade.Proofs.Grading.Resolvable
import AlloyGrade.Proofs.Grading.Launchers
import AlloyGrade.Proofs.Except
import AlloyGrade.Proofs.CommandLine.Split
import AlloyGrade.Proofs.CommandLine.Settings
import AlloyGrade.Proofs.CommandLine.Contract
import AlloyGrade.Proofs.CommandLine.Values
import AlloyGrade.Proofs.CommandLine.Pieces
import AlloyGrade.Proofs.CommandLine.Sources
import AlloyGrade.Proofs.Process.Outcome
import AlloyGrade.Proofs.Grading.Log
