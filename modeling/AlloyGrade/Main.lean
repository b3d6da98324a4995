import AlloyGrade.CommandLine.Program
import AlloyGrade.Process.Host
import AlloyGrade.Time.Epoch
import Std.Time

/-! The executable. It takes an image of the files that the arguments name, scores on that image, and prints
what the scoring says. Tools run on the image too, as far as they are scripts. -/

namespace AlloyGrade.CommandLine

/-- The variables that matter to a run. -/
def variableNames : List String :=
  ["PATH", "HOME", filterVariable] ++ ValueOption.all.filterMap ValueOption.envVariable

def currentEnvironment : IO Environment := do
  let found ← variableNames.mapM fun name => do return (name, ← IO.getEnv name)
  return found.filterMap fun (name, value) => value.map fun v => (Bytes.ofString name, Bytes.ofString v)

/-- The link-free location of an absolute path. -/
def locationOf (absolute : String) : Location := (Path.ofString absolute).pieces

/-- The files a run may look at. -/
def namedFiles (s : Settings) (config : Config) : List Path :=
  [s.original, s.generated, config.artifacts.diffJar, config.artifacts.analyzerJar, config.java]

/-- Copies a file or directory into the image, if it is there. Any file may be executed. -/
def loadPath (cwd : Location) (fs : FileSystem) (p : Path) : IO FileSystem := do
  let absolute := (cwd.path.join p).display
  let dir ← IO.currentDir
  let onDisk := dir / absolute
  if ← onDisk.isDir then return (fs.makeDirs cwd p).2
  else if ← onDisk.pathExists then
    let content ← IO.FS.readBinFile onDisk
    let fs := match p.parent? with
      | some parent => (fs.makeDirs cwd parent).2
      | none => fs
    return (fs.create cwd p (.file (.program content.toList))).2
  else return fs

def now : IO Timing := do
  let t ← Std.Time.Timestamp.now
  return ⟨.ofEpoch t.toSecondsSinceUnixEpoch.val 0, 0⟩

end AlloyGrade.CommandLine

open AlloyGrade CommandLine in
def main (args : List String) : IO UInt32 := do
  let env ← currentEnvironment
  let args := args.map Bytes.ofString
  let cwd := locationOf (← IO.currentDir).toString
  let exe := (← IO.appPath).parent.getD "/"
  let around : Surroundings := ⟨cwd, .ok (.ofString exe.toString)⟩
  let base := (Host.installed.makeDirs [] cwd.path).2
  let fs ← match read env args with
    | .error _ => pure base
    | .ok s => match (configure around s.given base).1 with
      | .error _ => pure base
      | .ok config => (namedFiles s config).foldlM (loadPath cwd) base
  let outcome := run (Host.mk cwd env).system (← now) around env args fs
  IO.print outcome.stdout
  IO.eprint outcome.stderr
  return outcome.exit.toUInt32
