import AlloyGrade.Files.Change
import AlloyGrade.Log.Event

/-! The directory the analyzer runs in. The analyzer leaves two scratch directories there, which are
removed after every run. -/

namespace AlloyGrade

structure Workdir where
  root : Path
deriving BEq, DecidableEq, Repr

namespace Workdir

def scratchNames : List String := ["tmp", "output"]

def scratchPaths (w : Workdir) : List Path := scratchNames.map fun name => w.root.join (.ofString name)

/-- Removes one scratch directory. One that is not there is passed over in silence. -/
def removeScratch (cwd : Location) (fs : FileSystem) (path : Path) : FileSystem × List Event :=
  match fs.removeDirAll cwd path with
  | (.ok (), left) => (left, [.scratchRemoved path])
  | (.error e, left) => (left, if e = .noEntry then [] else [.scratchKept path e])

/-- Removes the scratch directories one after the other; a failure does not keep the next one. -/
def cleanScratch (w : Workdir) (cwd : Location) (fs : FileSystem) : FileSystem × List Event :=
  w.scratchPaths.foldl
    (fun (fs, events) path =>
      let (left, more) := removeScratch cwd fs path
      (left, events ++ more))
    (fs, [])

end Workdir

end AlloyGrade
