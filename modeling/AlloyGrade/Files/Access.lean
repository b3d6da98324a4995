import AlloyGrade.Files.Resolve

/-! Looking at files, with an account of what is opened. Asking what a path denotes opens nothing; reading contents
does. -/

namespace AlloyGrade

/-- What a look at the files gives, and the paths opened for it, first to last. -/
def Access (α : Type) := FileSystem → Except IoError α × List Path

namespace Access

variable {α β : Type}

instance : Monad Access where
  pure a := fun _ => (.ok a, [])
  bind m f := fun fs =>
    match m fs with
    | (.error e, opened) => (.error e, opened)
    | (.ok a, opened) => ((f a fs).1, opened ++ (f a fs).2)

theorem pure_run (a : α) (fs : FileSystem) : (pure a : Access α) fs = (.ok a, []) := rfl

theorem bind_run (m : Access α) (f : α → Access β) (fs : FileSystem) :
    (m >>= f) fs = match m fs with
      | (.error e, opened) => (.error e, opened)
      | (.ok a, opened) => ((f a fs).1, opened ++ (f a fs).2) := rfl

def fail (e : IoError) : Access α := fun _ => (.error e, [])

/-- The object that a path denotes. -/
def stat (cwd : Location) (p : Path) : Access (Location × Entry) := fun fs => (fs.stat cwd p, [])

/-- The contents behind a path, which is opened whatever it denotes. -/
def read (cwd : Location) (p : Path) : Access Bytes := fun fs => (fs.readFile cwd p, [p])

end Access

end AlloyGrade
