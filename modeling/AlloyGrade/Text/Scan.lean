/-! Readers that take characters from the front of a text or stop at the first fault. -/

namespace AlloyGrade

/-- What is read and what is left, or a fault. -/
def Scan (ε α : Type) := List Char → Except ε (α × List Char)

namespace Scan

variable {ε α β : Type}

instance : Monad (Scan ε) where
  pure a := fun cs => .ok (a, cs)
  bind m f := fun cs =>
    match m cs with
    | .error e => .error e
    | .ok (a, rest) => f a rest

theorem pure_run (a : α) (cs : List Char) : (pure a : Scan ε α) cs = .ok (a, cs) := rfl

theorem bind_run (m : Scan ε α) (f : α → Scan ε β) (cs : List Char) :
    (m >>= f) cs = match m cs with
      | .error e => .error e
      | .ok (a, rest) => f a rest := rfl

def fail (e : ε) : Scan ε α := fun _ => .error e

/-- Drops the characters at the front that satisfy `p`. -/
def skipWhile (p : Char → Bool) : Scan ε Unit := fun cs => .ok ((), cs.dropWhile p)

/-- The next character, which stays where it is. -/
def peek? : Scan ε (Option Char) := fun cs => .ok (cs.head?, cs)

/-- Drops one character. -/
def skip : Scan ε Unit := fun cs => .ok ((), cs.drop 1)

end Scan

end AlloyGrade
