import AlloyGrade.Shell.Expand
import AlloyGrade.Shell.Test

/-! Options: those of builtins, and those of the shell itself. -/

namespace AlloyGrade.Shell

/-! ### Options of builtins -/

/-- The options in front of the arguments, each with its value if it takes one, and the arguments. In `takers` stand the
letters that take a value. -/
def optionsFrom (letters takers : List Char) : Nat → List Octets → List (Char × Octets) →
    Sh (List (Char × Octets) × List Octets)
  | 0, args, acc => return (acc.reverse, args)
  | fuel + 1, args, acc => do
    match args with
    | ['-', '-'] :: rest => return (acc.reverse, rest)
    | ('-' :: c :: more) :: rest =>
      if !letters.contains c && !takers.contains c then Sh.fail ("Illegal option -".toList ++ [c])
      else if takers.contains c then
        match more, rest with
        | [], [] => Sh.fail ("No arg for -".toList ++ [c] ++ " option".toList)
        | [], value :: rest => optionsFrom letters takers fuel rest ((c, value) :: acc)
        | value, rest => optionsFrom letters takers fuel rest ((c, value) :: acc)
      else optionsFrom letters takers fuel (if more.isEmpty then rest else ('-' :: more) :: rest) ((c, []) :: acc)
    | _ => return (acc.reverse, args)

def options (letters takers : String) (args : List Octets) : Sh (List (Char × Octets) × List Octets) :=
  optionsFrom letters.toList takers.toList ((args.map List.length).foldl (· + ·) 0 + args.length + 1) args []

/-- The arguments of a builtin that has no options. -/
def noOptions (args : List Octets) : Sh (List Octets) := do return (← options "" "" args).2

/-- A number that is not negative. -/
def naturalNumber (cs : Octets) : Sh Nat := do
  let n ← decimalNumber cs
  if n < 0 || Int.pow 2 31 ≤ n then Sh.fail ("Illegal number: ".toList ++ cs)
  return n.toNat

/-- A text in single quotes, with the single quotes in it in double ones. -/
def singleQuotedFrom : Nat → Octets → Octets
  | 0, _ => []
  | fuel + 1, cs =>
    let plain := cs.takeWhile (· ≠ '\'')
    let rest := cs.drop plain.length
    let quotes := rest.takeWhile (· == '\'')
    let after := rest.drop quotes.length
    ['\''] ++ plain ++ ['\''] ++
      if quotes.isEmpty then [] else ['"'] ++ quotes ++ ['"'] ++ if after.isEmpty then [] else singleQuotedFrom fuel after

def singleQuoted (cs : Octets) : Octets := singleQuotedFrom (cs.length + 1) cs

/-! ### Options of the shell -/

/-- The long names, with their letters; two have none. -/
def optionNames : List (String × Char) :=
  [("errexit", 'e'), ("noglob", 'f'), ("ignoreeof", 'I'), ("interactive", 'i'), ("monitor", 'm'), ("noexec", 'n'),
    ("stdin", 's'), ("xtrace", 'x'), ("verbose", 'v'), ("vi", 'V'), ("emacs", 'E'), ("noclobber", 'C'), ("allexport", 'a'),
    ("notify", 'b'), ("nounset", 'u'), ("privileged", 'p'), ("nolog", '1'), ("debug", '2')]

def switch (letter : Char) (on : Bool) : Sh Unit := modify fun s =>
  { s with options := if on then letter :: s.options.filter (· != letter) else s.options.filter (· != letter) }

def setOption (letter : Char) (on : Bool) : Sh Unit := do
  if !optionLetters.contains letter then Sh.fail ("Illegal option -".toList ++ [letter])
  switch letter on
  if on && letter = 'V' then switch 'E' false
  if on && letter = 'E' then switch 'V' false

/-- Sets an option by its long name, or lists them all. -/
def setLongOption (name : Option Octets) (on : Bool) : Sh Unit := do
  match name with
  | none =>
    let s ← get
    if on then
      Sh.putString "Current option settings\n"
      for (name, letter) in optionNames do
        let gap := String.ofList (List.replicate (16 - name.length) ' ')
        Sh.putString (name ++ gap ++ (if s.options.contains letter then "on\n" else "off\n"))
    else
      for (name, letter) in optionNames do
        Sh.putString ("set " ++ (if s.options.contains letter then "-o " else "+o ") ++ name ++ "\n")
  | some name =>
    match optionNames.find? (·.1.toList == name) with
    | some (_, letter) => switch letter on
    | none => Sh.fail ("Illegal option -o ".toList ++ name)

/-- What the options leave: the arguments, whether they replace the parameters, and the text to run if one is given. -/
structure Arguments where
  rest : List Octets
  clears : Bool
  hasText : Bool

/-- The letters of one argument. -/
def optionCluster (atStart on : Bool) : List Char → List Octets → Bool → Sh (List Octets × Bool)
  | [], rest, hasText => return (rest, hasText)
  | c :: more, rest, hasText => do
    if c = 'c' && atStart then optionCluster atStart on more rest true
    else if c = 'l' && atStart then optionCluster atStart on more rest hasText
    else if c = 'o' then
      setLongOption rest.head? on
      optionCluster atStart on more (rest.drop 1) hasText
    else
      setOption c on
      optionCluster atStart on more rest hasText

/-- Reads the options of the shell, at its start or for `set`. -/
def shellOptions (atStart : Bool) : Nat → List Octets → Bool → Sh Arguments
  | 0, args, hasText => return ⟨args, false, hasText⟩
  | fuel + 1, args, hasText => do
    match args with
    | ['-'] :: rest =>
      unless atStart do
        switch 'x' false
        switch 'v' false
      return ⟨rest, false, hasText⟩
    | ['-', '-'] :: rest => return ⟨rest, !atStart && rest.isEmpty, hasText⟩
    | (sign :: letters) :: rest =>
      if sign = '-' || sign = '+' then
        let (rest, hasText) ← optionCluster atStart (sign = '-') letters rest hasText
        shellOptions atStart fuel rest hasText
      else return ⟨args, false, hasText⟩
    | _ => return ⟨args, false, hasText⟩

end AlloyGrade.Shell
