import AlloyGrade.Text.Octets

/-! Shell scripts as the reader leaves them. A word is a list of symbols: characters, marks where quotes stood,
and the beginnings and ends of expansions. Commands are made of words. -/

namespace AlloyGrade.Shell

/-- What `${…}` does with a parameter. -/
inductive Operation where
  /-- Not a form there is; an error once it is expanded. -/
  | bad
  | value
  | length
  | default
  | alternative
  | complain
  | assign
  | cutShortEnd
  | cutLongEnd
  | cutShortStart
  | cutLongStart
deriving DecidableEq, Repr

inductive FileUse where
  | input
  | output
  | clobber
  | append
  | both
deriving DecidableEq, Repr

mutual

inductive Symbol where
  | char (c : Char)
  /-- A character that has lost every special meaning. -/
  | escaped (c : Char)
  /-- A place where a quotation begins or ends. -/
  | quote
  /-- The beginning of an expansion; with a colon, an empty parameter counts as unset. -/
  | param (op : Operation) (colon : Bool) (name : Octets)
  | paramEnd
  | command (body : Node)
  | arith
  | arithEnd

inductive Redirect where
  | file (fd : Nat) (use : FileUse) (name : List Symbol)
  /-- Another descriptor: by number, none at all, or by a word. -/
  | copy (fd : Nat) (source : Nat)
  | close (fd : Nat)
  | named (fd : Nat) (isInput : Bool) (source : List Symbol)
  /-- A text that follows later in the script, under its number. -/
  | here (fd : Nat) (document : Nat)

/-- Commands, with the lines they start on where these are reported. -/
inductive Node where
  | nothing
  | simple (line : Nat) (assigns words : List (List Symbol)) (redirects : List Redirect)
  | pipe (background : Bool) (stages : List Node)
  | redirected (line : Nat) (body : Node) (redirects : List Redirect)
  | background (line : Nat) (body : Node) (redirects : List Redirect)
  | subshell (line : Nat) (body : Node) (redirects : List Redirect)
  | both (first second : Node)
  | either (first second : Node)
  | sequence (first second : Node)
  | negated (body : Node)
  | branch (test yes no : Node)
  | loop (untilHolds : Bool) (test body : Node)
  | each (line : Nat) (name : Octets) (items : List (List Symbol)) (body : Node)
  | choose (line : Nat) (word : List Symbol) (arms : List (List (List Symbol) × Node))
  | define (line : Nat) (name : Octets) (body : Node)

end

abbrev Word := List Symbol

instance : Inhabited Node := ⟨.nothing⟩

/-- A text that follows a command, and whether it is expanded. -/
structure Document where
  text : Word
  expands : Bool

namespace Word

/-- The characters of a word in which nothing is expanded, without quotes. -/
def plain (w : Word) : Octets :=
  w.filterMap fun
    | .char c | .escaped c => some c
    | _ => none

/-- Whether a word starts with a name and an equals sign. -/
def isAssignment (w : Word) : Bool :=
  let name := w.takeWhile fun
    | .char c => isNameChar c
    | _ => false
  match w.drop name.length with
  | .char '=' :: _ => isVariableName (plain name)
  | _ => false

/-- All parameters, each as a word of its own. -/
def allParameters : Word := [.quote, .param .value false ['@'], .quote]

end Word

end AlloyGrade.Shell
