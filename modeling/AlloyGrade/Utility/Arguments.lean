import AlloyGrade.Utility.Input
import AlloyGrade.Utility.Running

/-! The utility that makes command lines out of its input. -/

namespace AlloyGrade.Utility

open Process Tool

namespace Arguments

/-- Where the reading of words stands: the words so far, the word that goes on, and the quote it is in. -/
structure Reading where
  lines : List (List Octets)
  line : List Octets
  word : Option Octets
  quote : Option Char
  escaped : Bool

def endWord (r : Reading) : Reading :=
  match r.word with
  | some w => { r with line := r.line ++ [w.reverse], word := none }
  | none => r

def endLine (r : Reading) : Reading :=
  let r := endWord r
  if r.line.isEmpty then r else { r with lines := r.lines ++ [r.line], line := [] }

def push (r : Reading) (c : Char) : Reading := { r with word := some (c :: r.word.getD []), escaped := false }

/-- Reads one character of the input. -/
def step (r : Reading) (c : Char) : Reading :=
  if r.escaped then push r c
  else match r.quote with
    | some q => if c = q then { r with quote := none } else push r c
    | none =>
      if c = '\'' || c = '"' then { r with quote := some c, word := some (r.word.getD []) }
      else if c = '\\' then { r with escaped := true }
      else if c = '\n' then endLine r
      else if c = ' ' || c = '\t' then endWord r
      else push r c

/-- The words of a text, line by line. -/
def words (text : Octets) : Tool (List (List Octets)) := do
  let r := endLine (text.foldl step ⟨[], [], none, none, false⟩)
  match r.quote with
  | some q =>
    fail 1 ("unmatched ".toList ++ (if q = '\'' then "single" else "double").toList ++
      " quote; by default quotes are special to xargs unless you use the -0 option".toList)
  | none => return r.lines

/-- Cuts a list into groups of a size. -/
def grouped {α : Type} (size : Nat) : Nat → List α → List (List α)
  | 0, _ => []
  | fuel + 1, xs => if xs.isEmpty then [] else xs.take size :: grouped size fuel (xs.drop size)

/-- Replaces a mark wherever it occurs. -/
def replaced (mark text : Octets) : Nat → Octets → Octets
  | 0, cs => cs
  | _, [] => []
  | fuel + 1, c :: cs =>
    if !mark.isEmpty && mark.isPrefixOf (c :: cs) then text ++ replaced mark text fuel ((c :: cs).drop mark.length)
    else c :: replaced mark text fuel cs

/-- Runs the command lines until one asks to stop; gives the status. -/
def runAll (trace : Bool) : List (List Octets) → Nat → Tool Nat
  | [], status => return status
  | argv :: rest, status => do
    if trace then complain ([' '].intercalate argv ++ ['\n'])
    let environment := (← get).environment
    flush
    let pid ← spawn do
      let e ← become argv environment
      warn (because (argv.headD []) e)
      exit (notRun e)
    let name := argv.headD []
    match ← await (some pid) patience with
    | .ended _ (.exited 0) => runAll trace rest status
    | .ended _ (.exited 255) =>
      warn (name ++ ": exited with status 255; aborting".toList)
      return 124
    | .ended _ (.exited code) => if code = 126 || code = 127 then return code else runAll trace rest 123
    | .ended _ (.signaled s) | .ended _ (.stopped s) =>
      warn (name ++ ": terminated by signal ".toList ++ Octets.ofNat s)
      return 125
    | _ => return 125

def options : Options :=
  { Options.of "0prtxo" "adEeIiLlnPs" [("null", '0'), ("no-run-if-empty", 'r'), ("verbose", 't'), ("max-args", 'n'), ("replace", 'I'),
      ("max-lines", 'L'), ("delimiter", 'd'), ("arg-file", 'a'), ("max-procs", 'P'), ("exit", 'x')] with inOrder := true }

/-- Gives the short form without a value the value that it stands for. -/
def withDefaults : List Octets → List Octets
  | [] => []
  | ['-', 'i'] :: rest => ['-', 'I'] :: ['\x7b', '\x7d'] :: withDefaults rest
  | ['-', 'l'] :: rest => ['-', 'L'] :: ['1'] :: withDefaults rest
  | ['-', 'e'] :: rest => withDefaults rest
  | ['-', '-'] :: rest => ['-', '-'] :: rest
  | a :: rest => if a.head? = some '-' then a :: withDefaults rest else a :: rest

end Arguments

open Arguments in
def xargs : Body := fun args => do
  let (opts, command) ← Arguments.options.find (withDefaults args)
  let has := Options.has opts
  let command := if command.isEmpty then ["echo".toList] else command
  let text ← match ← contents ((Options.last? opts 'a').getD ['-']) with
    | .ok text => pure text
    | .error e => fail 1 ("Cannot open input file ".toList ++ because (nameQuoted ((Options.last? opts 'a').getD [])) e)
  let separator : Option Char := if has '0' then some '\x00' else (Options.last? opts 'd').map fun d => match d with
    | ['\\', 'n'] => '\n'
    | ['\\', 't'] => '\t'
    | ['\\', '0'] => '\x00'
    | d => d.headD '\x00'
  let size (c : Char) : Option Nat := (Options.last? opts c).bind Octets.decimal?
  let lines ← match separator with
    | some c => pure ((pieces c text).map ([·]))
    | none =>
      if has 'I' then
        pure (((pieces '\n' text).map fun l => l.dropWhile fun c => c = ' ' || c = '\t').filter (!·.isEmpty) |>.map ([·]))
      else words text
  let all := lines.flatten
  let argvs : List (List Octets) := match Options.last? opts 'I', size 'n', size 'L' with
    | some mark, _, _ => all.map fun item => command.map fun word => replaced mark item (word.length + 1) word
    | none, some n, _ => (grouped (max n 1) (all.length + 1) all).map (command ++ ·)
    | none, none, some n => (grouped (max n 1) (lines.length + 1) lines).map fun ls => command ++ ls.flatten
    | none, none, none => if all.isEmpty then [] else [command ++ all]
  let argvs := if argvs.isEmpty && !has 'r' && !has 'I' then [command] else argvs
  exit (← runAll (has 't') argvs 0)

end AlloyGrade.Utility
