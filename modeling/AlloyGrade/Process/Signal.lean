import AlloyGrade.Text.Octets

/-! Signals: their names, what they do to a process that has made no arrangements, and how their victims are
described. -/

namespace AlloyGrade

abbrev Signal := Nat

namespace Signal

def hup : Signal := 1
def int : Signal := 2
def quit : Signal := 3
def kill : Signal := 9
def segv : Signal := 11
def pipe : Signal := 13
def alarm : Signal := 14
def term : Signal := 15
def child : Signal := 17
def continue_ : Signal := 18
def stop : Signal := 19

/-- The names in the order of the numbers, from 1 on; one has none. -/
def names : List String :=
  ["HUP", "INT", "QUIT", "ILL", "TRAP", "ABRT", "BUS", "FPE", "KILL", "USR1", "SEGV", "USR2", "PIPE", "ALRM", "TERM",
    "16", "CHLD", "CONT", "STOP", "TSTP", "TTIN", "TTOU", "URG", "XCPU", "XFSZ", "VTALRM", "PROF", "WINCH", "IO",
    "PWR", "SYS"]

/-- One more than the highest signal. -/
def limit : Nat := 65

def name (s : Signal) : String :=
  match names[s - 1]? with
  | some n => if s = 0 then "EXIT" else n
  | none =>
    if s = 34 then "RTMIN"
    else if s = 64 then "RTMAX"
    else if 34 < s && s < 50 then "RTMIN+" ++ toString (s - 34)
    else if 50 ≤ s && s < 64 then "RTMAX-" ++ toString (64 - s)
    else toString s

/-- What a signal does when nobody has asked for anything else. -/
inductive Effect where
  | ends
  | ignored
  | stops
deriving DecidableEq, Repr

def effect (s : Signal) : Effect :=
  if [0, 17, 18, 23, 28].contains s then .ignored
  else if [19, 20, 21, 22].contains s then .stops
  else .ends

/-- How the system describes a process that a signal has ended. -/
def description (s : Signal) : String :=
  match s with
  | 1 => "Hangup"
  | 2 => "Interrupt"
  | 3 => "Quit"
  | 4 => "Illegal instruction"
  | 5 => "Trace/breakpoint trap"
  | 6 => "Aborted"
  | 7 => "Bus error"
  | 8 => "Floating point exception"
  | 9 => "Killed"
  | 10 => "User defined signal 1"
  | 11 => "Segmentation fault"
  | 12 => "User defined signal 2"
  | 13 => "Broken pipe"
  | 14 => "Alarm clock"
  | 15 => "Terminated"
  | 16 => "Stack fault"
  | 17 => "Child exited"
  | 18 => "Continued"
  | 19 => "Stopped (signal)"
  | 20 => "Stopped"
  | 21 => "Stopped (tty input)"
  | 22 => "Stopped (tty output)"
  | 23 => "Urgent I/O condition"
  | 24 => "CPU time limit exceeded"
  | 25 => "File size limit exceeded"
  | 26 => "Virtual timer expired"
  | 27 => "Profiling timer expired"
  | 28 => "Window changed"
  | 29 => "I/O possible"
  | 30 => "Power failure"
  | 31 => "Bad system call"
  | _ => if 34 ≤ s && s ≤ 64 then "Real-time signal " ++ toString (s - 34) else "Unknown signal " ++ toString s

end Signal

end AlloyGrade
