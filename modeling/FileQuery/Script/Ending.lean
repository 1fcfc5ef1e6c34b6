/-!
# Signals and endings

Signals have a number, and most of them a name. A process that does not answer a signal is killed
by it, unless it is one of the few that mean nothing to it.
-/

namespace FileQuery.Script.Signal

/-- The names of signals, from number one. -/
def names : List String :=
  ["HUP", "INT", "QUIT", "ILL", "TRAP", "ABRT", "BUS", "FPE", "KILL", "USR1", "SEGV", "USR2",
    "PIPE", "ALRM", "TERM", "STKFLT", "CHLD", "CONT", "STOP", "TSTP", "TTIN", "TTOU", "URG", "XCPU",
    "XFSZ", "VTALRM", "PROF", "WINCH", "IO", "PWR", "SYS"]

/-- The name of a signal. -/
def name? (signal : Nat) : Option String := if signal = 0 then none else names[signal - 1]?

/-- The names that scripts know signals by that can be used freely. -/
def freeNames : List (String × Nat) :=
  [("RTMIN", 34), ("RTMAX", 64)] ++
    ((List.range 15).map fun step => ("RTMIN+" ++ toString (step + 1), step + 35)) ++
    ((List.range 14).map fun step => ("RTMAX-" ++ toString (step + 1), 63 - step))

/-- The signal that a script calls by a name, in any case. One signal has no name in scripts. -/
def ofName? (text : String) : Option Nat :=
  let name := text.map Char.toUpper
  match names.idxOf? name with
  | some place => if name = "STKFLT" then none else some (place + 1)
  | none => freeNames.lookup name

/-- The largest number of a signal. -/
def limit : Nat := 64

/-- The signal that a script calls by a number or a name. -/
def ofText? (text : String) : Option Nat :=
  match text.toNat? with
  | some number => if number ≤ limit then some number else none
  | none => ofName? text

/-- What a shell says of a program that a signal killed, if it says anything. -/
def description? (signal : Nat) : Option String :=
  match signal with
  | 1 => some "Hangup"
  | 3 => some "Quit"
  | 4 => some "Illegal instruction"
  | 5 => some "Trace/breakpoint trap"
  | 6 => some "Aborted"
  | 7 => some "Bus error"
  | 8 => some "Floating point exception"
  | 9 => some "Killed"
  | 10 => some "User defined signal 1"
  | 11 => some "Segmentation fault"
  | 12 => some "User defined signal 2"
  | 14 => some "Alarm clock"
  | 15 => some "Terminated"
  | 16 => some "Stack fault"
  | 24 => some "CPU time limit exceeded"
  | 25 => some "File size limit exceeded"
  | 26 => some "Virtual timer expired"
  | 27 => some "Profiling timer expired"
  | 29 => some "I/O possible"
  | 30 => some "Power failure"
  | 31 => some "Bad system call"
  | _ => none

/-- Whether a signal means nothing to a process that does not answer it. -/
def isIgnored (signal : Nat) : Bool := [0, 17, 18, 23, 28].contains signal

/-- Whether a process can answer a signal. -/
def isAnswered (signal : Nat) : Bool := signal != 9 && signal != 19

end FileQuery.Script.Signal

/-!
## How processes end

A process ends with an exit code, or a signal kills it.
-/

namespace FileQuery.Script

/-- How a process ends. -/
inductive Ending
  | exited (code : Nat)
  | killed (signal : Nat)
  deriving DecidableEq, Repr

namespace Ending

/-- The words for the end of a process. -/
def text : Ending → String
  | exited code => "exit status: " ++ toString code
  | killed signal =>
    "signal: " ++ toString signal ++
      (match Signal.name? signal with
        | some name => " (SIG" ++ name ++ ")"
        | none => "")

/-- Whether a process ends well. -/
def isSuccess (ending : Ending) : Bool := ending = exited 0

end Ending

end FileQuery.Script
