import Rendezvous.Shell.State

/-! Signals by number and name, and what becomes of a process that gets one. -/
namespace Rendezvous.Shell.Signal

/-- Names in the order of the numbers; zero stands for the end of a shell. -/
def names : List String := ["EXIT", "HUP", "INT", "QUIT", "ILL", "TRAP", "ABRT", "BUS", "FPE",
  "KILL", "USR1", "SEGV", "USR2", "PIPE", "ALRM", "TERM", "STKFLT", "CHLD", "CONT", "STOP", "TSTP",
  "TTIN", "TTOU", "URG", "XCPU", "XFSZ", "VTALRM", "PROF", "WINCH", "IO", "PWR", "SYS"]

def exitNumber : Nat := 0
def killing : Nat := 9
def termination : Nat := 15

/-- A signal by its number or its name. -/
def number? (text : String) : Option Nat :=
  match text.toNat? with
  | some number => if number < names.length then some number else none
  | none => names.idxOf? text.toUpper

inductive Effect where
  | ends
  | ignored
  | stops
  deriving DecidableEq, Repr

/-- What a signal does that nothing else is arranged for. -/
def effect (signal : Nat) : Effect :=
  if [17, 18, 23, 28].contains signal then .ignored
  else if [19, 20, 21, 22].contains signal then .stops
  else .ends

/-- What a shell reports of a process that a signal has ended; some it passes over. -/
def report? (signal : Nat) : Option String :=
  match signal with
  | 1 => some "Hangup"
  | 3 => some "Quit"
  | 4 => some "Illegal instruction"
  | 5 => some "Trace/breakpoint trap"
  | 6 => some "Aborted"
  | 7 => some "Bus error"
  | 8 => some "Floating point exception"
  | 9 => some "Killed"
  | 10 => some "User defined signal 1"
  | 11 => some "Segmentation fault"
  | 12 => some "User defined signal 2"
  | 14 => some "Alarm clock"
  | 15 => some "Terminated"
  | 16 => some "Stack fault"
  | 24 => some "CPU time limit exceeded"
  | 25 => some "File size limit exceeded"
  | 26 => some "Virtual timer expired"
  | 27 => some "Profiling timer expired"
  | 29 => some "I/O possible"
  | 30 => some "Power failure"
  | 31 => some "Bad system call"
  | _ => none

end Rendezvous.Shell.Signal
