import UnitHealth.Rehearsal.Shell.Bytes

/-!
# Signals

A signal has a number, and most of them have a name. A few signals leave a process alone, and all
others end it. A shell that has waited for the process then says which signal it was.
-/

namespace UnitHealth.Rehearsal.Shell.Signal

/-- The number above those of all signals. -/
def limit : Nat := 65

/-- The names of the usual signals and what is said of a process that they have ended, in the order
of their numbers, which start at one. A signal without a name stands under its number. -/
def table : List (String × String) :=
  [("HUP", "Hangup"), ("INT", ""), ("QUIT", "Quit"), ("ILL", "Illegal instruction"),
    ("TRAP", "Trace/breakpoint trap"), ("ABRT", "Aborted"), ("BUS", "Bus error"),
    ("FPE", "Floating point exception"), ("KILL", "Killed"), ("USR1", "User defined signal 1"),
    ("SEGV", "Segmentation fault"), ("USR2", "User defined signal 2"), ("PIPE", ""),
    ("ALRM", "Alarm clock"), ("TERM", "Terminated"), ("16", "Stack fault"),
    ("CHLD", "Child exited"), ("CONT", "Continued"), ("STOP", "Stopped (signal)"),
    ("TSTP", "Stopped"), ("TTIN", "Stopped (tty input)"), ("TTOU", "Stopped (tty output)"),
    ("URG", "Urgent I/O condition"), ("XCPU", "CPU time limit exceeded"),
    ("XFSZ", "File size limit exceeded"), ("VTALRM", "Virtual timer expired"),
    ("PROF", "Profiling timer expired"), ("WINCH", "Window changed"), ("IO", "I/O possible"),
    ("PWR", "Power failure"), ("SYS", "Bad system call")]

/-- What a shell says of a process that a signal has ended, if anything. Above the named signals
there are two without a meaning, and then those of real time. -/
def text (number : Nat) : String :=
  if number < 32 then (table.getD (number - 1) ("", "")).2
  else if number < 34 then s!"Unknown signal {number}"
  else s!"Real-time signal {number - 34}"

/-- Whether a signal leaves a process alone: no signal at all, and the ones that tell of a child, of
continuing, of urgent data and of a window. -/
def isHarmless (number : Nat) : Bool := [0, 17, 18, 23, 28].contains number

def pipe : Nat := 13

/-- The usual signal to end a process. -/
def terminate : Nat := 15

/-- The names of all signals, of which the last are those of real time. -/
def names : List String :=
  table.map Prod.fst ++ ["32", "33", "RTMIN"] ++ (List.range 15).map (fun n => s!"RTMIN+{n + 1}") ++
    (List.range 14).map (fun n => s!"RTMAX-{14 - n}") ++ ["RTMAX"]

/-- The signal that octets write as a number or as a name, of which the case does not count. -/
def ofBytes? (bytes : Bytes) : Option Nat :=
  if !bytes.isEmpty ∧ bytes.all Char.isDigit ∧ digitsValue 10 bytes < limit then
    some (digitsValue 10 bytes)
  else (names.findIdx? (· == String.ofList (bytes.map Char.toUpper))).map (· + 1)

end UnitHealth.Rehearsal.Shell.Signal
