import LineShell.Text.Octets

/-!
# Signals

Signals have numbers, short names, and descriptions.

## Main definitions

* `Signal.table` — the signals.
* `Signal.name?`, `Signal.description`, `Signal.number?` — what is known about one of them.
-/

namespace LineShell.Signal

/-- The numbers, names and descriptions. -/
def table : List (Nat × String × String) :=
  [(1, "HUP", "Hangup"), (2, "INT", "Interrupt"), (3, "QUIT", "Quit"),
    (4, "ILL", "Illegal instruction"), (5, "TRAP", "Trace/breakpoint trap"),
    (6, "ABRT", "Aborted"), (7, "BUS", "Bus error"), (8, "FPE", "Floating point exception"),
    (9, "KILL", "Killed"), (10, "USR1", "User defined signal 1"),
    (11, "SEGV", "Segmentation fault"), (12, "USR2", "User defined signal 2"),
    (13, "PIPE", "Broken pipe"), (14, "ALRM", "Alarm clock"), (15, "TERM", "Terminated"),
    (16, "16", "Stack fault"), (17, "CHLD", "Child exited"), (18, "CONT", "Continued"),
    (19, "STOP", "Stopped (signal)"), (20, "TSTP", "Stopped"), (21, "TTIN", "Stopped (tty input)"),
    (22, "TTOU", "Stopped (tty output)"), (23, "URG", "Urgent I/O condition"),
    (24, "XCPU", "CPU time limit exceeded"), (25, "XFSZ", "File size limit exceeded"),
    (26, "VTALRM", "Virtual timer expired"), (27, "PROF", "Profiling timer expired"),
    (28, "WINCH", "Window changed"), (29, "IO", "I/O possible"), (30, "PWR", "Power failure"),
    (31, "SYS", "Bad system call")]

/-- The largest number of a signal. -/
def largest : Nat := 64

/-- The name of a signal. -/
def name? (number : Nat) : Option String := (table.find? (·.1 = number)).map (·.2.1)

/-- The description of a signal. -/
def description (number : Nat) : String :=
  match table.find? (·.1 = number) with
  | some (_, _, description) => description
  | none =>
    if 34 ≤ number && number ≤ largest then "Real-time signal " ++ toString (number - 34)
    else "Unknown signal " ++ toString number

/-- The number of the signal with a name, in small or capital letters. -/
def number? (name : Octets) : Option Nat :=
  (table.find? (·.2.1.toList = name.map Char.toUpper)).map (·.1)

/-- The signal of a broken pipe. -/
def pipe : Nat := 13

/-- The signal from the keyboard that asks to end. -/
def interrupt : Nat := 2

/-- The signal from the keyboard that asks to quit. -/
def quit : Nat := 3

/-- The signal that asks to end. -/
def terminate : Nat := 15

end LineShell.Signal
