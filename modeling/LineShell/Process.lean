import LineShell.Fault

/-!
# Processes

A process is known by its number.  When it has ended, the system hands out a word
that says how: by its own decision, with an exit code, or by a signal.

## Main definitions

* `ProcessId` — the number of a process.
* `WaitStatus` — the word that describes the end of a process.
* `WaitStatus.exitCode?`, `WaitStatus.signal?` — the two readings of the word.
* `WaitStatus.exited`, `WaitStatus.killed` — the words of the two kinds of end.
-/

namespace LineShell

/-- The number of a process. -/
abbrev ProcessId := Nat

/-- The word in which the system describes the end of a process. The lowest seven
bits hold the signal that killed it, or 0; the second byte holds the exit code. -/
structure WaitStatus where
  /-- The word. -/
  word : Nat
deriving DecidableEq, Repr

namespace WaitStatus

/-- The exit code of a process that ended by itself. -/
def exitCode? (s : WaitStatus) : Option Nat :=
  if s.word % 128 = 0 then some (s.word / 256 % 256) else none

/-- The signal that killed the process. The value 127 in its place marks a
process that was stopped and has not ended. -/
def signal? (s : WaitStatus) : Option Nat :=
  let signal := s.word % 128
  if signal = 0 ∨ signal = 127 then none else some signal

/-- The end of a process with an exit code, of which the system keeps one byte. -/
def exited (code : Nat) : WaitStatus := ⟨code % 256 * 256⟩

/-- The end of a process by a signal. -/
def killed (signal : Nat) : WaitStatus := ⟨signal % 128⟩

end WaitStatus

end LineShell
