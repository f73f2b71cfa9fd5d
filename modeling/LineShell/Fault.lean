import LineShell.Errno

/-!
# Faults

What can go wrong between a line and its running processes.  A call to the
operating system fails with a `SystemError`.  A `StageFault` keeps one stage from
starting and leaves the others alone; an `Abort` ends the whole pipeline.

## Main definitions

* `SystemError` — why a call failed, with its `message`.
* `StageFault` — why a stage could not start, with its `message` and the exit
  `status` that a shell reports for it.
* `Abort` — why a pipeline was given up, with its `message`.
-/

namespace LineShell

/-- The kinds of failure that are told apart without an error number. -/
inductive ErrorKind where
  | notFound
  | permissionDenied
  | invalidInput
  | invalidData
  | wouldBlock
  | outOfMemory
  | interrupted
  | other
deriving DecidableEq, Repr

/-- The wording of a kind of failure. -/
def ErrorKind.message : ErrorKind → String
  | .notFound => "entity not found"
  | .permissionDenied => "permission denied"
  | .invalidInput => "invalid input parameter"
  | .invalidData => "invalid data"
  | .wouldBlock => "operation would block"
  | .outOfMemory => "out of memory"
  | .interrupted => "operation interrupted"
  | .other => "other error"

/-- Why a call to the system failed. -/
inductive SystemError where
  /-- The operating system gave an error number. -/
  | os (errno : Errno)
  /-- Nothing is known but the kind of the failure. -/
  | plain (kind : ErrorKind)
  /-- A failure with a wording of its own. -/
  | custom (kind : ErrorKind) (text : String)
deriving DecidableEq, Repr

namespace SystemError

/-- The wording of the failure. -/
def message : SystemError → String
  | .os e => e.message ++ " (os error " ++ toString e.code ++ ")"
  | .plain kind => kind.message
  | .custom _ text => text

/-- Whether the call was refused because of its arguments. -/
def isInvalidInput : SystemError → Bool
  | .os e => e = .EINVAL
  | .plain kind => kind = .invalidInput
  | .custom kind _ => kind = .invalidInput

end SystemError

/-- Why a stage could not start. -/
inductive StageFault where
  /-- The stage has no command. -/
  | emptyCommand
  /-- There is no program of that name. -/
  | notFound (program : String)
  /-- The program exists and cannot be executed. -/
  | notExecutable (program : String) (cause : SystemError)
  /-- The file of a redirection cannot be opened. -/
  | redirection (path : String) (cause : SystemError)
  /-- The standard streams of the process cannot be set up. -/
  | wiring (program : String) (cause : SystemError)
deriving DecidableEq, Repr

namespace StageFault

/-- The wording of the fault. -/
def message : StageFault → String
  | .emptyCommand => "empty command"
  | .notFound program => program ++ ": command not found"
  | .notExecutable program cause => program ++ ": " ++ cause.message
  | .redirection path cause => path ++ ": " ++ cause.message
  | .wiring program cause =>
    "cannot wire descriptors for " ++ program ++ ": " ++ cause.message

/-- The failed call behind the fault, if there is one. -/
def cause? : StageFault → Option SystemError
  | .emptyCommand | .notFound _ => none
  | .notExecutable _ cause | .redirection _ cause | .wiring _ cause => some cause

/-- The exit status that a shell reports for the stage: 127 for a command that
does not exist, 126 for one that cannot be executed, 1 for everything else. -/
def status : StageFault → Int32
  | .emptyCommand | .notFound _ => 127
  | .notExecutable _ _ => 126
  | .redirection _ _ | .wiring _ _ => 1

/-- A stage that could not start is never reported as a success. -/
theorem status_ne_zero (f : StageFault) : f.status ≠ 0 := by
  cases f <;> simp only [status] <;> decide

end StageFault

/-- Why a pipeline was given up. -/
inductive Abort where
  /-- One of the pipes, counted from 0, could not be created. -/
  | pipeCreation (index : Nat) (errno : Errno)
  /-- The system refused to create a process for a stage, counted from 0. -/
  | spawn (stage : Nat) (program : String) (cause : SystemError)
deriving DecidableEq, Repr

namespace Abort

/-- The wording of the failed call. -/
def cause : Abort → String
  | .pipeCreation _ errno => errno.symbolText
  | .spawn _ _ cause => cause.message

/-- The wording of the whole. -/
def message (a : Abort) : String :=
  match a with
  | .pipeCreation index _ => "cannot create pipe " ++ toString index ++ ": " ++ a.cause
  | .spawn stage program _ =>
    "cannot spawn `" ++ program ++ "` (stage " ++ toString stage ++ "): " ++ a.cause

end Abort

end LineShell
