import LineShell.Machine.Store
import LineShell.Process

/-!
# Calls and programs

A program does what it does by calls to the system, one after the other; which call
comes next depends on the answers so far.  So a program is a tree: at each node stands
a call, and there is one branch for each answer that this call can get.

## Main definitions

* `Call`, `Call.Answer` — the calls, and the answers that each of them can get.
* `Code` — what is left of a program.
* `Program` — a part of a program that computes a value.
-/

namespace LineShell

/-! ### Calls -/

/-- In what way a file is opened. -/
structure OpenMode where
  /-- It is read. -/
  reads : Bool := false
  /-- It is written. -/
  writes : Bool := false
  /-- It is created if it does not exist. -/
  creates : Bool := false
  /-- It is emptied. -/
  empties : Bool := false
  /-- What is written goes to its end. -/
  appends : Bool := false
  /-- It must not exist. -/
  fresh : Bool := false
deriving DecidableEq, Repr

namespace OpenMode

/-- For reading. -/
def input : OpenMode := { reads := true }

/-- For writing from the start. -/
def output : OpenMode := { writes := true, creates := true, empties := true }

/-- For writing at the end. -/
def addition : OpenMode := { writes := true, creates := true, appends := true }

end OpenMode

/-- The kinds of things that can be opened. -/
inductive FileKind where
  | regular
  | directory
  | link
  | device
  | pipe
deriving DecidableEq, Repr

/-- What the system tells about a file. -/
structure FileStatus where
  /-- Its kind. -/
  kind : FileKind
  /-- The number of its node; a pipe has none. -/
  node : Option NodeId
  /-- Its permission bits. -/
  mode : Nat
  /-- Its size in bytes. -/
  size : Nat
deriving DecidableEq, Repr

/-- Where a position is counted from. -/
inductive Origin where
  | start
  | here
  | finish
deriving DecidableEq, Repr

/-- What a process does with a signal. -/
inductive Disposition where
  /-- What the system does. -/
  | default
  /-- Nothing. -/
  | ignore
  /-- It takes note of it. -/
  | catch
deriving DecidableEq, Repr

/-- A call to the system. Descriptors are given by their numbers. -/
inductive Call where
  /-- To read at most some bytes. -/
  | read (descriptor count : Nat)
  /-- To write bytes; not all of them need be taken. -/
  | write (descriptor : Nat) (data : ByteArray)
  /-- To go to a position of a file. -/
  | seek (descriptor : Nat) (distance : Int) (origin : Origin)
  /-- To open a file, which gets the lowest free descriptor. -/
  | openFile (path : Octets) (mode : OpenMode) (permissions : Nat)
  /-- To close a descriptor. -/
  | close (descriptor : Nat)
  /-- To get another descriptor, not below a given one, which programs do not inherit. -/
  | duplicate (descriptor least : Nat)
  /-- To make a descriptor mean what another one does. -/
  | redirect (descriptor target : Nat)
  /-- To create a pipe; the answer holds its two ends. -/
  | pipe
  /-- To ask about the file at a path; the flag tells whether a link at its end counts. -/
  | status (path : Octets) (last : Bool)
  /-- To ask about an open file. -/
  | statusOpen (descriptor : Nat)
  /-- To ask what one may do with a file. -/
  | mayAccess (path : Octets) (permission : Permission)
  /-- To list the names in a directory. -/
  | list (path : Octets)
  /-- To make a directory. -/
  | makeDirectory (path : Octets) (permissions : Nat)
  /-- To take away an empty directory. -/
  | removeDirectory (path : Octets)
  /-- To take away the name of a file. -/
  | remove (path : Octets)
  /-- To change a name. -/
  | rename (source target : Octets)
  /-- To make a symbolic link. -/
  | makeLink (target path : Octets)
  /-- To give a file one more name. -/
  | addName (source path : Octets)
  /-- To ask where a symbolic link leads. -/
  | readLink (path : Octets)
  /-- To change permission bits. -/
  | changeMode (path : Octets) (mode : Nat)
  /-- To go to another directory. -/
  | enter (path : Octets)
  /-- To ask for the directory one is in. -/
  | whereabouts
  /-- To set the permission bits that new files do not get; the answer is the old setting. -/
  | mask (bits : Nat)
  /-- To become another program; there is an answer only if that fails. -/
  | execute (path : Octets) (arguments environment : List Octets)
  /-- To wait for the end of a child, or of any one. Without patience the answer is `none` if
  there is none to report. -/
  | wait (child : Option ProcessId) (patient : Bool)
  /-- To wait for a time, in nanoseconds. -/
  | sleep (nanoseconds : Nat)
  /-- To send a signal. -/
  | signal (target : ProcessId) (number : Nat)
  /-- To say what is to be done with a signal. -/
  | dispose (number : Nat) (disposition : Disposition)
  /-- To ask whether a signal was ignored from the beginning. -/
  | isIgnored (number : Nat)
  /-- To take the signals that were noted. -/
  | noted
  /-- To ask for the number of the process. -/
  | identity
  /-- To ask for the number of its parent. -/
  | parent

/-- The answers that a call can get. -/
@[reducible] def Call.Answer : Call → Type
  | .read _ _ => Except Errno ByteArray
  | .write _ _ => Except Errno Nat
  | .seek _ _ _ => Except Errno Nat
  | .openFile _ _ _ => Except Errno Nat
  | .close _ => Except Errno Unit
  | .duplicate _ _ => Except Errno Nat
  | .redirect _ _ => Except Errno Unit
  | .pipe => Except Errno (Nat × Nat)
  | .status _ _ => Except Errno FileStatus
  | .statusOpen _ => Except Errno FileStatus
  | .mayAccess _ _ => Except Errno Unit
  | .list _ => Except Errno (List Octets)
  | .makeDirectory _ _ => Except Errno Unit
  | .removeDirectory _ => Except Errno Unit
  | .remove _ => Except Errno Unit
  | .rename _ _ => Except Errno Unit
  | .makeLink _ _ => Except Errno Unit
  | .addName _ _ => Except Errno Unit
  | .readLink _ => Except Errno Octets
  | .changeMode _ _ => Except Errno Unit
  | .enter _ => Except Errno Unit
  | .whereabouts => Except Errno Octets
  | .mask _ => Nat
  | .execute _ _ _ => Errno
  | .wait _ _ => Except Errno (Option (ProcessId × WaitStatus))
  | .sleep _ => Except Errno Unit
  | .signal _ _ => Except Errno Unit
  | .dispose _ _ => Unit
  | .isIgnored _ => Bool
  | .noted => List Nat
  | .identity => ProcessId
  | .parent => ProcessId

/-! ### Programs -/

/-- What is left of a program. -/
inductive Code where
  /-- It ends with an exit code. -/
  | exit (code : Nat)
  /-- It makes a call and goes on with the answer. -/
  | call (call : Call) (next : call.Answer → Code)
  /-- It splits into two processes: a child, and itself with the number of the child. -/
  | fork (child : Code) (next : ProcessId → Code)

/-- A part of a program that computes a value: it is given what comes after it. -/
def Program (α : Type) : Type := (α → Code) → Code

namespace Program

/-- Parts of programs are put one after the other. -/
instance : Monad Program where
  pure a := fun next => next a
  bind p f := fun next => p fun a => f a next

/-- Makes a call. -/
def call (c : Call) : Program c.Answer := fun next => .call c next

/-- Ends the program. -/
def exit {α : Type} (code : Nat) : Program α := fun _ => .exit code

/-- Starts a child that runs a program of its own; the value is the child's number. -/
def fork (child : Program Nat) : Program ProcessId := fun next => .fork (child .exit) next

/-- The whole program, whose value is its exit code. -/
def code (p : Program Nat) : Code := p .exit

instance : LawfulMonad Program :=
  LawfulMonad.mk' Program (fun _ => rfl) (fun _ _ => rfl) (fun _ _ _ => rfl)

/-- How often a loop is repeated that goes on until a call ends it. It is more often than
any process can do. -/
def forever : Nat := 2 ^ 62

end Program

/-- What a program is started with. -/
structure Invocation where
  /-- Its arguments, the name it was called by first. -/
  arguments : List Octets
  /-- The variables of its environment, as `NAME=value`. -/
  environment : List Octets := []
deriving DecidableEq, Repr

/-- The name that a program was called by. -/
def Invocation.name (i : Invocation) : Octets := i.arguments.headD []

/-- The arguments after the name. -/
def Invocation.operands (i : Invocation) : List Octets := i.arguments.tail

end LineShell
