import LineShell.Machine.Call
import LineShell.Platform
import LineShell.Text.Bytes

/-!
# The state of a machine

A machine has a store of files, and processes with descriptors for the files and pipes
that they have opened.  Two descriptors may lead to the same opening of a file, whose
position they then share.

## Main definitions

* `OpenFile` — what was opened: a file with a position, an end of a pipe, a stream.
* `Process` — a process.
* `Machine` — the machine.
* `Machine.finish` — ends a process.
* `Machine.signal` — sends a signal to a process.
* `Machine.hasReader`, `Machine.hasWriter` — whether some process holds an end of a pipe.
-/

namespace LineShell

/-- Something that was opened. -/
inductive OpenFile where
  /-- A node of the store, at a position. -/
  | node (id : NodeId) (position : Nat) (mode : OpenMode)
  /-- An end of a pipe. -/
  | pipe (pipe : Nat) (side : Side)
  /-- One of the streams that the shell itself writes to. -/
  | stream (stream : OutStream)
deriving DecidableEq

/-- Where a descriptor leads. -/
structure Slot where
  /-- The number of the opening. -/
  file : Nat
  /-- Whether a program that the process becomes does not get it. -/
  isPrivate : Bool := false
deriving DecidableEq, Repr

/-- A process. -/
structure Process where
  /-- Its number. -/
  id : ProcessId
  /-- The number of the process that started it. -/
  parent : ProcessId
  /-- What it still does. -/
  code : Code
  /-- How it ended, if it did. It is then kept until its parent asks for that. -/
  ending : Option WaitStatus := none
  /-- Its descriptors. -/
  slots : List (Nat × Slot)
  /-- The directory it is in. -/
  here : NodeId
  /-- The permission bits that it gives to no file. -/
  mask : Nat := 0o022
  /-- The signals that it ignores. -/
  ignored : List Nat := []
  /-- The signals that it takes note of. -/
  caught : List Nat := []
  /-- The signals that it took note of. -/
  noted : List Nat := []
  /-- The time until which it sleeps. -/
  wake : Option Nat := none

namespace Process

/-- Whether it has not ended. -/
def isAlive (p : Process) : Bool := p.ending.isNone

/-- Where a descriptor leads. -/
def slot? (p : Process) (descriptor : Nat) : Option Slot :=
  (p.slots.find? (·.1 == descriptor)).map (·.2)

/-- Lets a descriptor lead somewhere. -/
def setSlot (descriptor : Nat) (slot : Slot) (p : Process) : Process :=
  { p with slots := (descriptor, slot) :: p.slots.filter (·.1 != descriptor) }

/-- Closes a descriptor. -/
def dropSlot (descriptor : Nat) (p : Process) : Process :=
  { p with slots := p.slots.filter (·.1 != descriptor) }

/-- The lowest descriptor from `least` on that is free, among the next `count` ones. -/
def freeFrom (p : Process) (least : Nat) : Nat → Nat
  | 0 => least
  | count + 1 => if (p.slot? least).isSome then p.freeFrom (least + 1) count else least

/-- The lowest free descriptor that is not below a given one. -/
def freeSlot (p : Process) (least : Nat) : Nat := p.freeFrom least p.slots.length

end Process

/-- Files, processes and the standard streams. -/
structure Machine where
  /-- The files. -/
  store : Store
  /-- The directory that the shell is in. -/
  here : NodeId := Store.root
  /-- The variables of the environment, as `NAME=value`. -/
  environment : List Octets := []
  /-- The programs that come with the machine, by name. -/
  installed : Octets → Option (Invocation → Code) := fun _ => none
  /-- All that was opened so far. -/
  opened : Array OpenFile := #[]
  /-- What was written to the pipes and not yet read. -/
  pipes : Array ByteArray := #[]
  /-- The pipes between the stages of the pipeline that is being started, by their numbers
  in it. -/
  stagePipes : List (Nat × Nat) := []
  /-- The processes, the oldest first. -/
  processes : List Process := []
  /-- The number of the next process. -/
  nextProcess : ProcessId := 2
  /-- The time, in nanoseconds. -/
  clock : Nat := 0
  /-- What was written to the standard output. -/
  output : ByteArray := .empty
  /-- What was written to the standard error. -/
  errors : ByteArray := .empty
  /-- What the shell has read of its standard input and not yet used. -/
  held : Bytes := []

namespace Machine

/-! ### Processes -/

/-- The number of the shell itself, which is no process among the others. -/
def shell : ProcessId := 1

/-- The number of the process to which processes without a parent belong. It asks for
nothing, so nothing is kept for it. -/
def nobody : ProcessId := 0

/-- A process. -/
def process? (m : Machine) (id : ProcessId) : Option Process :=
  m.processes.find? (·.id == id)

/-- Changes a process. -/
def modifyProcess (id : ProcessId) (f : Process → Process) (m : Machine) : Machine :=
  { m with processes := m.processes.map fun p => if p.id == id then f p else p }

/-- Removes a process. -/
def dropProcess (id : ProcessId) (m : Machine) : Machine :=
  { m with processes := m.processes.filter (·.id != id) }

/-- Ends a process. Its descriptors are closed and its children belong to nobody; it is
itself kept for its parent. -/
def finish (id : ProcessId) (ending : WaitStatus) (m : Machine) : Machine :=
  let processes := m.processes.map fun p =>
    if p.id == id then { p with ending := some ending, slots := [], code := .exit 0 }
    else if p.parent == id then { p with parent := nobody }
    else p
  { m with processes := processes.filter fun p => p.isAlive || p.parent != nobody }

/-- The signals that do nothing to a process that has not asked for them. -/
def harmlessSignals : List Nat := [17, 18, 19, 20, 21, 22, 23, 28]

/-- Sends a signal to a process. -/
def signal (id : ProcessId) (number : Nat) (m : Machine) : Machine :=
  match m.process? id with
  | none => m
  | some p =>
    if number = 0 || !p.isAlive || number ∈ p.ignored then m
    else if number ∈ p.caught then
      m.modifyProcess id fun p => { p with noted := p.noted ++ [number] }
    else if number ∈ harmlessSignals then m
    else m.finish id (.killed number)

/-! ### What was opened -/

/-- Remembers something that was opened. -/
def remember (file : OpenFile) (m : Machine) : Nat × Machine :=
  (m.opened.size, { m with opened := m.opened.push file })

/-- Changes something that was opened. -/
def reopen (number : Nat) (file : OpenFile) (m : Machine) : Machine :=
  { m with opened := m.opened.set! number file }

/-- What a descriptor of a process leads to. -/
def fileOf? (m : Machine) (p : Process) (descriptor : Nat) : Option (Nat × OpenFile) := do
  let slot ← p.slot? descriptor
  let file ← m.opened[slot.file]?
  return (slot.file, file)

/-- Whether some process has something open for which `test` holds. -/
def isHeld (test : OpenFile → Bool) (m : Machine) : Bool :=
  m.processes.any fun p => p.slots.any fun (_, slot) => (m.opened[slot.file]?).any test

/-- Whether some process can read from a pipe. -/
def hasReader (m : Machine) (pipe : Nat) : Bool := m.isHeld (· = .pipe pipe .read)

/-- Whether some process can write to a pipe. -/
def hasWriter (m : Machine) (pipe : Nat) : Bool := m.isHeld (· = .pipe pipe .write)

/-- Whether some process can write to a node. -/
def isBusy (m : Machine) (id : NodeId) : Bool :=
  m.isHeld fun file =>
    match file with
    | .node other _ mode => other == id && mode.writes
    | _ => false

/-- Creates a pipe. -/
def addPipe (m : Machine) : Nat × Machine :=
  (m.pipes.size, { m with pipes := m.pipes.push .empty })

end Machine

end LineShell
