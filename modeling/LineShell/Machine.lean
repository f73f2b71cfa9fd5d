import LineShell.Editor
import LineShell.Environment
import LineShell.Machine.Schedule
import LineShell.Toolbox

/-!
# The machine as a platform

The shell starts its processes on a machine.  They run while it waits for one of them; in
between nothing moves.  The shell reads its lines from the file that is the standard input
of all, in blocks: what lies beyond the block that it has read is left for the programs.

## Main definitions

* `Machine.openInput`, `Machine.openOutput`, `Machine.spawn`, `Machine.wait` — the calls that
  a launch needs.
* `Machine.kernel`, `Machine.platform` — what a pipeline runs on.
* `Machine.editor` — the lines of the standard input.
* `Machine.furnished` — a machine with given files.
-/

namespace LineShell.Machine

/-! ### The shell -/

/-- The openings that the standard streams lead to. -/
def standardSlots : List (Nat × Slot) :=
  [(0, { file := 0 }), (1, { file := 1 }), (2, { file := 2 })]

/-- The shell in the form of a process. -/
def self (m : Machine) : Process where
  id := shell
  parent := nobody
  code := .exit 0
  slots := standardSlots
  here := m.here

/-! ### Opening files -/

/-- Opens a file in the name of the shell. -/
def openFor (mode : OpenMode) (path : String) (m : Machine) :
    Except SystemError FileHandle × Machine :=
  match m.openPath m.self path mode 0o666 with
  | .error errno => (.error (.os errno), m)
  | .ok (number, m) => (.ok number, m)

/-- Opens a file for reading. -/
def openInput (path : String) (m : Machine) : Except SystemError FileHandle × Machine :=
  m.openFor .input path

/-- Opens a file for writing, which creates or empties it. -/
def openOutput (path : String) (m : Machine) : Except SystemError FileHandle × Machine :=
  m.openFor .output path

/-! ### Starting and waiting -/

/-- The pipe behind the pipe of a number in the pipeline that is being started. -/
def stagePipe (number : Nat) (m : Machine) : Nat × Machine :=
  match m.stagePipes.find? (·.1 == number) with
  | some (_, pipe) => (pipe, m)
  | none =>
    let (pipe, m) := m.addPipe
    (pipe, { m with stagePipes := (number, pipe) :: m.stagePipes })

/-- The opening that a channel leads to, where `standard` is the shell's own one. -/
def openingOf (channel : Channel FileHandle) (standard : Nat) (m : Machine) : Nat × Machine :=
  match channel with
  | .inherit => (standard, m)
  | .file handle => (handle, m)
  | .pipe tip =>
    let (pipe, m) := m.stagePipe tip.pipe
    m.remember (.pipe pipe tip.side)

/-- Whether a channel leads to a node for writing. -/
def writesTo (channel : Channel FileHandle) (m : Machine) (id : NodeId) : Bool :=
  channel.files.any fun handle =>
    match m.opened[handle]? with
    | some (.node other _ mode) => other == id && mode.writes
    | _ => false

/-- Starts a process with the program file at a path. Its output file is being written, so it
is no program. -/
def startAt (c : Command) (m : Machine) (path : Octets) : Except Errno (ProcessId × Machine) :=
  let busy (id : NodeId) : Bool := m.isBusy id || m.writesTo c.stdout id
  match m.store.image m.here busy path ((c.program :: c.operands).map Octets.ofText) with
  | .error errno => .error errno
  | .ok image =>
    match m.installed image.program with
    | none => .error .ENOEXEC
    | some program =>
      let id := m.nextProcess
      let (stdin, m) := m.openingOf c.stdin 0
      let (stdout, m) := m.openingOf c.stdout 1
      let process : Process := {
        id
        parent := shell
        code := program { arguments := image.arguments, environment := m.environment }
        slots := [(0, { file := stdin }), (1, { file := stdout }), (2, { file := 2 })]
        here := m.here }
      .ok (id, { m with nextProcess := id + 1, processes := m.processes ++ [process] })

/-- Starts a process with the program of a name, which is looked for on the search path. -/
def spawn (c : Command) (m : Machine) : Except SystemError ProcessId × Machine :=
  match search (m.startAt c) (Environment.value? "PATH" m.environment) c.program with
  | .error errno => (.error (.os errno), m)
  | .ok (id, m) => (.ok id, m)

/-- The signal that ends a process by force. -/
def killSignal : Nat := 9

/-- Forgets the pipes of a pipeline when no process of the shell is left. -/
def forgetPipes (m : Machine) : Machine :=
  if m.processes.any (·.parent == shell) then m else { m with stagePipes := [] }

/-- Waits for the end of a child, which no longer exists after that. A child that can never
go on is ended by force. -/
def wait (child : ProcessId) (m : Machine) : Except SystemError WaitStatus × Machine :=
  if (m.process? child).isNone then (.error (.os .ECHILD), m)
  else
    let m := m.runChild child
    let ending := ((m.process? child).bind (·.ending)).getD (.killed killSignal)
    (.ok ending, (m.dropProcess child).forgetPipes)

/-! ### Platform -/

/-- Writes a text of the shell. -/
def print (stream : OutStream) (text : String) (m : Machine) : Machine :=
  match stream with
  | .standard => { m with output := m.output ++ text.toUTF8 }
  | .diagnostic => { m with errors := m.errors ++ text.toUTF8 }

/-- The calls of the machine. -/
def kernel : Kernel Machine where
  openInput := openInput
  openOutput := openOutput
  spawn := spawn
  wait := wait
  print := print

/-- What a pipeline runs on. -/
def platform : Platform Machine := kernel.platform

/-! ### The standard input -/

/-- The number of bytes that the shell reads at once. -/
def readAhead : Nat := 8192

/-- The opening of the standard input. -/
def input? (m : Machine) : Option OpenFile := m.opened[0]?

/-- What is left on the standard input. -/
def waiting (m : Machine) : ByteArray :=
  match m.input? with
  | some (.node id position _) =>
    match m.store.content? id with
    | some (.file data) => data.extract position data.size
    | _ => .empty
  | _ => .empty

/-- Reads one block of the standard input, which is empty at its end. -/
def readBlock (m : Machine) : Bytes × Machine :=
  let block := m.waiting.extract 0 readAhead
  match m.input? with
  | some (.node id position mode) =>
    (block.data.toList, m.reopen 0 (.node id (position + block.size) mode))
  | _ => ([], m)

/-- Takes the next line of the standard input with its end. What was read of it so far is
given in pieces, the last one first; after `blocks` further blocks it ends anyway. -/
def takeLine (pieces : List Bytes) : Nat → Machine → Bytes × Machine
  | blocks, m =>
    let line := m.held.takeWhile (· ≠ Bytes.lineFeed)
    match m.held.drop line.length with
    | lineFeed :: rest =>
      (((line ++ [lineFeed]) :: pieces).reverse.flatten, { m with held := rest })
    | [] =>
      let pieces := line :: pieces
      match blocks with
      | 0 => (pieces.reverse.flatten, { m with held := [] })
      | blocks + 1 =>
        let (block, m) := m.readBlock
        if block.isEmpty then (pieces.reverse.flatten, { m with held := [] })
        else takeLine pieces blocks { m with held := block }

/-- A number of bytes that the standard input does not exceed. -/
def inputBound (m : Machine) : Nat := m.held.length + m.waiting.size

/-- The lines of the standard input. -/
def editor : Editor Machine where
  next m :=
    let (line, m) := m.takeLine [] (m.waiting.size + 1)
    (.ofBytes line, m)
  most := inputBound

/-! ### Use -/

/-- The environment with a search path and the name of a terminal, if they are known. -/
def environmentOf (searchPath terminal : Option String) : List Octets :=
  (searchPath.map fun path => Octets.ofText ("PATH=" ++ path)).toList ++
    [Octets.ofText "LC_ALL=C"] ++ (terminal.map fun name => Octets.ofText ("TERM=" ++ name)).toList

/-- The directory for one's own files. -/
def home : Octets := "/work"

/-- A machine whose user is in the directory `home`, which holds the given things. The file
behind the standard input has no name. -/
def furnished (things : List (Octets × Node)) (input : ByteArray)
    (environment : List Octets) : Machine :=
  let store := Store.standard (Tool.all.map fun tool => tool.name.toList)
  let here := ((store.locate Store.root home).toOption).getD Store.root
  let store := things.foldl (fun s (path, node) => s.put here path node) store
  let (id, store) := store.add { content := .file input, mode := 0o600 }
  { store
    here
    environment
    installed := Tool.programOf
    opened := #[.node id 0 .input, .stream .standard, .stream .diagnostic] }

/-- Takes away what was written to the standard output and the standard error. -/
def collect (m : Machine) : (ByteArray × ByteArray) × Machine :=
  ((m.output, m.errors), { m with output := .empty, errors := .empty })

end LineShell.Machine
