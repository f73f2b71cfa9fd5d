import LineShell.Path
import LineShell.World

/-!
# Platforms

What a pipeline runs on.  A `Platform` launches a stage, waits for a child and
takes the shell's own output.  The rules of a launch do not depend on where
programs and files come from, so a platform is built from a `Kernel`, which
offers the calls that a launch is made of.

## Main definitions

* `Platform` — the operations that the execution of a pipeline needs.
* `Kernel` — the calls of an operating system that a launch needs.
* `classify` — what an error of process creation says about the stage.
* `Kernel.launch`, `Kernel.platform` — the launch of a stage by these calls.
-/

namespace LineShell

/-- The two streams that the shell itself writes to. -/
inductive OutStream where
  /-- The standard output. -/
  | standard
  /-- The standard error. -/
  | diagnostic
deriving DecidableEq, Repr

/-- The operations that the execution of a pipeline needs. Whatever a launch comes
to, when it returns the shell holds none of the plan's pipe ends any more. -/
structure Platform (σ : Type) where
  /-- Starts the process of a stage. -/
  launch : Plan → World σ → LaunchResult × World σ
  /-- Waits for the end of a child. -/
  wait : ProcessId → σ → Except SystemError WaitStatus × σ
  /-- Writes a text to a stream of the shell. -/
  print : OutStream → String → σ → σ

namespace World

variable {σ : Type}

/-- Prints a line of diagnostics in the name of the shell. -/
def warn (p : Platform σ) (text : String) (w : World σ) : World σ :=
  let line := "pipesh: " ++ text ++ "\n"
  { w with state := p.print .diagnostic line w.state }.note (.warned line)

/-- Shows a prompt. -/
def prompt (p : Platform σ) (text : String) (w : World σ) : World σ :=
  { w with state := p.print .standard text w.state }

/-- Waits for a child, which is struck off whether or not that succeeds. -/
def await (p : Platform σ) (child : ProcessId) (w : World σ) :
    Except SystemError WaitStatus × World σ :=
  let w := w.note (.awaited child)
  let (result, state) := p.wait child w.state
  (result, { w with state }.forget child)

end World

/-! ### Launching by system calls -/

/-- What a process is started with. -/
structure Command where
  /-- The name of the program. -/
  program : String
  /-- Its arguments. -/
  operands : List String
  /-- The standard input, a file by its handle. -/
  stdin : Channel FileHandle
  /-- The standard output, a file by its handle. -/
  stdout : Channel FileHandle
deriving DecidableEq, Repr

/-- The calls of an operating system that a launch needs. -/
structure Kernel (σ : Type) where
  /-- Opens a file for reading. -/
  openInput : String → σ → Except SystemError FileHandle × σ
  /-- Opens a file for writing, which creates or empties it. -/
  openOutput : String → σ → Except SystemError FileHandle × σ
  /-- Starts a process. -/
  spawn : Command → σ → Except SystemError ProcessId × σ
  /-- Waits for the end of a process. -/
  wait : ProcessId → σ → Except SystemError WaitStatus × σ
  /-- Writes a text to a stream of the shell. -/
  print : OutStream → String → σ → σ

/-- A text with a NUL character cannot be handed to the system. -/
def holdsNul (text : String) : Bool := text.toList.any (· == '\x00')

/-- Why a path is refused before any descriptor or file is looked at. -/
def pathError? (path : String) : Option SystemError :=
  if holdsNul path then
    some (.custom .invalidInput "file name contained an unexpected NUL byte")
  else (Path.refusal? (Octets.ofText path)).map .os

/-- Why a command is refused before any process is created. -/
def commandError? (c : Command) : Option SystemError :=
  if holdsNul c.program || c.operands.any holdsNul then
    some (.custom .invalidInput "nul byte found in provided data")
  else none

/-- The error numbers that say there is no such program. -/
def missingErrnos : List Errno := [.ENOENT, .ENOTDIR, .ELOOP, .ENAMETOOLONG]

/-- The error numbers that say the program cannot be executed. -/
def unexecutableErrnos : List Errno :=
  [.EACCES, .EPERM, .ENOEXEC, .EISDIR, .ETXTBSY, .E2BIG]

/-- The error numbers that say the standard streams cannot be set up. -/
def wiringErrnos : List Errno := [.EBADF, .EMFILE, .ENFILE]

/-- What an error of process creation says: some errors are raised on behalf of
the one program, every other one means that no process can be created. -/
def classify (program : String) (error : SystemError) : LaunchFailure :=
  if error.isInvalidInput then .stage (.notExecutable program error)
  else match error with
    | .os errno =>
      if errno ∈ missingErrnos then .stage (.notFound program)
      else if errno ∈ unexecutableErrnos then .stage (.notExecutable program error)
      else if errno ∈ wiringErrnos then .stage (.wiring program error)
      else .refused error
    | .plain _ | .custom _ _ => .refused error

theorem classify_of_missing {errno : Errno} (h : errno ∈ missingErrnos) (program : String) :
    classify program (.os errno) = .stage (.notFound program) := by
  simp only [missingErrnos, List.mem_cons, List.not_mem_nil, or_false] at h
  rcases h with rfl | rfl | rfl | rfl <;> rfl

theorem classify_of_unexecutable {errno : Errno} (h : errno ∈ unexecutableErrnos)
    (program : String) :
    classify program (.os errno) = .stage (.notExecutable program (.os errno)) := by
  simp only [unexecutableErrnos, List.mem_cons, List.not_mem_nil, or_false] at h
  rcases h with rfl | rfl | rfl | rfl | rfl | rfl <;> rfl

namespace Kernel

variable {σ : Type}

/-- Opens the file of a redirection. -/
def openRedirection (call : String → σ → Except SystemError FileHandle × σ)
    (path : String) (w : World σ) : Except LaunchFailure FileHandle × World σ :=
  match pathError? path with
  | some e => (.error (.stage (.redirection path e)), w)
  | none =>
    match w.openFile (call path) path with
    | (.error e, w) => (.error (.stage (.redirection path e)), w)
    | (.ok file, w) => (.ok file, w)

/-- Opens the file in a channel, if there is one. -/
def openChannel (call : String → σ → Except SystemError FileHandle × σ)
    (channel : Channel String) (w : World σ) :
    Except LaunchFailure (Channel FileHandle) × World σ :=
  match channel with
  | .inherit => (.ok .inherit, w)
  | .pipe tip => (.ok (.pipe tip), w)
  | .file path =>
    match openRedirection call path w with
    | (.error e, w) => (.error e, w)
    | (.ok file, w) => (.ok (.file file), w)

/-- Starts the process of a command; the ends of its pipes go to the child. -/
def start (k : Kernel σ) (command : Command) (w : World σ) : LaunchResult × World σ :=
  match commandError? command with
  | some e => (.error (classify command.program e), w)
  | none =>
    match k.spawn command w.state with
    | (.error e, state) => (.error (classify command.program e), { w with state })
    | (.ok child, state) =>
      (.ok child,
        { w with state }.handOver child (command.stdin.ends ++ command.stdout.ends))

/-- Starts the process of a stage whose redirections are open. -/
def startStage (k : Kernel σ) (arguments : List String) (stdin stdout : Channel FileHandle)
    (w : World σ) : LaunchResult × World σ :=
  match arguments with
  | [] => (.error (.stage .emptyCommand), w)
  | program :: operands => k.start { program, operands, stdin, stdout } w

/-- Opens the redirections of a plan and starts its process. The input file comes
first, then the output file, then the command. -/
def openAndStart (k : Kernel σ) (plan : Plan) (w : World σ) : LaunchResult × World σ :=
  match openChannel k.openInput plan.stdin w with
  | (.error e, w) => (.error e, w)
  | (.ok stdin, w) =>
    match openChannel k.openOutput plan.stdout w with
    | (.error e, w) => (.error e, w.closeFiles stdin.files)
    | (.ok stdout, w) =>
      let (result, w) := k.startStage plan.arguments stdin stdout w
      (result, w.closeFiles (stdin.files ++ stdout.files))

/-- Launches a stage. The plan's pipe ends leave the shell with a child that was
started, or are closed. -/
def launch (k : Kernel σ) (plan : Plan) (w : World σ) : LaunchResult × World σ :=
  match k.openAndStart plan w with
  | (.ok child, w) => (.ok child, w)
  | (.error e, w) => (.error e, w.close plan.ends)

/-- The platform of a kernel. -/
def platform (k : Kernel σ) : Platform σ where
  launch := k.launch
  wait := k.wait
  print := k.print

end Kernel

end LineShell
