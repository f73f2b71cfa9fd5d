import LineShell.Machine.Call
import LineShell.Text.Quoted

/-!
# What tools have in common

The tools that come with the machine read files or their standard input, write to their
standard output, and complain to their standard error in the name they were called by.

## Main definitions

* `Tool` — a tool.
* `Program.write`, `Program.readAll` — all of what is to be written or can be read.
* `Tool.complain`, `Tool.adviseOnly`, `Tool.print` — messages and output of a tool.
* `Tool.openOperand` — opens a file that a tool is to read.
-/

namespace LineShell

/-- A tool that comes with the machine. -/
structure Tool where
  /-- Its name. -/
  name : String
  /-- Its program when it is called. -/
  run : Invocation → Code

/-- The wording of an error number. -/
def Errno.text (e : Errno) : Octets := e.message

namespace Program

/-! ### Input and output -/

/-- Writes bytes in at most `count` calls. -/
def writeFrom (descriptor : Nat) : Nat → ByteArray → Program (Except Errno Unit)
  | 0, _ => pure (.ok ())
  | count + 1, data =>
    if data.isEmpty then pure (.ok ())
    else do
      match ← call (.write descriptor data) with
      | .error e => pure (.error e)
      | .ok written => writeFrom descriptor count (data.extract written data.size)

/-- Writes bytes, all of them. -/
def writeData (descriptor : Nat) (data : ByteArray) : Program (Except Errno Unit) :=
  writeFrom descriptor forever data

/-- Writes a string. -/
def write (descriptor : Nat) (text : Octets) : Program (Except Errno Unit) :=
  writeData descriptor text.toData

/-- The number of bytes that are read at once. -/
def blockSize : Nat := 4096

/-- Reads to the end, after what was read already. -/
def readFrom (descriptor : Nat) : Nat → ByteArray → Program (Except Errno ByteArray)
  | 0, held => pure (.ok held)
  | count + 1, held => do
    match ← call (.read descriptor (16 * blockSize)) with
    | .error e => pure (.error e)
    | .ok block =>
      if block.isEmpty then pure (.ok held) else readFrom descriptor count (held ++ block)

/-- Reads all that is left of a descriptor. -/
def readAll (descriptor : Nat) : Program (Except Errno ByteArray) :=
  readFrom descriptor forever .empty

/-- Hands the blocks of a descriptor to a step, which passes a state on. The result is the
last state, and why reading failed if it did. -/
def foldBlocks {σ : Type} (descriptor : Nat) (size : Nat) (f : σ → ByteArray → Program σ) :
    Nat → σ → Program (σ × Option Errno)
  | 0, s => pure (s, none)
  | count + 1, s => do
    match ← call (.read descriptor size) with
    | .error e => pure (s, some e)
    | .ok block =>
      if block.isEmpty then pure (s, none)
      else do
        let s ← f s block
        foldBlocks descriptor size f count s

/-- The standard streams. -/
def standardInput : Nat := 0

/-- The standard output. -/
def standardOutput : Nat := 1

/-- The standard error. -/
def standardError : Nat := 2

/-- Opens a file. -/
def openFile (path : Octets) (mode : OpenMode) : Program (Except Errno Nat) :=
  call (.openFile path mode 0o666)

/-- Closes a descriptor. -/
def close (descriptor : Nat) : Program Unit := do
  let _ ← call (.close descriptor)

end Program

namespace Tool

open Program

/-! ### Messages -/

/-- Writes a line to the standard error in the name of a tool. -/
def complain (i : Invocation) (text : Octets) : Program Unit := do
  let _ ← write standardError (i.name ++ ": " ++ text ++ "\n")

/-- Writes where to find help about a tool, and ends. -/
def adviseOnly {α : Type} (i : Invocation) (code : Nat := 1) : Program α := do
  let _ ← write standardError ("Try '" ++ i.name ++ " --help' for more information.\n")
  Program.exit code

/-- Complains and ends. -/
def fail {α : Type} (i : Invocation) (text : Octets) (code : Nat := 1) : Program α := do
  complain i text
  Program.exit code

/-- Complains about the way in which the tool was called, and ends. -/
def misuse {α : Type} (i : Invocation) (text : Octets) (code : Nat := 1) : Program α := do
  complain i text
  adviseOnly i code

/-- Writes to the standard output. If that fails there is nothing more to do. -/
def print (i : Invocation) (text : Octets) (code : Nat := 1) : Program Unit := do
  match ← write standardOutput text with
  | .ok () => pure ()
  | .error e => fail i ("write error: " ++ e.text) code

/-- Writes bytes to the standard output. -/
def printData (i : Invocation) (data : ByteArray) (code : Nat := 1) : Program Unit := do
  match ← writeData standardOutput data with
  | .ok () => pure ()
  | .error e => fail i ("write error: " ++ e.text) code

/-! ### Operands -/

/-- The operand that stands for the standard input. -/
def dash : Octets := ['-']

/-- The files that are named, or else the standard input. -/
def orStandard (names : List Octets) : List Octets := if names.isEmpty then [dash] else names

/-- The name of an input in messages. -/
def inputName (name : Octets) : Octets := if name = dash then "standard input" else name

/-- Why an input cannot be opened. -/
def openFailure (name : Octets) (e : Errno) : Octets :=
  "cannot open " ++ Octets.shellQuoted name ++ " for reading: " ++ e.text

/-- The descriptor of an operand that is to be read. -/
def openOperand (name : Octets) : Program (Except Errno Nat) :=
  if name = dash then pure (.ok standardInput) else openFile name .input

/-- Closes the descriptor of an operand, unless it is the standard input. -/
def closeOperand (name : Octets) (descriptor : Nat) : Program Unit :=
  if name = dash then pure () else close descriptor

/-- Closes the standard input at the end if it was among the operands. -/
def closeInput (i : Invocation) (names : List Octets) (text : Octets) (code : Nat) :
    Program Nat := do
  if !names.contains dash then pure code
  else match ← call (.close standardInput) with
    | .ok () => pure code
    | .error e => fail i (text ++ ": " ++ e.text)

/-- What an operand holds. -/
def readOperand (name : Octets) : Program (Except Errno ByteArray) := do
  match ← openOperand name with
  | .error e => pure (.error e)
  | .ok descriptor =>
    let data ← readAll descriptor
    closeOperand name descriptor
    pure data

/-- Does something for each of some operands, and says whether it went well for all of
them: 0 if so, else 1. -/
def forAll {α : Type} (f : α → Program Bool) : List α → Program Nat
  | [] => pure 0
  | a :: rest => do
    let well ← f a
    let code ← forAll f rest
    pure (if well then code else 1)

/-! ### Lines as they come -/

/-- The part of a line that was read, the last byte first. -/
abbrev Unfinished := Octets

/-- The lines in a block of bytes after the part of a line, and the part that is left. The
lines found so far are in `done`, the last one first. -/
def cutLines (separator : Char) (done : List Octets) (held : Unfinished) :
    Octets → List Octets × Unfinished
  | [] => (done.reverse, held)
  | c :: rest =>
    if c = separator then cutLines separator (held.reverse :: done) [] rest
    else cutLines separator done (c :: held) rest

/-- Hands the lines of a descriptor to a step, as many at once as there are; the last line may
have no end, which is then told. The result is the last state and the reason why reading
failed. -/
def foldLines {σ : Type} (descriptor : Nat) (separator : Char)
    (f : σ → List Octets → Program σ) (last : σ → Octets → Program σ) (s : σ) :
    Program (σ × Option Errno) := do
  let ((s, held), failure) ← foldBlocks descriptor (8 * blockSize)
    (fun (s, held) block => do
      let (lines, held) := cutLines separator [] held (Octets.ofData block)
      let s ← if lines.isEmpty then pure s else f s lines
      pure (s, held)) forever ((s, []) : σ × Unfinished)
  if held.isEmpty then pure (s, failure)
  else do
    let s ← last s held.reverse
    pure (s, failure)

end Tool

end LineShell
