import LineShell.CommandLine
import LineShell.Machine

/-!
# The program

The program as it is called: on a machine whose standard input holds what the real
one delivers, and whose output goes to the real standard streams.

## Main definitions

* `callProgram` — a call of the program with real streams.
* `main` — the entry point.
-/

namespace LineShell

/-- Reads a stream to its end; `held` is what was read before. -/
partial def readToEnd (stream : IO.FS.Stream) (held : ByteArray) : IO ByteArray := do
  let block ← stream.read 65536
  if block.isEmpty then return held else readToEnd stream (held ++ block)

/-- Calls the program in an empty directory and passes on what is written there. -/
def callProgram (arguments : List String) : IO UInt8 := do
  let input ← readToEnd (← IO.getStdin) ByteArray.empty
  let terminal ← IO.getEnv "TERM"
  let call : ProgramCall := { arguments, terminal }
  let machine := Machine.furnished [] input (Machine.environmentOf (← IO.getEnv "PATH") terminal)
  let (code, w) := run Machine.platform Machine.editor call { state := machine }
  (← IO.getStdout).write w.state.output
  (← IO.getStderr).write w.state.errors
  return code

end LineShell

/-- The entry point: the exit code is that of the call. -/
def main (arguments : List String) : IO UInt32 := do
  return (← LineShell.callProgram arguments).toUInt32
