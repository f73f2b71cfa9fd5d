import LineShell.Tool.Basic

/-!
# Output in blocks

Most tools do not write each piece of their output at once: it is collected, written when a
block is full or before a message, and the rest is written when the tool ends.  A tool is
written as if there were no blocks and nothing could go wrong; here its program is turned into
one that writes blocks, and that complains when output was lost.

## Main definitions

* `Output` — how a tool deals with its output.
* `Output.apply` — the program with its output in blocks.
* `Tool.collected`, `Tool.direct` — the program of a tool with its output in blocks, or as it is.
-/

namespace LineShell

/-- How a tool deals with its output. -/
structure Output where
  /-- How it says something. -/
  complain : Octets → Program Unit
  /-- Its exit code when output was lost. -/
  code : Nat := 1
  /-- What it says before it ends because a full block could not be written. Without words for
  that it goes on. -/
  blockLost : Option Octets := none
  /-- Whether it says nothing more then. -/
  settles : Bool := false
  /-- What it says when the rest could not be written at the end, besides what all tools say. -/
  restLost : Option Octets := none
  /-- Whether each piece is a block. -/
  isPrompt : Bool := false
  /-- Whether what was collected is written before a message. -/
  isOrdered : Bool := true

/-- What became of the output so far. -/
structure Collected where
  /-- What has not been written yet. -/
  held : ByteArray := .empty
  /-- Whether something was lost. -/
  lost : Bool := false

namespace Output

/-- Writes bytes to the standard output. What comes next is told why that failed if it did. -/
def deliver (data : ByteArray) (next : Option Errno → Code) : Code :=
  if data.isEmpty then next none
  else Program.writeData Program.standardOutput data fun result =>
    match result with
    | .ok () => next none
    | .error e => next (some e)

/-- Closes the standard output and ends with an exit code, or with a complaint if output was
lost. That nothing is open there does not matter to a tool that has written nothing. -/
def conclude (o : Output) (code : Nat) (c : Collected) (failure : Option Errno) : Code :=
  .call (.close Program.standardOutput) fun closed =>
    let reason : Option Errno :=
      match closed with
      | .error e => some e
      | .ok () => failure
    match reason with
    | none => if c.lost then o.complain "write error" fun () => .exit o.code else .exit code
    | some e =>
      if c.lost || !c.held.isEmpty || e ≠ .EBADF then
        o.complain ("write error: " ++ e.text) fun () => .exit o.code
      else .exit code

/-- Writes what is left at the end. -/
def finish (o : Output) (code : Nat) (c : Collected) : Code :=
  deliver c.held fun failure =>
    match failure, o.restLost with
    | some e, some text =>
      o.complain (text ++ ": " ++ e.text) fun () => conclude o o.code { lost := true } none
    | _, _ => conclude o code c failure

/-- The program with its output in blocks, after what became of the output so far. -/
def apply (o : Output) : Code → Collected → Code
  | .exit code, c => o.finish code c
  | .fork child next, c => .fork child fun id => o.apply (next id) c
  | .call (.write 1 data) next, c =>
    let all := c.held ++ data
    let full := if o.isPrompt then all.size else all.size / Program.blockSize * Program.blockSize
    if full = 0 then o.apply (next (.ok data.size)) { c with held := all }
    else deliver (all.extract 0 full) fun failure =>
      match failure, o.blockLost with
      | none, _ => o.apply (next (.ok data.size)) { c with held := all.extract full all.size }
      | some _, none =>
        o.apply (next (.ok data.size)) { held := all.extract full all.size, lost := true }
      | some e, some text =>
        o.complain (text ++ ": " ++ e.text) fun () => o.finish o.code { lost := !o.settles }
  | .call (.write 2 data) next, c =>
    if o.isOrdered then
      deliver c.held fun failure => .call (.write 2 data) fun answer =>
        o.apply (next answer) { lost := c.lost || failure.isSome }
    else .call (.write 2 data) fun answer => o.apply (next answer) c
  | .call call next, c => .call call fun answer => o.apply (next answer) c

end Output

namespace Tool

/-- The program of a tool whose output is not collected. -/
def direct (run : Invocation → Program Nat) (i : Invocation) : Code := (run i).code

/-- The program of a tool whose output is collected in blocks. -/
def collected (run : Invocation → Program Nat) (code : Nat := 1)
    (adjust : Output → Output := id) (i : Invocation) : Code :=
  (adjust { complain := complain i, code }).apply (run i).code {}

/-- The output of tools that end with words of their own, and no others, when a block cannot be
written. -/
def settled (text : Octets) (o : Output) : Output :=
  { o with blockLost := some text, settles := true }

/-- The output of tools that end when a block cannot be written. -/
def hasty (o : Output) : Output := { o with blockLost := some "write error" }

/-- What tools with a name for their standard output say when it cannot be written. -/
def namedOutput : Output → Output := settled "error writing 'standard output'"

end Tool

end LineShell
