import LineShell.Script.Builtin.Basic
import LineShell.Script.Field

/-!
# The builtin that reads

A line is read byte by byte, so that what follows it is left to others.

## Main definitions

* `Builtin.read` — reads a line into variables.
-/

namespace LineShell.Script

open Shell

namespace Builtin

/-- Reads a line byte by byte. A backslash protects a byte or joins two lines unless `isRaw` holds.
The flag tells whether the line was ended. -/
def readLine (isRaw isEscaped : Bool) (done : List Cell) : Nat → Shell (List Cell × Bool)
  | 0 => pure (done.reverse, false)
  | steps + 1 => do
    match ← call (.read Program.standardInput 1) with
    | .error _ => pure (done.reverse, false)
    | .ok data =>
      match Octets.ofData data with
      | [] => pure (done.reverse, false)
      | c :: _ =>
        if c = '\x00' then readLine isRaw isEscaped done steps
        else if isEscaped then
          readLine isRaw false (if c = '\n' then done else .quoted c :: done) steps
        else if c = '\\' && !isRaw then readLine isRaw true done steps
        else if c = '\n' then pure (done.reverse, true)
        else readLine isRaw false (.result c :: done) steps

/-- Gives variables the fields of a line. -/
def setFields : List Octets → List Octets → Shell Unit
  | [], _ => pure ()
  | name :: names, fields => do
    setVariable name (fields.headD [])
    setFields names fields.tail

/-- Reads a line into variables. -/
def read (arguments : List Octets) : Shell Nat := do
  let (options, names) ← takeOptions ['p', ':', 'r'] arguments
  if names.isEmpty then fail "arg count"
  else
    let (line, isEnded) ← readLine (options.any (·.1 = 'r')) false [] Program.forever
    setFields names (linesFields (← get).separators names.length line)
    pure (if isEnded then 0 else 1)

end Builtin

end LineShell.Script
