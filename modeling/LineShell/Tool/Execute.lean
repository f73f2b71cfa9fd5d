import LineShell.Environment
import LineShell.Machine.Call
import LineShell.Machine.Image

/-!
# Becoming another program

A tool may become another program, which is given by its path or looked for by its name.

## Main definitions

* `Program.executePath` — becomes the program at a path.
* `Program.executeFound` — becomes the program of a name that is looked for in the search path.
-/

namespace LineShell

namespace Program

/-- The shell that interprets files without a header. -/
def standardShell : Octets := "/bin/sh"

/-- Becomes the program at a path. A file without a header is interpreted by the shell. -/
def executePath (path : Octets) (arguments environment : List Octets) : Program Errno := do
  match ← call (.execute path arguments environment) with
  | .ENOEXEC =>
    call (.execute standardShell (standardShell :: path :: arguments.tail) environment)
  | e => pure e

/-- Becomes the first program at one of some paths that can be run; the rules are those of
`searchFrom`. -/
def executeFirst (arguments environment : List Octets) (denied : Bool) (last : Errno) :
    List Octets → Program Errno
  | [] => pure (if denied then .EACCES else last)
  | path :: rest => do
    let e ← executePath path arguments environment
    if e ∈ passedOver then
      executeFirst arguments environment (denied || e = .EACCES) e rest
    else pure e

/-- Becomes the program of a name. There is a value only if that fails. -/
def executeFound (name : Octets) (arguments environment : List Octets) : Program Errno :=
  if name.isEmpty then pure .ENOENT
  else if name.contains '/' then executePath name arguments environment
  else if name.length > Path.longestName then pure .ENAMETOOLONG
  else executeFirst arguments environment false .ENOENT
    (candidates (Environment.value? "PATH" environment) name)

end Program

end LineShell
