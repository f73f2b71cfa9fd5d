import LineShell.Errno
import LineShell.Text.Octets

/-!
# Paths

A path is a string in which names are separated by slashes.

## Main definitions

* `Path.names` — the names in a path.
* `Path.isAbsolute`, `Path.endsWithSlash` — what the slashes at its ends say.
* `Path.refusal?` — why the system refuses a path whatever files there are.
* `Path.base`, `Path.directory` — the last name in a path, and what comes before it.
-/

namespace LineShell.Path

/-- The longest path, in bytes. -/
def longest : Nat := 4095

/-- The longest name in a path, in bytes. -/
def longestName : Nat := 255

/-- The names in a path, in order. Slashes without a name between them count as one. -/
def names (path : Octets) : List Octets := (Octets.splitOn '/' path).filter (· ≠ [])

/-- Whether a path starts at the root. -/
def isAbsolute (path : Octets) : Bool := path.head? = some '/'

/-- Whether a path ends with a slash, and so must lead to a directory. -/
def endsWithSlash (path : Octets) : Bool := path.getLast? = some '/'

/-- Why the system refuses a path whatever files there are. -/
def refusal? (path : Octets) : Option Errno :=
  if path.isEmpty then some .ENOENT
  else if path.length > longest then some .ENAMETOOLONG
  else none

/-- A path without the slashes at its end; of a path of slashes one is left. -/
def dropSlashes (path : Octets) : Octets :=
  let body := (path.reverse.dropWhile (· = '/')).reverse
  if body.isEmpty then path.take 1 else body

/-- The last name in a path; a path of slashes is its own last name. -/
def base (path : Octets) : Octets :=
  let path := dropSlashes path
  if path = ['/'] then path else (path.reverse.takeWhile (· ≠ '/')).reverse

/-- What comes before the last name in a path. -/
def directory (path : Octets) : Octets :=
  let path := dropSlashes path
  let before := (path.reverse.dropWhile (· ≠ '/')).reverse
  if before.isEmpty then ['.'] else dropSlashes before

/-- A path to a name in a directory. -/
def within (directory name : Octets) : Octets :=
  if endsWithSlash directory then directory ++ name else directory ++ '/' :: name

end LineShell.Path
