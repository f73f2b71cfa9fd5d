import LineShell.Machine.Store

/-!
# Images

To start a program the machine needs its image: the program that really runs, and the
arguments that it gets.  A file that begins with `#!` names the program that interprets
it.  A name without a slash is looked for in the directories of the search path.

## Main definitions

* `Image` — a program with its arguments.
* `Interpreter.ofContent?` — the interpreter that a file names.
* `Store.image` — the image of a program file.
* `pathsIn`, `candidates` — the files tried for a name.
* `searchFrom`, `search` — the search among them.

## Main results

* `exists_of_search_ok` — what a search finds is at one of the paths.
-/

namespace LineShell

/-- A program that comes with the machine and all its arguments, the name it was called
by first. -/
structure Image where
  /-- The name of the program. -/
  program : Octets
  /-- The arguments. -/
  arguments : List Octets
deriving DecidableEq, Repr

/-! ### Interpreters -/

/-- The program that interprets a file, with at most one argument. -/
structure Interpreter where
  /-- The path of the program. -/
  path : Octets
  /-- The argument before the name of the file. -/
  argument : Option Octets
deriving DecidableEq, Repr

namespace Interpreter

/-- Whether a byte is a space or a tab. -/
def isGap (c : Char) : Bool := c = ' ' || c = '\t'

/-- Whether a byte ends a word. -/
def endsWord (c : Char) : Bool := isGap c || c = '\x00'

/-- The part of a file in which its interpreter is named, in bytes. -/
def longestHeader : Nat := 256

/-- The interpreter in a line: a word, and the rest up to a NUL byte, without the
spaces and tabs around it. -/
def ofLine? (line : Octets) : Option Interpreter :=
  let line := ((line.dropWhile isGap).reverse.dropWhile isGap).reverse
  let path := line.takeWhile (!endsWord ·)
  let after := line.drop path.length
  let argument := if after.head?.any isGap then after.dropWhile isGap else []
  if line.isEmpty then none
  else some {
    path
    argument := if argument.isEmpty then none else some (argument.takeWhile (· ≠ '\x00')) }

/-- The line after `#!`, where what follows the end of a file reads as NUL bytes. A line
that does not end within the header counts as long as its first word does. -/
def headerLine? (rest : Octets) : Option Octets :=
  let header := (rest ++ List.replicate longestHeader '\x00').take (longestHeader - 2)
  if header.contains Octets.lineFeed then some (header.takeWhile (· ≠ Octets.lineFeed))
  else if (header.dropWhile isGap).any endsWord then some header.dropLast
  else none

/-- The interpreter that a file names, if it does. -/
def ofContent? (data : ByteArray) : Option Interpreter :=
  match Octets.ofData (data.extract 0 longestHeader) with
  | '#' :: '!' :: rest => (headerLine? rest).bind ofLine?
  | _ => none

end Interpreter

/-! ### Images of files -/

/-- The longest argument, in bytes. -/
def longestArgument : Nat := 131071

/-- The number of interpreters that may interpret each other. -/
def mostInterpreters : Nat := 5

namespace Store

/-- The program file at a path, which one must be allowed to run. Files for which `busy`
holds are being written. -/
def programFile (s : Store) (here : NodeId) (busy : NodeId → Bool) (path : Octets) :
    Except Errno NodeId :=
  match s.locate here path with
  | .error errno => .error errno
  | .ok id =>
    match s.content? id with
    | some (.program _) | some (.file _) =>
      if !s.allows id .enter then .error .EACCES
      else if busy id then .error .ETXTBSY
      else .ok id
    | _ => .error .EACCES

/-- The image of a program file, called by a path and with the given arguments. An
interpreter must be a program file even if it is one too many. -/
def imageFrom (s : Store) (here : NodeId) (busy : NodeId → Bool) (interpreters : Nat)
    (id : NodeId) (path : Octets) (arguments : List Octets) : Except Errno Image :=
  if arguments.any (·.length > longestArgument) then .error .E2BIG
  else match s.content? id with
    | some (.program name) => .ok ⟨name, arguments⟩
    | some (.file data) =>
      match Interpreter.ofContent? data with
      | none => .error .ENOEXEC
      | some interpreter =>
        -- An empty path leads to the directory one is in.
        let next := if interpreter.path.isEmpty then ['.'] else interpreter.path
        match s.programFile here busy next with
        | .error errno => .error errno
        | .ok id =>
          match interpreters with
          | 0 => .error .ELOOP
          | interpreters + 1 =>
            s.imageFrom here busy interpreters id next
              (interpreter.path :: interpreter.argument.toList ++ path :: arguments.tail)
    | _ => .error .EACCES

/-- The image of the program file at a path, called with the given arguments. -/
def image (s : Store) (here : NodeId) (busy : NodeId → Bool) (path : Octets)
    (arguments : List Octets) : Except Errno Image :=
  match s.programFile here busy path with
  | .error errno => .error errno
  | .ok id => s.imageFrom here busy mostInterpreters id path arguments

end Store

/-! ### The search path -/

/-- The directories that are searched when there is no search path. -/
def defaultSearchPath : Octets := "/bin:/usr/bin"

/-- The entries of a search path. An entry that does not fit into a path counts as empty,
and nothing is tried for it if it is the last one. -/
def searchEntries (searchPath : Octets) : List Octets :=
  let entries := Octets.splitOn ':' searchPath
  let overlong (entry : Octets) : Bool := entry.length > Path.longest
  let entries := if entries.getLast?.any overlong then entries.dropLast else entries
  entries.map fun entry => if overlong entry then [] else entry

/-- The file in the directory of an entry. An empty entry is the directory one is in. -/
def inEntry (entry name : Octets) : Octets :=
  if entry.isEmpty then name else entry ++ '/' :: name

/-- The paths tried for a program name in the directories of some entries, in order. A name
with a slash is a path. -/
def pathsIn (entries : List Octets) (name : Octets) : List Octets :=
  if name.contains '/' then [name] else entries.map (inEntry · name)

theorem pathsIn_of_slash {name : Octets} (h : '/' ∈ name) (entries : List Octets) :
    pathsIn entries name = [name] := by
  have hcontains : name.contains '/' = true := List.contains_iff_mem.mpr h
  rw [pathsIn, if_pos hcontains]

theorem pathsIn_of_not_slash {name : Octets} (h : '/' ∉ name) (entries : List Octets) :
    pathsIn entries name = entries.map (inEntry · name) := by
  have hcontains : ¬ name.contains '/' = true := fun hc => h (List.contains_iff_mem.mp hc)
  rw [pathsIn, if_neg hcontains]

/-- The paths tried for a program name, in order. -/
def candidates (searchPath : Option Octets) (name : Octets) : List Octets :=
  pathsIn (searchEntries (searchPath.getD defaultSearchPath)) name

/-- The errors after which the search goes on. -/
def passedOver : List Errno := [.EACCES, .ENOENT, .ESTALE, .ENOTDIR, .ENODEV, .ETIMEDOUT]

/-- The first candidate that runs, or the first error that ends the search, which those in
`passed` do not. When all candidates were passed over, a file that may not be executed is
reported before one that does not exist; `denied` tells whether there was one, and `last` is
the error before. -/
def searchFrom {α : Type} (passed : List Errno) (attempt : Octets → Except Errno α)
    (denied : Bool) (last : Errno) : List Octets → Except Errno α
  | [] => .error (if denied then .EACCES else last)
  | candidate :: rest =>
    match attempt candidate with
    | .ok a => .ok a
    | .error errno =>
      if errno ∈ passed then
        searchFrom passed attempt (denied || errno = .EACCES) errno rest
      else .error errno

/-- Searches the candidates for a program name. -/
def search {α : Type} (attempt : Octets → Except Errno α) (searchPath : Option Octets)
    (name : Octets) : Except Errno α :=
  if name.isEmpty then .error .ENOENT
  else if name.contains '/' then attempt name
  else if name.length > Path.longestName then .error .ENAMETOOLONG
  else searchFrom passedOver attempt false .ENOENT (candidates searchPath name)

section Found

variable {α : Type} {attempt : Octets → Except Errno α} {a : α}

theorem exists_of_searchFrom_ok {passed : List Errno} {denied : Bool} {last : Errno}
    {paths : List Octets} (h : searchFrom passed attempt denied last paths = .ok a) :
    ∃ path ∈ paths, attempt path = .ok a := by
  induction paths generalizing denied last with
  | nil => cases h
  | cons path paths ih =>
    rw [searchFrom] at h
    split at h
    · next hpath =>
      cases h
      exact ⟨path, List.mem_cons_self, hpath⟩
    · split at h
      · obtain ⟨other, hmem, hother⟩ := ih h
        exact ⟨other, List.mem_cons_of_mem _ hmem, hother⟩
      · cases h

/-- What a search finds is at one of the paths. -/
theorem exists_of_search_ok {searchPath : Option Octets} {name : Octets}
    (h : search attempt searchPath name = .ok a) : ∃ path, attempt path = .ok a := by
  unfold search at h
  split at h
  · cases h
  · split at h
    · exact ⟨name, h⟩
    · split at h
      · cases h
      · obtain ⟨path, -, hpath⟩ := exists_of_searchFrom_ok h
        exact ⟨path, hpath⟩

end Found

end LineShell
