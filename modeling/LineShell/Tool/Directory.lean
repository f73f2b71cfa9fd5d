import LineShell.Tool.Mode

/-!
# Directories

`mkdir` and `rmdir` make and remove directories.

## Main definitions

* `Tool.mkdir`, `Tool.rmdir` — the tools.
-/

namespace LineShell

namespace Program

/-- Whether a path leads to a directory. -/
def isDirectory (path : Octets) : Program Bool := do
  match ← call (.status path true) with
  | .ok status => pure (status.kind = .directory)
  | .error _ => pure false

end Program

namespace Tool

/-! ### mkdir -/

/-- The paths to the directories in a path, from the first on. -/
def ancestors (path : Octets) : List Octets :=
  let path := Path.dropSlashes path
  (List.range path.length).filterMap fun n =>
    if n > 0 && path[n]? = some '/' && path[n - 1]? ≠ some '/' then some (path.take n) else none

namespace Mkdir

/-- What the options say. -/
structure Settings where
  parents : Bool := false
  tells : Bool := false
  mode : Option Octets := none
deriving DecidableEq, Repr

/-- Why a directory is not made. -/
def failure (path : Octets) (e : Errno) : Octets :=
  "cannot create directory " ++ Octets.shellQuoted path ++ ": " ++ e.text

/-- Tells that a directory was made. -/
def tell (i : Invocation) (s : Settings) (path : Octets) : Program Unit :=
  if s.tells then print i (i.name ++ ": created directory " ++ Octets.shellQuoted path ++ "\n")
  else pure ()

/-- Makes the directories that a path leads through, as far as they do not exist. -/
def makeParents (i : Invocation) (s : Settings) : List Octets → Program Bool
  | [] => pure true
  | path :: rest => do
    match ← Program.call (.makeDirectory path 0o777) with
    | .ok () =>
      tell i s path
      makeParents i s rest
    | .error e =>
      if ← Program.isDirectory path then makeParents i s rest
      else
        complain i (failure path (if e = .EEXIST then .ENOTDIR else e))
        pure false

/-- Makes a directory. -/
def make (i : Invocation) (s : Settings) (mode : Option ModeChange) (path : Octets) :
    Program Bool := do
  let ready ← if s.parents then makeParents i s (ancestors path) else pure true
  if !ready then pure false
  else match ← Program.call (.makeDirectory path 0o777) with
    | .ok () =>
      tell i s path
      match mode with
      | some change =>
        let mask ← Program.currentMask
        let _ ← Program.call (.changeMode path (change.apply mask true 0o777))
        pure true
      | none => pure true
    | .error e =>
      let isThere ← if s.parents then Program.isDirectory path else pure false
      if isThere then pure true
      else
        complain i (failure path e)
        pure false

/-- Takes an option into account. -/
def set (s : Settings) (key : Char) (value : Option Octets) : Except Refusal Settings :=
  match key with
  | 'p' => .ok { s with parents := true }
  | 'v' => .ok { s with tells := true }
  | 'm' => .ok { s with mode := value }
  | _ => .ok s

/-- The options. -/
def grammar : Grammar where
  letters := "pm:vZ"
  long := [⟨"context", .optional, 'Z'⟩, ⟨"mode", .required, 'm'⟩, ⟨"parents", .none, 'p'⟩,
    ⟨"verbose", .none, 'v'⟩]

end Mkdir

/-- Makes directories. -/
def mkdir (i : Invocation) : Program Nat :=
  withSettings Mkdir.grammar i i.operands {} Mkdir.set fun s operands => do
    if operands.isEmpty then misuse i "missing operand"
    match s.mode with
    | none => forAll (Mkdir.make i s none) operands
    | some text =>
      match ModeChange.parse text with
      | some change => forAll (Mkdir.make i s (some change)) operands
      | none => fail i ("invalid mode " ++ Octets.quoted text)

/-! ### rmdir -/

namespace Rmdir

/-- Removes a directory, and then the directories in its path. -/
def remove (i : Invocation) (p : Parsed) (isFirst : Bool) : List Octets → Program Bool
  | [] => pure true
  | path :: rest => do
    if p.has 'v' then
      print i (i.name ++ ": removing directory, " ++ Octets.shellQuoted path ++ "\n")
    match ← Program.call (.removeDirectory path) with
    | .ok () => remove i p false rest
    | .error e =>
      if p.has 'I' && e = .ENOTEMPTY then pure true
      else
        let what : Octets := if isFirst then "failed to remove " else "failed to remove directory "
        complain i (what ++ Octets.shellQuoted path ++ ": " ++ e.text)
        pure false

end Rmdir

/-- Removes empty directories. -/
def rmdir (i : Invocation) : Program Nat :=
  let grammar : Grammar := {
    letters := "pv"
    long := [⟨"ignore-fail-on-non-empty", .none, 'I'⟩, ⟨"path", .none, 'p'⟩,
      ⟨"parents", .none, 'p'⟩, ⟨"verbose", .none, 'v'⟩] }
  withOptions grammar i i.operands fun p =>
    if p.operands.isEmpty then misuse i "missing operand"
    else forAll (fun path =>
      Rmdir.remove i p true (path :: if p.has 'p' then (ancestors path).reverse else [])) p.operands

end Tool

end LineShell
