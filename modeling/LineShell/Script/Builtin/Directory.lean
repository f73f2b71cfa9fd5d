import LineShell.Script.Builtin.Basic
import LineShell.Tool.Mode

/-!
# Builtins for directories and permissions

The shell keeps the path by which it has reached the directory that it is in, so that a step
back to a parent goes where that path came from, even through a symbolic link.

## Main definitions

* `Builtin.simplify` — a path without points and without steps back.
* `Builtin.changeDirectory`, `Builtin.showDirectory` — goes to a directory, and shows it.
* `Builtin.mask` — the permission bits that new files do not get.
-/

namespace LineShell.Script

open Shell

namespace Builtin

/-! ### Directories -/

/-- What a path begins with. Two slashes there are kept, but no more of them. -/
def rootOf (path : Octets) : Octets :=
  match path with
  | '/' :: '/' :: '/' :: _ => ['/']
  | '/' :: '/' :: _ => ['/', '/']
  | _ => ['/']

/-- A path without points and without steps back to a parent. -/
def simplify (path : Octets) : Octets :=
  let parts := (Octets.splitOn '/' path).foldl (fun (done : List Octets) part =>
    if part.isEmpty || part = ['.'] then done
    else if part = ['.', '.'] then done.tail
    else part :: done) []
  rootOf path ++ Octets.join ['/'] parts.reverse

/-- The directory that a path leads to from another one. -/
def fromHere (here path : Octets) : Octets :=
  if path.head? = some '/' then simplify path
  else simplify (here ++ (if here.getLast? = some '/' then [] else ['/']) ++ path)

/-- Gives a variable a value for the shell and its programs. -/
def exportVariable (name value : Octets) : Shell Unit := do
  setVariable name value
  change name ({ · with isExported := true })

/-- Goes to a directory. With `isPhysical` symbolic links do not count as directories of their
own. -/
def goTo (isPhysical : Bool) (path : Octets) : Shell Bool := do
  let s ← get
  let target := fromHere s.here path
  match ← call (.enter (if isPhysical then path else target)) with
  | .error _ => pure false
  | .ok () =>
    let here ←
      if isPhysical then do
        pure ((← call .whereabouts).toOption.getD target)
      else pure target
    exportVariable "OLDPWD" s.here
    modify ({ · with here })
    exportVariable "PWD" here
    pure true

/-- Tries directories of a search path. The flag tells whether the directory was found by one that
has a name. -/
def goThrough (isPhysical : Bool) (path : Octets) : List Octets → Shell (Option Bool)
  | [] => do pure (if ← goTo isPhysical path then some false else none)
  | directory :: rest => do
    let full := inDirectory directory path
    match ← call (.status full true) with
    | .ok status =>
      if status.kind == .directory then
        pure (if ← goTo isPhysical full then some !directory.isEmpty else none)
      else goThrough isPhysical path rest
    | .error _ => goThrough isPhysical path rest

/-- Whether links count as what they lead to. The last option decides. -/
def asksForPhysical (options : List (Char × Octets)) : Bool :=
  (options.getLast?).any (·.1 = 'P')

/-- Whether a path is not looked for in a search path. -/
def isFixedPath (path : Octets) : Bool :=
  path.head? = some '/' || path = ['.'] || path = ['.', '.'] || ['.', '/'].isPrefixOf path ||
    ['.', '.', '/'].isPrefixOf path

/-- Changes the directory. -/
def changeDirectory (arguments : List Octets) : Shell Nat := do
  let (options, arguments) ← takeOptions ['L', 'P'] arguments
  let isPhysical := asksForPhysical options
  let s ← get
  let isReturn := arguments.head? = some ['-']
  let path : Octets :=
    match arguments with
    | [] => s.lookUp "HOME"
    | path :: _ => if isReturn then s.lookUp "OLDPWD" else path
  let path := if path.isEmpty then ['.'] else path
  let directories :=
    if isFixedPath path then []
    else ((s.lookUp? "CDPATH").map (Octets.splitOn ':')).getD []
  match ← goThrough isPhysical path directories with
  | none => fail ("can't cd to " ++ path)
  | some isNamed =>
    modify State.afterMove
    if isReturn || isNamed then emit ((← get).here ++ ['\n']) else pure 0

/-- Shows the directory. -/
def showDirectory (arguments : List Octets) : Shell Nat := do
  let (options, _) ← takeOptions ['L', 'P'] arguments
  if asksForPhysical options then
    match ← call .whereabouts with
    | .ok path => emit (path ++ ['\n'])
    | .error e => fail e.text
  else emit ((← get).here ++ ['\n'])

/-! ### Permissions -/

/-- All permission bits. -/
def allBits : Nat := 0o777

/-- The permissions that are left by a mask, for everybody. -/
def shownPermissions (bits : Nat) : Octets :=
  let shown (shift : Nat) : Octets :=
    let kept := (bits >>> shift &&& 7) ^^^ 7
    (if kept &&& 4 ≠ 0 then ['r'] else []) ++ (if kept &&& 2 ≠ 0 then ['w'] else []) ++
      (if kept &&& 1 ≠ 0 then ['x'] else [])
  "u=" ++ shown 6 ++ ",g=" ++ shown 3 ++ ",o=" ++ shown 0

/-- The mask that an argument asks for. Other than by digits, it is given by what it leaves. -/
def maskOf (bits : Nat) (text : Octets) : Shell Nat :=
  if text.head?.any Char.isDigit then
    if text.all fun c => '0' ≤ c && c ≤ '7' then
      pure (text.foldl (fun n c => n * 8 + (c.toNat - '0'.toNat)) 0 &&& allBits)
    else fail ("Illegal number: " ++ text)
  else
    let clauses := if text.getLast? = some ',' then text.dropLast else text
    match ModeChange.parse clauses with
    | some change => pure (allBits ^^^ (change.apply 0 false (allBits ^^^ bits) &&& allBits))
    | none => fail ("Illegal mode: " ++ text)

/-- Shows or sets the permissions that new files do not get. -/
def mask (arguments : List Octets) : Shell Nat := do
  let (options, operands) ← takeOptions ['S'] arguments
  let bits ← call (.mask 0)
  let _ ← call (.mask bits)
  match operands with
  | [] =>
    let shown : Octets :=
      if options.isEmpty then Octets.padLeft 4 (Nat.toDigits 8 bits) '0'
      else shownPermissions bits
    emit (shown ++ ['\n'])
  | text :: _ =>
    let bits ← maskOf bits text
    let _ ← call (.mask bits)
    pure 0

end Builtin

end LineShell.Script
