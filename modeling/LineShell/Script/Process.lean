import LineShell.Script.State
import LineShell.Tool.Execute

/-!
# Files and processes of a shell

A shell opens files in place of its descriptors and restores these later, starts children,
waits for them, and may become another program.

## Main definitions

* `Target`, `Shell.redirectAll`, `Shell.restoreAll` — redirections.
* `Shell.start`, `Shell.finish` — children.
* `Found`, `Shell.findProgram`, `Shell.locate`, `Shell.become` — programs.
-/

namespace LineShell.Script

/-! ### Wording of errors -/

/-- What was to be done with a file. -/
inductive Intent where
  | open
  | create
  | run
deriving DecidableEq, Repr

/-- The wording of an error number. A path that leads nowhere is described by what was to be
done. -/
def errorText (intent : Intent) (e : Errno) : Octets :=
  if e = .ENOENT || e = .ENOTDIR then
    match intent with
    | .open => "No such file"
    | .create => "Directory nonexistent"
    | .run => "not found"
  else e.text

namespace Shell

/-! ### Redirections -/

/-- The least descriptor for copies that the shell keeps for itself. -/
def leastPrivate : Nat := 10

/-- What a descriptor is to lead to. -/
inductive Target where
  | file (path : Octets) (mode : OpenMode)
  /-- A file that is written, but must not exist yet. -/
  | newFile (path : Octets)
  /-- Another descriptor. -/
  | descriptor (descriptor : Nat)
  | nothing
  /-- A text that can be read. -/
  | text (text : Octets)
  /-- Something whose failure was told already. -/
  | broken

/-- A file opened for a redirection, or a sentence about why it cannot be. -/
def openTarget (path : Octets) (mode : OpenMode) : Shell (Except Octets Nat) := do
  match ← call (.openFile path mode 0o666) with
  | .ok descriptor => pure (.ok descriptor)
  | .error e =>
    pure (.error (if mode.creates then
        "cannot create " ++ path ++ ": " ++ errorText .create e
      else "cannot open " ++ path ++ ": " ++ errorText .open e))

/-- The number of bytes that are surely written to a pipe at once. -/
def pipeSize : Nat := 4096

/-- A descriptor from which a text can be read. -/
def openText (text : Octets) : Shell (Except Octets Nat) := do
  match ← call .pipe with
  | .error _ => pure (.error "Pipe call failed")
  | .ok (input, output) =>
    if text.length ≤ pipeSize then
      put output text
    else
      let _ ← (Program.fork (do
        let _ ← Program.write output text
        pure 0) : Program ProcessId)
    let _ ← call (.close output)
    pure (.ok input)

/-- Opens a file that must not exist yet, unless it is no regular file. -/
def openNew (path : Octets) : Shell (Except Octets Nat) := do
  match ← call (.status path true) with
  | .ok status =>
    if status.kind == .regular then
      pure (.error ("cannot create " ++ path ++ ": " ++ Errno.EEXIST.text))
    else openTarget path { writes := true }
  | .error _ => openTarget path { writes := true, creates := true, fresh := true }

/-- The descriptors that were replaced, with copies of what they led to, if they led anywhere. -/
abbrev Saved := List (Nat × Option Nat)

/-- Keeps what a descriptor leads to, and closes it. -/
def save (saved : Saved) (descriptor : Nat) : Shell Saved := do
  if saved.any (·.1 == descriptor) then pure saved
  else match ← call (.duplicate descriptor leastPrivate) with
    | .ok copy =>
      let _ ← call (.close descriptor)
      pure ((descriptor, some copy) :: saved)
    | .error _ => pure ((descriptor, none) :: saved)

/-- Lets a descriptor lead to a target. What it led to is kept if `keeps` holds. There is a sentence
about what is wrong if that fails; it is empty if that was told already. -/
def redirect (keeps : Bool) (saved : Saved) (descriptor : Nat) (target : Target) :
    Shell (Saved × Option Octets) := do
  let place (source : Nat) (isCopy : Bool) : Shell (Saved × Option Octets) := do
    if source = descriptor then
      if isCopy || !keeps then pure (saved, none)
      else pure (if saved.any (·.1 == descriptor) then saved else (descriptor, none) :: saved, none)
    else
      let saved ← if keeps then save saved descriptor else pure saved
      match ← call (.redirect source descriptor) with
      | .error e => pure (saved, some (Octets.ofNat source ++ ": " ++ e.text))
      | .ok () =>
        if !isCopy then
          let _ ← call (.close source)
        pure (saved, none)
  let opened (result : Except Octets Nat) : Shell (Saved × Option Octets) :=
    match result with
    | .ok source => place source false
    | .error text => pure (saved, some text)
  match target with
  | .file path mode => opened (← openTarget path mode)
  | .newFile path => opened (← openNew path)
  | .text text => opened (← openText text)
  | .descriptor source => place source true
  | .broken => pure (saved, some [])
  | .nothing =>
    let saved ← if keeps then save saved descriptor else pure saved
    let _ ← call (.close descriptor)
    pure (saved, none)

/-- Lets descriptors lead to targets, as far as that goes well. -/
def redirectAll (keeps : Bool) (saved : Saved) :
    List (Nat × Target) → Shell (Saved × Option Octets)
  | [] => pure (saved, none)
  | (descriptor, target) :: rest => do
    match ← redirect keeps saved descriptor target with
    | (saved, none) => redirectAll keeps saved rest
    | (saved, some text) => pure (saved, some text)

/-- Tells what is wrong with a redirection, unless that was told already. -/
def tell (text : Octets) : Shell Unit := if text.isEmpty then pure () else complain text

/-- Lets descriptors lead to where they led before. -/
def restoreAll : Saved → Shell Unit
  | [] => pure ()
  | (descriptor, copy) :: rest => do
    match copy with
    | some copy =>
      let _ ← call (.redirect copy descriptor)
      let _ ← call (.close copy)
    | none =>
      let _ ← call (.close descriptor)
    restoreAll rest

/-- Gives up the copies of what descriptors led to. -/
def forgetAll : Saved → Shell Unit
  | [] => pure ()
  | (_, copy) :: rest => do
    match copy with
    | some copy =>
      let _ ← call (.close copy)
    | none => pure ()
    forgetAll rest

/-! ### Children -/

/-- Starts a child with a program of its own. -/
def start (child : Program Nat) : Shell ProcessId := (Program.fork child : Program ProcessId)

/-- The status of a command for how its process ended. -/
def statusOf (w : WaitStatus) : Nat :=
  match w.exitCode? with
  | some code => code
  | none => 128 + (w.signal?.getD 0)

/-- What is said about how a process ended, if it is worth a word. -/
def endingText? (w : WaitStatus) : Option Octets :=
  match w.signal? with
  | some signal =>
    if signal = Signal.interrupt || signal = Signal.pipe then none
    else some (Signal.description signal)
  | none => none

/-- Waits for the end of a child, however often it is interrupted, up to so many times. -/
def awaitChild (id : ProcessId) : Nat → Shell WaitStatus
  | 0 => pure (.exited 127)
  | tries + 1 => do
    match ← call (.wait (some id) true) with
    | .ok (some (_, ending)) => pure ending
    | .ok none => awaitChild id tries
    | .error .EINTR => awaitChild id tries
    | .error _ => pure (.exited 127)

/-- Says how a process ended, if it is worth a word. -/
def announce (w : WaitStatus) : Shell Unit :=
  match endingText? w with
  | some text => put Program.standardError (text ++ ['\n'])
  | none => pure ()

/-- Waits for children that were started together; the status is that of the last one. -/
def waitFor (last : WaitStatus) : List ProcessId → Shell Nat
  | [] => pure (statusOf last)
  | id :: rest => do
    let ending ← awaitChild id Program.forever
    announce ending
    waitFor ending rest

/-- Waits for the children of a command; the status is that of the last one. -/
def finish (ids : List ProcessId) : Shell Nat := do
  modify (·.forgetJob)
  waitFor (.exited 0) ids

/-! ### Programs -/

/-- The path of a name in a directory of the search path. -/
def inDirectory (directory name : Octets) : Octets :=
  if directory.isEmpty then name else directory ++ '/' :: name

/-- The paths that are tried for a name. -/
def pathsFor (searchPath name : Octets) : List Octets :=
  if name.contains '/' then [name]
  else (Octets.splitOn ':' searchPath).map (inDirectory · name)

/-- What is found for a name. -/
inductive Found where
  /-- A program; `index` paths that could be tried come before its own. -/
  | program (index : Nat)
  | missing (e : Errno)
deriving DecidableEq, Repr

/-- The first of some paths at which there is a program, the first of them with a given number. A
file that is none counts more than that there is no file. If it is known where the program was
before the shell changed its directory, that is taken for granted for paths that do not depend on
the directory. -/
def findFirst (before : Option Nat) (e : Errno) (index : Nat) : List Octets → Shell Found
  | [] => pure (.missing e)
  | path :: rest => do
    let isFixed := path.head? = some '/'
    if isFixed && before.any (index < ·) then findFirst before e (index + 1) rest
    else if isFixed && before = some index then pure (.program index)
    else match ← call (.status path true) with
      | .error next =>
        findFirst before (if next = .ENOENT || next = .ENOTDIR then e else next) (index + 1) rest
      | .ok status =>
        let runs ←
          if status.kind == .regular then do
            match ← call (.mayAccess path .enter) with
            | .ok () => pure true
            | .error _ => pure false
          else pure false
        if runs then pure (.program index) else findFirst before .EACCES (index + 1) rest

/-- The program of a name. A path is taken as it is. -/
def findProgram (searchPath name : Octets) : Shell Found :=
  if name.contains '/' then pure (.program 0)
  else findFirst none .ENOENT 0 (pathsFor searchPath name)

/-- The program of a name, by what the shell knows or finds out and remembers. -/
def locate (name : Octets) : Shell Found := do
  let s ← get
  if name.contains '/' || s.functions.any (·.1 = name) then findProgram s.searchPath name
  else
    let known := s.known.find? (·.name = name)
    match known.filter (!·.isStale) with
    | some k => pure (.program k.index)
    | none =>
      let found ← findFirst (known.map (·.index)) .ENOENT 0 (pathsFor s.searchPath name)
      match found with
      | .program index => modify (·.remember name index)
      | .missing _ => modify (·.forget name)
      pure found

/-- The number of bytes by which it is decided whether a file is a script. -/
def sampleSize : Nat := 128

/-- Whether a byte is a control character that does not occur in texts. -/
def isStrange (c : Char) : Bool :=
  c.toNat < 9 || (15 < c.toNat && c.toNat < 32 && c ≠ '\x1b') || c = '\x7f'

/-- Whether the beginning of a file shows that it is no script. -/
def isForeign (text : Octets) : Bool := (text.takeWhile (· ≠ '\n')).any isStrange

/-- Whether the file at a path is no script. -/
def isForeignFile (path : Octets) : Shell Bool := do
  match ← call (.openFile path .input 0) with
  | .error _ => pure false
  | .ok descriptor =>
    let data ← call (.read descriptor sampleSize)
    let _ ← call (.close descriptor)
    pure (isForeign (Octets.ofData (data.toOption.getD .empty)))

/-- Becomes the program at a path. A file without a header is a script, unless its first line shows
that it is none. -/
def becomePath (arguments environment : List Octets) (path : Octets) : Shell Errno := do
  match ← call (.execute path arguments environment) with
  | .ENOEXEC =>
    if ← isForeignFile path then pure .ENOEXEC
    else
      call (.execute Program.standardShell (Program.standardShell :: path :: arguments.tail)
        environment)
  | e => pure e

/-- The error when none of some paths leads to a program that runs. -/
def becomeFirst (arguments environment : List Octets) (e : Errno) : List Octets → Shell Errno
  | [] => pure e
  | path :: rest => do
    let next ← becomePath arguments environment path
    becomeFirst arguments environment (if next = .ENOENT || next = .ENOTDIR then e else next) rest

/-- The status when a program does not run. -/
def failureStatus (e : Errno) : Nat :=
  if e = .ENOENT || e = .ENOTDIR || e = .ELOOP || e = .ENAMETOOLONG then 127 else 126

/-- Becomes the program of a name, whose first paths are left out. If that fails the shell ends. -/
def become {α : Type} (searchPath : Octets) (arguments : List Octets) (index : Nat := 0) :
    Shell α := do
  let name := arguments.headD []
  let environment := (← get).environment
  let e ← becomeFirst arguments environment .ENOENT ((pathsFor searchPath name).drop index)
  complain (name ++ ": " ++ errorText .run e)
  modify ({ · with status := failureStatus e })
  throw .exit

end Shell

end LineShell.Script
