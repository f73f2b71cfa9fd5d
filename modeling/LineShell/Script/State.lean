import LineShell.Environment
import LineShell.Script.Parser
import LineShell.Signal
import LineShell.Tool.Basic

/-!
# The state of a shell

A shell that runs a script has parameters, variables, functions, options and children.  What
it does next may be cut short: by an error, by leaving a loop or a function, or by ending.

## Main definitions

* `State` — the state.
* `Jump`, `Shell` — what cuts commands short, and computations of a shell.
* `Shell.complain`, `Shell.fail` — messages.
* `State.lookUp?`, `Shell.setVariable`, `State.environment` — variables.
* `Shell.emit` — output of a builtin.
-/

namespace LineShell.Script

/-! ### State -/

/-- A variable. -/
structure Variable where
  /-- Its value, if it is set. -/
  value : Option Octets := none
  /-- Whether programs get it. -/
  isExported : Bool := false
  /-- Whether it keeps its value. -/
  isFixed : Bool := false
deriving DecidableEq, Repr

/-- A program that was found in the search path. -/
structure Known where
  /-- Its name. -/
  name : Octets
  /-- The number of directories of the search path before the one that it was found in. -/
  index : Nat
  /-- Whether the shell has changed its directory since then. -/
  isStale : Bool := false
deriving DecidableEq, Repr

/-- Processes that were started together in the background. -/
structure Job where
  /-- The number of the job. -/
  number : Nat
  /-- The numbers of the processes, and how they ended if they did. -/
  members : List (ProcessId × Option WaitStatus)
  /-- Whether somebody has waited for the end of the job. -/
  isTaken : Bool := false
deriving DecidableEq, Repr

namespace Job

/-- Whether all of its processes have ended. -/
def isOver (job : Job) : Bool := job.members.all (·.2.isSome)

/-- The job with the ending of a process. -/
def withEnding (id : ProcessId) (ending : WaitStatus) (job : Job) : Job :=
  { job with members := job.members.map fun (other, old) =>
      if other = id then (other, some ending) else (other, old) }

/-- Whether another job may have its number. -/
def yields (job : Job) : Bool := job.isOver && job.isTaken

/-- The number for a new job among others, from a given one on. -/
def freeNumber (jobs : List Job) (number : Nat) : Nat → Nat
  | 0 => number
  | tries + 1 =>
    if jobs.all fun job => job.number ≠ number || job.yields then number
    else freeNumber jobs (number + 1) tries

end Job

/-- The state of a shell. -/
structure State where
  /-- The name of the script or of the shell. -/
  name : Octets
  /-- The positional parameters. -/
  parameters : List Octets := []
  bindings : List (Octets × Variable) := []
  functions : List (Octets × Command) := []
  /-- The programs that were found, the first one first. -/
  known : List Known := []
  aliases : List (Octets × Octets) := []
  /-- The letters of the options that are set. -/
  options : List Char := []
  /-- The status of the last command. -/
  status : Nat := 0
  /-- The status of the last command whose output was put in. -/
  outputStatus : Nat := 0
  /-- The number of the first process of this shell. -/
  root : ProcessId := 0
  /-- The last process that nobody waits for. -/
  lastBackground : Option ProcessId := none
  /-- The jobs, the newest one first. -/
  jobs : List Job := []
  /-- The line of the command that is run. -/
  line : Nat := 0
  /-- The line up to which the script was read. -/
  readLine : Nat := 0
  /-- The builtin that is run. -/
  builtin : Option Octets := none
  /-- What is done with signals; number 0 is the end of the shell. Nothing to do means that the
  signal is ignored. -/
  traps : List (Nat × Octets) := []
  /-- The number of loops around the command. -/
  loops : Nat := 0
  /-- The variables that commands around this one will restore, with their old values. -/
  frames : List (List (Octets × Option Variable)) := []
  /-- The documents that were read. -/
  documents : List (Nat × Word) := []
  nextDocument : Nat := 0
  /-- The directory that the shell is in, as it was reached. -/
  here : Octets := []
  /-- The number of the parameter whose options are looked at next. -/
  optionIndex : Nat := 1
  /-- The place within the parameter before it that is looked at next, or 0. -/
  optionPlace : Nat := 0
  /-- Whether a prompt for the trace is being made. -/
  isTracing : Bool := false
  /-- The status with which the shell ends, while the command for that is run. -/
  ending : Option Nat := none

/-- What cuts commands short. -/
inductive Jump where
  /-- The shell ends. -/
  | exit
  /-- There was an error, of which a message was written. -/
  | fail
  /-- Some loops are left. -/
  | leave (loops : Nat)
  /-- Some loops but one are left, and that one is continued. -/
  | continue (loops : Nat)
  /-- A function or file is left. -/
  | back
deriving DecidableEq, Repr

/-- A computation of a shell. -/
abbrev Shell := ExceptT Jump (StateT State Program)

namespace State

/-- Whether an option is set. -/
def has (s : State) (option : Char) : Bool := s.options.contains option

/-- Sets an option or takes it back. -/
def setOption (option : Char) (value : Bool) (s : State) : State :=
  let others := s.options.filter (· ≠ option)
  { s with options := if value then option :: others else others }

/-! ### Variables -/

/-- A variable. -/
def binding? (name : Octets) (s : State) : Option Variable :=
  (s.bindings.find? (·.1 = name)).map (·.2)

/-- Puts a variable in the place of the one with the same name. -/
def put (name : Octets) (new : Variable) (s : State) : State :=
  { s with
    bindings :=
      if s.bindings.any (·.1 = name) then
        s.bindings.map fun (other, old) => if other = name then (other, new) else (other, old)
      else s.bindings ++ [(name, new)] }

/-- Removes a variable. -/
def drop (name : Octets) (s : State) : State :=
  { s with bindings := s.bindings.filter (·.1 ≠ name) }

/-- The value of a variable. -/
def lookUp? (name : Octets) (s : State) : Option Octets :=
  (s.binding? name).bind (·.value)

/-- The value of a variable, where one without a value counts as empty. -/
def lookUp (name : Octets) (s : State) : Octets := (s.lookUp? name).getD []

/-- The number of groups into which variables are divided. -/
def groupCount : Nat := 39

/-- The group of a variable. -/
def groupOf (name : Octets) : Nat :=
  (16 * (name.headD '\x00').toNat + (name.map Char.toNat).sum) % groupCount

/-- The state in which the options of parameters are looked at from somewhere on. -/
def lookAt (index place : Nat) (s : State) : State :=
  { s with optionIndex := index, optionPlace := place }

/-- The state with other positional parameters. -/
def withParameters (parameters : List Octets) (s : State) : State :=
  { s with parameters }.lookAt 1 0

/-- The environment that programs get, group by group. -/
def environment (s : State) : List Octets :=
  let entries := s.bindings.filterMap fun (name, v) =>
    if v.isExported then v.value.map fun value => (groupOf name, name ++ '=' :: value) else none
  (entries.mergeSort fun a b => a.1 ≤ b.1).map (·.2)

/-- The bytes that separate fields when nothing else is said. -/
def standardSeparators : Octets := [' ', '\t', '\n']

/-- The bytes that separate fields. -/
def separators (s : State) : Octets := (s.lookUp? "IFS").getD standardSeparators

/-- Defines a function, which takes the place of a program of the same name. -/
def define (name : Octets) (body : Command) (s : State) : State :=
  { s with
    functions := (name, body) :: s.functions.filter (·.1 ≠ name)
    known := s.known.filter (·.name ≠ name) }

/-- Remembers where a program was found. -/
def remember (name : Octets) (index : Nat) (s : State) : State :=
  { s with
    known :=
      if s.known.any (·.name = name) then
        s.known.map fun k => if k.name = name then { name, index } else k
      else s.known ++ [{ name, index }] }

/-- Forgets where a program was found. -/
def forget (name : Octets) (s : State) : State :=
  { s with known := s.known.filter (·.name ≠ name) }

/-- Forgets where programs were found, if it is the search path that changes. -/
def forgetAt (name : Octets) (s : State) : State :=
  if name = Octets.ofText "PATH" then { s with known := [] } else s

/-- What the shell knows of programs after it has changed its directory. -/
def afterMove (s : State) : State :=
  { s with known := s.known.map ({ · with isStale := true }) }

/-- The search path when nothing else is said. -/
def standardPath : Octets := "/usr/local/sbin:/usr/local/bin:/usr/sbin:/usr/bin:/sbin:/bin"

/-- The search path. -/
def searchPath (s : State) : Octets := s.lookUp "PATH"

/-- The command for a signal. -/
def trap? (number : Nat) (s : State) : Option Octets :=
  (s.traps.find? (·.1 = number)).map (·.2)

/-- Whether there is a command for some signal. -/
def hasTraps (s : State) : Bool := s.traps.any fun (_, action) => !action.isEmpty

end State

/-! ### Jobs -/

namespace State

/-- The number for a new job. -/
def nextJob (s : State) : Nat := Job.freeNumber s.jobs 1 s.jobs.length

/-- Makes place for a job that the shell waits for at once. -/
def forgetJob (s : State) : State :=
  let number := s.nextJob
  { s with jobs := s.jobs.filter (·.number ≠ number) }

/-- Adds a job in the background. -/
def addJob (ids : List ProcessId) (s : State) : State :=
  let number := s.nextJob
  let s := s.forgetJob
  { s with
    jobs := { number, members := ids.map (·, none) } :: s.jobs
    lastBackground := ids.getLast?.or s.lastBackground }

end State

namespace Shell

/-! ### Calls and messages -/

/-- Makes a call. -/
def call (c : Call) : Shell c.Answer := (Program.call c : Program c.Answer)

/-- What stands before a message. -/
def heading (s : State) : Octets :=
  s.name ++ ": " ++ Octets.ofNat s.line ++ ": " ++
    match s.builtin with
    | some name => name ++ ": "
    | none => []

/-- Writes to a descriptor, whatever comes of it. -/
def put (descriptor : Nat) (text : Octets) : Shell Unit := do
  let _ ← (Program.write descriptor text : Program _)

/-- Writes a message. -/
def complain (text : Octets) : Shell Unit := do
  put Program.standardError (heading (← get) ++ text ++ ['\n'])

/-- Writes a message and cuts the command short. -/
def fail {α : Type} (text : Octets) : Shell α := do
  complain text
  modify ({ · with status := 2 })
  throw .fail

/-- Writes the output of a builtin, whose status this is unless that fails. -/
def emit (text : Octets) (status : Nat := 0) : Shell Nat := do
  if text.isEmpty then pure status
  else match ← (Program.write Program.standardOutput text : Program _) with
    | .ok () => pure status
    | .error _ =>
      complain (((← get).builtin.getD []) ++ ": I/O error")
      pure (max status 1)

/-! ### Numbers -/

/-- The largest number that builtins take. -/
def largestNumber : Nat := 2 ^ 31 - 1

/-- The number that a string is, which must consist of digits. -/
def numberOf (text : Octets) : Shell Nat := do
  match (Octets.toNat? text).filter (· ≤ largestNumber) with
  | some n => pure n
  | none => fail ("Illegal number: " ++ text)

/-! ### Variables -/

/-- Fails unless a string is a name. -/
def requireName (name : Octets) : Shell Unit :=
  if isName name then pure () else fail (name ++ ": bad variable name")

/-- Changes a variable that may be changed. -/
def change (name : Octets) (f : Variable → Variable) : Shell Unit := do
  requireName name
  let s ← get
  let old := (s.binding? name).getD { isExported := s.has 'a' }
  let new := f old
  if old.isFixed && new.value ≠ old.value then fail (name ++ ": is read only")
  else
    set (s.put name new)
    if name = Octets.ofText "OPTIND" && new.value ≠ old.value then
      let index ← numberOf (new.value.getD [])
      modify (·.lookAt (max 1 index) 0)

/-- Gives a variable a value. -/
def setVariable (name value : Octets) : Shell Unit := do
  requireName name
  let s ← get
  if (s.binding? name).any (·.isFixed) then fail (name ++ ": is read only")
  else
    change name fun old => { old with value := some value }
    modify (·.forgetAt name)

/-- The name that stands for the options among variables that are kept. -/
def optionsName : Octets := ['-']

/-- Keeps the value of a variable, to be restored when the innermost frame ends. -/
def keep (name : Octets) : Shell Unit :=
  modify fun s =>
    match s.frames with
    | frame :: frames =>
      let old := if name = optionsName then some { value := some s.options } else s.binding? name
      if frame.any (·.1 = name) then s
      else { s with frames := ((name, old) :: frame) :: frames }
    | [] => s

/-- Begins a frame. -/
def pushFrame : Shell Unit := modify fun s => { s with frames := [] :: s.frames }

/-- Ends the innermost frame, and restores what was kept in it. What cannot be the name of a
variable is not restored. -/
def popFrame : Shell Unit := do
  let s ← get
  match s.frames with
  | frame :: frames =>
    set (frame.foldl (fun s (name, old) =>
      match old with
      | some v =>
        if name = optionsName then { s with options := v.value.getD [] }
        else (s.put name v).forgetAt name
      | none => (s.drop name).forgetAt name) { s with frames })
    match frame.find? fun (name, old) => old.isNone && !isName name with
    | some (name, _) => fail (name ++ ": bad variable name")
    | none => pure ()
  | [] => pure ()

/-- The result of a computation, whether it was cut short or not. -/
def attempt {α : Type} (body : Shell α) : Shell (Except Jump α) := ExceptT.lift body.run

/-- Runs a computation, and another one after it however it ends. -/
def ensuring {α : Type} (body : Shell α) (cleanup : Shell Unit) : Shell α := do
  let result ← attempt body
  cleanup
  match result with
  | .ok a => pure a
  | .error jump => throw jump

/-! ### Options of builtins -/

/-- The options in letters that stand together, and the one that still needs a value. A colon
after a letter says that it has one. -/
def optionsIn (letters : List Char) (found : List (Char × Octets)) :
    Octets → Shell (List (Char × Octets) × Option Char)
  | [] => pure (found, none)
  | c :: rest =>
    match letters.dropWhile (· ≠ c) with
    | _ :: ':' :: _ =>
      pure (if rest.isEmpty then (found, some c) else (found ++ [(c, rest)], none))
    | _ :: _ => optionsIn letters (found ++ [(c, [])]) rest
    | [] => fail ("Illegal option -" ++ [c])

/-- The options at the beginning of arguments, and the other arguments; `owed` is an option that
still needs a value. -/
def optionsFrom (letters : List Char) (found : List (Char × Octets)) (owed : Option Char) :
    List Octets → Shell (List (Char × Octets) × List Octets)
  | [] =>
    match owed with
    | some c => fail ("No arg for -" ++ [c] ++ " option")
    | none => pure (found, [])
  | argument :: rest =>
    match owed with
    | some c => optionsFrom letters (found ++ [(c, argument)]) none rest
    | none =>
      match argument with
      | ['-', '-'] => pure (found, rest)
      | '-' :: c :: text => do
        let (found, owed) ← optionsIn letters found (c :: text)
        optionsFrom letters found owed rest
      | _ => pure (found, argument :: rest)

/-- The options at the beginning of arguments, and the other arguments. -/
def takeOptions (letters : List Char) (arguments : List Octets) :
    Shell (List (Char × Octets) × List Octets) :=
  optionsFrom letters [] none arguments

end Shell

end LineShell.Script
