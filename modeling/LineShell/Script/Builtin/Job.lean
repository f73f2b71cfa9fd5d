import LineShell.Script.Builtin.Basic

/-!
# Builtins for signals and processes

## Main definitions

* `Builtin.signalName`, `Builtin.signalOf?` — signals as they are called in a script.
* `Builtin.trap`, `Builtin.kill` — signals.
* `Builtin.jobNamed`, `Builtin.showJobs`, `Builtin.resume` — jobs.
* `Builtin.wait` — waits for children.
-/

namespace LineShell.Script

open Shell

namespace Builtin

/-! ### Signals -/

/-- The first signal that programs may use as they like. -/
def firstFree : Nat := 34

/-- The name of a signal; number 0 is the end of the shell. -/
def signalName (number : Nat) : Octets :=
  if number = 0 then "EXIT"
  else match Signal.name? number with
    | some name => name
    | none =>
      if number < firstFree || Signal.largest < number then Octets.ofNat number
      else if number = firstFree then "RTMIN"
      else if number = Signal.largest then "RTMAX"
      else if number < firstFree + 16 then "RTMIN+" ++ toString (number - firstFree)
      else "RTMAX-" ++ toString (Signal.largest - number)

/-- The signal that is named by a number or a name. -/
def signalOf? (text : Octets) : Option Nat :=
  match Octets.toNat? text with
  | some n => if n ≤ Signal.largest then some n else none
  | none => if text.map Char.toUpper = Octets.ofText "EXIT" then some 0 else Signal.number? text

/-- Says what is done with a signal. -/
def setTrap (number : Nat) (action : Option Octets) : Shell Unit := do
  modify fun s =>
    let others := s.traps.filter (·.1 ≠ number)
    { s with traps := match action with
        | some action => (number, action) :: others
        | none => others }
  if number = 0 then pure ()
  else call (.dispose number (match action with
    | none => .default
    | some [] => .ignore
    | some _ => .catch))

/-- Says what is done with signals, or shows that. -/
def trap (arguments : List Octets) : Shell Nat := do
  let (_, arguments) ← takeOptions [] arguments
  match arguments with
  | [] =>
    let s ← get
    let sorted := s.traps.mergeSort fun a b => a.1 ≤ b.1
    emit (sorted.flatMap fun (number, action) =>
      "trap -- " ++ inApostrophes action ++ ' ' :: signalName number ++ ['\n'])
  | first :: rest =>
    let isReset := rest.isEmpty || (Octets.toNat? first).any (· ≤ Signal.largest)
    let action := if isReset || first = ['-'] then none else some first
    setAll action (if isReset then arguments else rest)
where
  /-- Sets the action for signals, as far as they are known. -/
  setAll (action : Option Octets) : List Octets → Shell Nat
    | [] => pure 0
    | name :: rest => do
      match signalOf? name with
      | some number =>
        setTrap number action
        setAll action rest
      | none =>
        put Program.standardError ("trap: " ++ name ++ ": bad trap\n")
        pure 1

/-! ### Jobs -/

/-- Notes that a process has ended. -/
def noteEnding (id : ProcessId) (ending : WaitStatus) : Shell Unit :=
  modify fun s => { s with jobs := s.jobs.map (·.withEnding id ending) }

/-- Changes the job with a number. -/
def changeJob (number : Nat) (f : Job → Job) : Shell Unit :=
  modify fun s =>
    { s with jobs := s.jobs.map fun job => if job.number = number then f job else job }

/-- The job with a name that begins with a percent sign. -/
def jobNamed (name : Octets) : Shell Job := do
  let jobs := (← get).jobs
  let (found, problem) : Option Job × Octets :=
    match name with
    | ['%'] | ['%', '%'] | ['%', '+'] => (jobs.head?, "No current job")
    | ['%', '-'] => (jobs.tail.head?, "No previous job")
    | _ =>
      ((Octets.toNat? name.tail).bind fun n => jobs.find? (·.number = n), "No such job: " ++ name)
  match found with
  | some job => pure job
  | none => fail problem

/-- Notes which processes have ended so far. -/
def noteEndings : List ProcessId → Shell Unit
  | [] => pure ()
  | id :: rest => do
    match ← call (.wait (some id) false) with
    | .ok (some (_, ending)) => noteEnding id ending
    | _ => pure ()
    noteEndings rest

/-- What is told about the state of a job. -/
def stateText (job : Job) : Octets :=
  if !job.isOver then "Running"
  else match (job.members.getLast?).bind (·.2) with
    | some ending =>
      match ending.exitCode? with
      | some 0 => "Done"
      | some code => "Done(" ++ toString code ++ ")"
      | none => Signal.description (ending.signal?.getD 0)
    | none => "Done"

/-- The width of what is told about a job. -/
def stateWidth : Nat := 33

/-- The line about a job; `place` is its place in the list of jobs. -/
def jobLine (place : Nat) (job : Job) : Octets :=
  let mark := if place = 0 then '+' else if place = 1 then '-' else ' '
  let lead : Octets := '[' :: Octets.ofNat job.number ++ [']', ' ', mark, ' '] ++ stateText job
  lead ++ List.replicate (max 1 (stateWidth - lead.length)) ' ' ++
    (List.replicate (job.members.length - 1) [' ', '|', ' ']).flatten ++ ['\n']

/-- Shows the jobs, or the numbers of their first processes. -/
def showJobs (arguments : List Octets) : Shell Nat := do
  let (options, operands) ← takeOptions ['l', 'p'] arguments
  let open? := (← get).jobs.flatMap fun job => job.members.filter (·.2.isNone)
  noteEndings (open?.map (·.1))
  let chosen ←
    if operands.isEmpty then pure (← get).jobs
    else operands.mapM jobNamed
  let places := (← get).jobs.map (·.number)
  let shown := chosen.flatMap fun job =>
    if options.any (·.1 = 'p') then Octets.ofNat ((job.members.head?.map (·.1)).getD 0) ++ ['\n']
    else jobLine (places.idxOf job.number) job
  modify fun s =>
    { s with jobs := s.jobs.filter fun job =>
        !(job.isOver && chosen.any (·.number = job.number)) }
  emit shown

/-- Would let a job go on, but the jobs of a script are not under anybody's control. -/
def resume (arguments : List Octets) : Shell Nat := do
  let (_, operands) ← takeOptions [] arguments
  let name := operands.headD ['%']
  if (← get).jobs.isEmpty && operands.isEmpty then fail "No current job"
  else
    let _ ← jobNamed name
    fail ("job " ++ operands.headD "(null)" ++ " not created under job control")

/-! ### Sending signals -/

/-- How `kill` is called. -/
def killUsage : Octets :=
  "Usage: kill [-s sigspec | -signum | -sigspec] [pid | job]... or\nkill -l [exitstatus]"

/-- The error when a signal is sent to a group of processes: none of the groups of a script's jobs
exists, since its children stay in the group of the shell. -/
def noGroup : Errno := .ESRCH

/-- Sends a signal to a process; the result is the error if that fails. -/
def sendTo (number : Nat) (target : Octets) : Shell (Option Errno) := do
  match target with
  | '%' :: _ =>
    let _ ← jobNamed target
    pure (some noGroup)
  | '-' :: digits =>
    let _ ← numberOf digits
    pure (some noGroup)
  | digits =>
    match ← call (.signal (← numberOf digits) number) with
    | .ok () => pure none
    | .error e => pure (some e)

/-- Sends a signal to processes. -/
def sendAll (number : Nat) (status : Nat) : List Octets → Shell Nat
  | [] => pure status
  | target :: rest => do
    match ← sendTo number target with
    | none => sendAll number status rest
    | some e =>
      complain (e.text ++ ['\n'])
      sendAll number 1 rest

/-- Sends a signal to processes, or lists the signals. -/
def kill (arguments : List Octets) : Shell Nat := do
  match arguments with
  | [] => fail killUsage
  | first :: rest =>
    let named := match first with
      | '-' :: name => signalOf? name
      | _ => none
    match named with
    | some number => if rest.isEmpty then fail killUsage else sendAll number 0 rest
    | none =>
      let (options, operands) ← takeOptions ['l', 's', ':'] arguments
      let number ← match (options.filter (·.1 = 's')).getLast? with
        | none => pure Signal.terminate
        | some (_, name) =>
          match signalOf? name with
          | some number => pure number
          | none => fail ("invalid signal number or name: " ++ name)
      if options.any (·.1 = 'l') then
        match operands with
        | [] =>
          let names := (List.range Signal.largest).flatMap fun n => signalName (n + 1) ++ ['\n']
          emit ("0\n" ++ names)
        | text :: _ =>
          let n ← numberOf text
          let n := if n > 128 then n - 128 else n
          if n > 0 && n ≤ Signal.largest then emit (signalName n ++ ['\n'])
          else fail ("invalid signal number or exit status: " ++ text)
      else if operands.isEmpty then fail killUsage
      else sendAll number 0 operands

/-! ### Waiting -/

/-- The status of a builtin that signals have interrupted. -/
def interruptedStatus (signals : List Nat) : Nat := 128 + signals.headD 0

/-- Waits until some processes have ended, or a signal was noted. The result is the status of the
last one, or else the signals. -/
def waitForMembers (e : Evaluator) (reports : Bool) (last : WaitStatus) :
    List (ProcessId × Option WaitStatus) → Shell (Except (List Nat) Nat)
  | [] => pure (.ok (statusOf last))
  | (_, some ending) :: rest => waitForMembers e reports ending rest
  | (id, none) :: rest => do
    match ← call (.wait (some id) true) with
    | .ok (some (_, ending)) =>
      noteEnding id ending
      if reports then announce ending
      waitForMembers e reports ending rest
    | .error .EINTR => pure (.error (← e.takeSignals))
    | _ => waitForMembers e reports (.exited 127) rest

/-- Waits until a job has ended, or a signal was noted. -/
def waitForJob (e : Evaluator) (reports : Bool) (job : Job) : Shell (Except (List Nat) Nat) := do
  let result ← waitForMembers e reports (.exited 0) job.members
  if result.isOk then changeJob job.number ({ · with isTaken := true })
  pure result

/-- Waits for all jobs. -/
def waitForAll (e : Evaluator) : List Job → Shell Nat
  | [] => pure 0
  | job :: rest => do
    match ← waitForJob e false job with
    | .ok _ => waitForAll e rest
    | .error signals => pure (interruptedStatus signals)

/-- The job that is meant by a number of a process or by a name of a job. -/
def jobOf? (text : Octets) : Shell (Option Job) := do
  match text with
  | '%' :: _ => some <$> jobNamed text
  | _ =>
    let id ← numberOf text
    pure ((← get).jobs.find? fun job => (job.members.getLast?).any (·.1 = id))

/-- Waits for some jobs; the status is that of the last one. -/
def waitForEach (e : Evaluator) (status : Nat) : List Octets → Shell Nat
  | [] => pure status
  | text :: rest => do
    match ← jobOf? text with
    | none => waitForEach e 127 rest
    | some job =>
      match ← waitForJob e true job with
      | .ok status => waitForEach e status rest
      | .error signals => pure (interruptedStatus signals)

/-- Waits for children. -/
def wait (e : Evaluator) (arguments : List Octets) : Shell Nat := do
  let (_, operands) ← takeOptions [] arguments
  if operands.isEmpty then waitForAll e (← get).jobs else waitForEach e 0 operands

end Builtin

end LineShell.Script
