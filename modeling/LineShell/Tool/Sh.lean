import LineShell.Script.Run
import LineShell.Tool.Basic

/-!
# sh

Runs a script: a text that is given as an argument, a file, or the standard input.

## Main definitions

* `Tool.Sh.prepare` — the state of the shell at the beginning.
* `Tool.Sh.takeOptions` — what the options ask for.
* `Tool.sh` — the tool.
-/

namespace LineShell

open Script Script.Shell

namespace Tool

namespace Sh

/-! ### The state at the beginning -/

/-- The variables that a shell has if nobody gives it any. -/
def ownVariables : List (Octets × Variable) :=
  [("OPTIND", { value := some ['1'] }),
    ("PS4", { value := some ['+', ' '] }),
    ("PS2", { value := some ['>', ' '] }),
    ("PS1", { value := some ['#', ' '] }),
    ("PATH", { value := some State.standardPath }),
    ("IFS", { value := some State.standardSeparators })]

/-- The state with a variable of the environment. -/
def importEntry (s : State) (entry : Octets) : State :=
  let name := Environment.nameOf entry
  if isName name && name.length < entry.length then
    s.put name { value := some (entry.drop (name.length + 1)), isExported := true }
  else s

/-- Whether a path leads to the directory one is in. -/
def isHere (path : Octets) : Program Bool := do
  if path.head? ≠ some '/' then pure false
  else match ← Program.call (.status path true), ← Program.call (.status ['.'] true) with
    | .ok one, .ok other => pure (one.node.isSome && one.node == other.node)
    | _, _ => pure false

/-- The state of the shell at the beginning. -/
def prepare (i : Invocation) : Program State := do
  let root ← Program.call .identity
  let parent ← Program.call .parent
  let s : State := { name := i.name, root, bindings := ownVariables }
  let s := i.environment.foldl importEntry s
  let s := s.put "PPID" { value := some (Octets.ofNat parent) }
  let given := s.lookUp "PWD"
  let here ←
    if ← isHere given then pure given
    else match ← Program.call .whereabouts with
      | .ok path => pure path
      | .error _ => pure []
  pure ({ s with here }.put "PWD" { value := some here, isExported := true })

/-! ### The command line -/

/-- What the command line asks for. -/
structure Request where
  /-- Whether the script is an argument. -/
  isText : Bool := false
  /-- The other arguments. -/
  operands : List Octets := []
deriving DecidableEq, Repr

/-- Letters that only the command line knows: for a script that is an argument, and for a shell
that is started for a user. -/
def isOwnLetter (c : Char) : Bool := c = 'c' || c = 'l'

/-- Takes options into account; so many arguments at first belong to options before them. -/
def takeOptions (skips : Nat) (isText : Bool) : List Octets → Shell Request
  | [] => pure { isText }
  | argument :: rest => do
    let letters (value : Bool) (letters : Octets) : Shell Request := do
      let others := letters.filter fun c => !isOwnLetter c
      let skips ← Script.Builtin.setLetters true value rest 0 others
      takeOptions skips (isText || letters.contains 'c') rest
    match skips, argument with
    | skips + 1, _ => takeOptions skips isText rest
    | 0, ['-'] | 0, ['-', '-'] => pure { isText, operands := rest }
    | 0, '-' :: text => letters true text
    | 0, '+' :: text => letters false text
    | 0, _ => pure { isText, operands := argument :: rest }

/-- Opens a script. -/
def openScript (path : Octets) : Shell Source := do
  match ← Shell.call (.openFile path .input 0) with
  | .error e => Shell.fail ("cannot open " ++ path ++ ": " ++ errorText .open e)
  | .ok opened =>
    let descriptor ← match ← Shell.call (.duplicate opened leastPrivate) with
      | .ok copy => do
        let _ ← Shell.call (.close opened)
        pure copy
      | .error _ => pure opened
    pure {
      reader := { rest := [], isWhole := false }
      descriptor := some descriptor
      isMain := true }

/-- The standard input as a script. -/
def inputScript : Source :=
  { reader := { rest := [], isWhole := false }
    descriptor := some Program.standardInput
    isMain := true }

/-- Sets the name, if there is one, and the parameters. -/
def setParameters : List Octets → Shell Unit
  | [] => pure ()
  | name :: parameters => modify ({ · with name, parameters })

/-- Makes sure that the options can be kept. A shell for a user controls jobs. -/
def settle : Shell Unit := do
  if (← get).has 'i' then modify (·.setOption 'm' true)
  Script.Builtin.giveUpControl

/-- Runs the standard input. A shell for a user goes on after errors, without what was read
already. -/
def runInput : Nat → Shell Unit
  | 0 => pure ()
  | tries + 1 => do
    match ← attempt (runSource {} inputScript 0 mostSteps) with
    | .ok _ => pure ()
    | .error .fail => if (← get).has 'i' then runInput tries else throw .fail
    | .error jump => throw jump

/-- Runs what the command line asks for. -/
def run (arguments : List Octets) : Shell Unit := do
  let request ← takeOptions 0 false arguments
  let readsInput := (← get).has 's'
  match request.operands with
  | [] =>
    if request.isText then Shell.fail "-c requires an argument"
    else
      modify (·.setOption 's' true)
      settle
      runInput mostSteps
  | first :: rest =>
    if request.isText then
      setParameters rest
      settle
      let _ ← runText { isLast := !readsInput } first mostSteps
      if readsInput then runInput mostSteps
    else if readsInput then
      modify ({ · with parameters := first :: rest })
      settle
      runInput mostSteps
    else
      let source ← openScript first
      setParameters (first :: rest)
      settle
      let _ ← runSource {} source 0 mostSteps

end Sh

/-- Runs a script. -/
def sh (i : Invocation) : Program Nat := do
  let (_, s) ← (Sh.run i.operands).run.run (← Sh.prepare i)
  conclude s mostSteps

end Tool

end LineShell
