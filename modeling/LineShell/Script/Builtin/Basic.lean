import LineShell.Script.Process

/-!
# What builtins have in common

Some commands are part of the shell, since they change its state or are used often.  Some of
those are special: an error in one of them ends the shell.

## Main definitions

* `Evaluator` — how a builtin runs commands.
* `Builtin` — a builtin.
* `Builtin.inApostrophes`, `Builtin.showVariables` — values as a script would give them.
* `Builtin.exit`, `Builtin.back`, `Builtin.leave` — the builtins that cut commands short.
-/

namespace LineShell.Script

open Shell

/-- How a builtin runs commands. -/
structure Evaluator where
  /-- Runs the commands in a text; the result is their status. -/
  runText : Octets → Shell Nat
  /-- Runs the commands that can be read from a descriptor. -/
  runFile : Nat → Shell Nat
  /-- Runs the commands for the signals that were noted, which are the result. -/
  takeSignals : Shell (List Nat)

/-- A command that is part of the shell. -/
structure Builtin where
  name : String
  /-- Whether an error in it ends the shell. -/
  isSpecial : Bool := false
  /-- Whether its arguments may be assignments, which are not cut into fields. -/
  takesAssignments : Bool := false
  /-- Runs it with some arguments; the result is its status. -/
  run : Evaluator → List Octets → Shell Nat

namespace Builtin

/-! ### Showing variables -/

/-- A string between apostrophes, with other quotes around those in it. -/
def inApostrophes (text : Octets) : Octets :=
  '\'' :: text.flatMap (fun c => if c = '\'' then Octets.ofText "'\"'\"'" else [c]) ++ ['\'']

/-- Some variables in order, each as a command that makes it. -/
def showVariables (lead : Octets) (test : Variable → Bool) (s : State) : Octets :=
  let chosen := s.bindings.filter fun (_, v) => test v
  let sorted := chosen.mergeSort fun a b => !(decide (b.1 < a.1))
  sorted.flatMap fun (name, v) =>
    lead ++ name ++ (match s.lookUp? name, v.value with
      | some value, _ => '=' :: inApostrophes value
      | none, _ => []) ++ ['\n']

/-! ### Ending and leaving -/

/-- Ends the shell. -/
def exit (arguments : List Octets) : Shell Nat := do
  match arguments with
  | [] => modify fun s => { s with status := s.ending.getD s.status }
  | text :: _ =>
    let status ← numberOf text
    modify ({ · with status })
  throw .exit

/-- Leaves a function or a file. -/
def back (arguments : List Octets) : Shell Nat := do
  match arguments with
  | [] => pure ()
  | text :: _ =>
    let status ← numberOf text
    modify ({ · with status })
  throw .back

/-- Leaves or continues loops. -/
def leave (jump : Nat → Jump) (arguments : List Octets) : Shell Nat := do
  let count ← match arguments with
    | [] => pure 1
    | text :: _ =>
      let n ← numberOf text
      if n = 0 then fail ("Illegal number: " ++ text) else pure n
  let loops := (← get).loops
  modify ({ · with status := 0 })
  if loops = 0 then pure 0 else throw (jump (min count loops))

end Builtin

end LineShell.Script
