import LineShell.Execution

/-!
# Rehearsals

A rehearsal runs no programs and opens no files.  A script says what the launch
of each stage comes to and how each child ends.

## Main definitions

* `Cue` — what happens to one stage.
* `Rehearsal` — a script, and the children that it brought forth.
* `Rehearsal.platform` — the platform that follows the script.
-/

namespace LineShell

/-- How the child of a stage ends. -/
inductive Ending where
  /-- In the way that a word of the system describes. -/
  | known (status : WaitStatus)
  /-- Somebody else has waited for the child. -/
  | lost
deriving DecidableEq, Repr

/-- What happens to one stage. -/
inductive Cue where
  /-- A child is started, and this is how it ends. -/
  | child (ending : Ending)
  /-- The launch fails in a given way. -/
  | fails (failure : LaunchFailure)
  /-- The creation of the process fails with an error. -/
  | spawnFails (error : SystemError)
deriving DecidableEq, Repr

/-- A script, and the children that it brought forth. -/
structure Rehearsal where
  /-- What happens to the stages, by their positions. Stages after the last cue
  start a child that exits with 0. -/
  script : List Cue := []
  /-- How the children end that were started, by their numbers. -/
  children : List Ending := []
  /-- What the shell wrote to its standard error. -/
  diagnostics : String := ""
deriving DecidableEq, Repr

namespace Rehearsal

/-- Adds a child, whose number is its position. -/
def addChild (ending : Ending) (r : Rehearsal) : ProcessId × Rehearsal :=
  (r.children.length, { r with children := r.children ++ [ending] })

/-- What the launch of a stage comes to. -/
def answer (plan : Plan) (r : Rehearsal) : LaunchResult × Rehearsal :=
  match r.script[plan.index]?.getD (.child (.known (.exited 0))) with
  | .child ending =>
    let (child, r) := r.addChild ending
    (.ok child, r)
  | .fails failure => (.error failure, r)
  | .spawnFails error => (.error (classify plan.program error), r)

/-- Launches a stage as the script says. -/
def launch (plan : Plan) (w : World Rehearsal) : LaunchResult × World Rehearsal :=
  match answer plan w.state with
  | (.ok child, state) => (.ok child, { w with state }.handOver child plan.ends)
  | (.error failure, state) => (.error failure, { w with state }.close plan.ends)

/-- Waits for a child. There is none of a number that was never given. -/
def wait (child : ProcessId) (r : Rehearsal) : Except SystemError WaitStatus × Rehearsal :=
  match r.children[child]? with
  | some (.known status) => (.ok status, r)
  | some .lost | none => (.error (.os .ECHILD), r)

/-- The platform that follows the script. -/
def platform : Platform Rehearsal where
  launch := launch
  wait := wait
  print
    | .standard, _, r => r
    | .diagnostic, text, r => { r with diagnostics := r.diagnostics ++ text }

end Rehearsal

end LineShell
