import LineShell.Outcome

/-!
# Execution

To execute a pipeline, the shell creates all pipes, wires the stages, launches
them from left to right and waits for all children.  A stage at fault is reported
at once and the others carry on; when the system refuses a process, the launch
stops there, and the children that run already are still waited for.

## Main definitions

* `Report` — what became of a pipeline all of whose launches went through.
* `World.openPipes` — creates the pipes of a pipeline, all or none of them.
* `launchAll` — launches the stages of a list of plans.
* `execute` — executes a pipeline.
-/

namespace LineShell

/-! ### Reports -/

/-- What became of a pipeline. -/
structure Report where
  /-- One outcome for each stage, in the order of the stages. -/
  outcomes : List Outcome
  /-- The number of pipes that connected them. -/
  pipes : Nat
deriving DecidableEq

namespace Report

/-- Whether every stage succeeded. -/
def isSuccess (r : Report) : Bool := r.outcomes.all (·.status.isSuccess)

/-- The exit code of the last stage. -/
def lastStatus (r : Report) : Int32 := (r.outcomes.getLast?.map (·.status.code)).getD 0

/-- The outcomes of the stages that never ran, each with its fault. -/
def failed (r : Report) : List (Outcome × StageFault) :=
  r.outcomes.filterMap fun o => o.status.fault?.map (o, ·)

/-- The positions of the stages that never ran, each with its fault. -/
def failures (r : Report) : List (Nat × StageFault) := r.failed.map fun x => (x.1.index, x.2)

end Report

/-! ### The steps of an execution -/

section Steps

variable {σ : Type}

namespace World

/-- Creates a number of pipes, the first of which has the number `index`. If one of
them cannot be created, those before it are closed again. -/
def openPipesFrom (index : Nat) : Nat → World σ → Except Abort (List Pipe) × World σ
  | 0, w => (.ok [], w)
  | count + 1, w =>
    match w.openPipe index with
    | (.error errno, w) => (.error (.pipeCreation index errno), w)
    | (.ok pipe, w) =>
      match openPipesFrom (index + 1) count w with
      | (.error abort, w) => (.error abort, w.close pipe.ends)
      | (.ok pipes, w) => (.ok (pipe :: pipes), w)

/-- Creates a number of pipes, all or none of them. -/
def openPipes (count : Nat) (w : World σ) : Except Abort (List Pipe) × World σ :=
  openPipesFrom 0 count w

end World

/-- What is left of a list of plans after the launch. -/
structure Launch where
  /-- The stages that were launched, up to the first refusal. -/
  entries : List Entry
  /-- The refusal that ended the launch, if there was one. -/
  refusal : Option Abort

/-- The report of a fault, which counts stages from 1. -/
def faultReport (index : Nat) (fault : StageFault) : String :=
  "stage " ++ toString (index + 1) ++ ": " ++ fault.message

/-- Launches the stages one after the other. A refusal closes the pipe ends of the
plans that are left. -/
def launchAll (p : Platform σ) : List Plan → World σ → Launch × World σ
  | [], w => (⟨[], none⟩, w)
  | plan :: plans, w =>
    let (result, w) := p.launch plan w
    let w := w.note (.launched plan result)
    match result with
    | .ok child =>
      let (launch, w) := launchAll p plans w
      ({ launch with entries := ⟨plan.index, plan.program, .ok child⟩ :: launch.entries }, w)
    | .error (.stage fault) =>
      let w := w.warn p (faultReport plan.index fault)
      let (launch, w) := launchAll p plans w
      ({ launch with entries := ⟨plan.index, plan.program, .error fault⟩ :: launch.entries }, w)
    | .error (.refused cause) =>
      (⟨[], some (.spawn plan.index plan.program cause)⟩,
        w.close (plans.flatMap Plan.ends))

/-- Executes a pipeline. -/
def execute (p : Platform σ) (pipeline : Pipeline) (w : World σ) :
    Except Abort Report × World σ :=
  match w.openPipes pipeline.pipeCount with
  | (.error abort, w) => (.error abort, w)
  | (.ok pipes, w) =>
    let w := w.advance .parsed .pipesAllocated
    let wiring := wire pipeline pipes
    let w := (w.close wiring.displaced).advance .pipesAllocated .spawning
    let (launch, w) := launchAll p wiring.plans w
    let launched := if launch.refusal.isSome then Phase.spawnFailed else .allSpawned
    let w := (w.advance .spawning launched).advance launched .reaping
    let (outcomes, w) := reap p launch.entries w
    let w := w.advance .reaping .done
    match launch.refusal with
    | some abort => (.error abort, w)
    | none => (.ok ⟨outcomes, pipeline.pipeCount⟩, w)

end Steps

end LineShell
