import LineShell.Platform

/-!
# Outcomes

After the launch of a pipeline each stage is an `Entry`: a running child or a
fault.  Reaping waits for the children in the order of their stages and turns
the entries into outcomes.

## Main definitions

* `StageStatus` — how a stage ended, with its exit `code`.
* `Outcome` — the status of a stage with its position and program.
* `Entry` — a stage after its launch.
* `reap` — the outcomes of a list of entries.
-/

namespace LineShell

/-- How a stage ended. -/
inductive StageStatus where
  /-- Its process exited with a code. -/
  | exited (code : Int32)
  /-- Its process was killed by a signal. -/
  | signaled (signal : Int32)
  /-- It never ran. -/
  | failed (fault : StageFault)
  /-- Waiting for its process failed, so that nothing is known. -/
  | lost (cause : SystemError)
deriving DecidableEq

namespace StageStatus

/-- The status that a word of the system describes. -/
def ofWaitStatus (s : WaitStatus) : StageStatus :=
  match s.exitCode?, s.signal? with
  | some code, _ => .exited (Int32.ofNat code)
  | none, some signal => .signaled (Int32.ofNat signal)
  | none, none => .exited (-1)

/-- The status of a child after waiting for it. -/
def ofWait : Except SystemError WaitStatus → StageStatus
  | .ok s => ofWaitStatus s
  | .error cause => .lost cause

/-- The exit code by the convention of shells. -/
def code : StageStatus → Int32
  | .exited code => code
  | .signaled signal => 128 + signal
  | .failed fault => fault.status
  | .lost _ => 1

/-- Whether the stage ran and exited with 0. -/
def isSuccess (s : StageStatus) : Bool := s = .exited 0

/-- The fault of a stage that never ran. -/
def fault? : StageStatus → Option StageFault
  | .failed fault => some fault
  | .exited _ | .signaled _ | .lost _ => none

end StageStatus

/-- How one stage of a pipeline ended. -/
structure Outcome where
  /-- The position of the stage, counted from 0. -/
  index : Nat
  /-- The name of its program. -/
  program : String
  /-- How it ended. -/
  status : StageStatus
deriving DecidableEq

/-- A stage after its launch. -/
structure Entry where
  /-- The position of the stage, counted from 0. -/
  index : Nat
  /-- The name of its program. -/
  program : String
  /-- Its child, or why it has none. -/
  child : Except StageFault ProcessId

/-- Whether the stage has a child. -/
def Entry.isRunning (e : Entry) : Bool := e.child.toBool

section Reaping

variable {σ : Type}

/-- Waits for the child of an entry, if it has one. -/
def Entry.reap (p : Platform σ) (e : Entry) (w : World σ) : Outcome × World σ :=
  match e.child with
  | .ok child =>
    let (result, w) := w.await p child
    (⟨e.index, e.program, .ofWait result⟩, w)
  | .error fault => (⟨e.index, e.program, .failed fault⟩, w)

/-- Waits for the children one after the other. -/
def reap (p : Platform σ) : List Entry → World σ → List Outcome × World σ
  | [], w => ([], w)
  | e :: entries, w =>
    let (outcome, w) := e.reap p w
    let (outcomes, w) := reap p entries w
    (outcome :: outcomes, w)

end Reaping

end LineShell
