import LineShell.Process
import LineShell.Wiring

/-!
# The shell among its processes

While a pipeline is started, pipe ends and files pass through the hands of the
shell.  `Holdings` says who holds what; `World` adds the state of the platform
and a journal of all that the shell did.  Every operation on descriptors is an
operation on the world, so that the journal shows the holdings at each moment.

## Main definitions

* `Holdings` — the descriptors of the shell and of its children.
* `Action`, `Moment` — what the shell did, and what was held right after it.
* `World` — holdings, journal and the state of the platform.
* `World.openPipe`, `World.close`, `World.openFile`, `World.closeFiles`,
  `World.handOver`, `World.forget` — the operations on descriptors.

## Main results

* `holdings_note`, `holdings_advance` — taking notes changes no holdings.
-/

namespace LineShell

/-! ### Phases of an execution -/

/-- How far the execution of a pipeline has come. -/
inductive Phase where
  | parsed
  | pipesAllocated
  | spawning
  | allSpawned
  | spawnFailed
  | reaping
  | done
deriving DecidableEq, Repr

/-- Whether one phase may directly follow another. -/
def Phase.canAdvance : Phase → Phase → Bool
  | .parsed, .pipesAllocated
  | .pipesAllocated, .spawning
  | .spawning, .allSpawned
  | .spawning, .spawnFailed
  | .allSpawned, .reaping
  | .spawnFailed, .reaping
  | .reaping, .done => true
  | _, _ => false

/-! ### Launch results -/

/-- Why a stage was not started. -/
inductive LaunchFailure where
  /-- The stage itself is at fault; the others are not concerned. -/
  | stage (fault : StageFault)
  /-- The system creates no process; nothing else can be started either. -/
  | refused (cause : SystemError)
deriving DecidableEq, Repr

/-- What the launch of a stage comes to. -/
abbrev LaunchResult := Except LaunchFailure ProcessId

/-! ### Holdings -/

/-- What an open file is known by to its holder. -/
abbrev FileHandle := Nat

/-- Who holds which pipe ends and redirection files. -/
structure Holdings where
  /-- How many descriptors the shell may hold at once; `none` if there is no limit. -/
  room : Option Nat := none
  /-- The pipe ends that the shell holds. -/
  ends : List PipeEnd := []
  /-- The redirection files that the shell holds. -/
  files : List FileHandle := []
  /-- The children that were not waited for, each with its pipe ends. -/
  children : List (ProcessId × List PipeEnd) := []
deriving DecidableEq, Repr

namespace Holdings

/-- The number of descriptors that the shell holds. -/
def count (h : Holdings) : Nat := h.ends.length + h.files.length

/-- Whether the shell may open a number of further descriptors. -/
def hasRoomFor (h : Holdings) (n : Nat) : Bool :=
  match h.room with
  | none => true
  | some room => h.count + n ≤ room

end Holdings

/-! ### Journal and world -/

/-- Something that the shell did. -/
inductive Action where
  /-- It went from one phase of an execution to the next. -/
  | advanced (source target : Phase)
  /-- It created a pipe. -/
  | openedPipe (pipe : Pipe)
  /-- It closed pipe ends. -/
  | closed (ends : List PipeEnd)
  /-- It opened a redirection file. -/
  | openedFile (path : String)
  /-- It closed redirection files. -/
  | closedFiles (files : List FileHandle)
  /-- It left pipe ends to a new child. -/
  | handedOver (child : ProcessId) (ends : List PipeEnd)
  /-- The launch of a stage returned. -/
  | launched (plan : Plan) (result : LaunchResult)
  /-- It printed a diagnostic. -/
  | warned (text : String)
  /-- It began to wait for a child. -/
  | awaited (child : ProcessId)

/-- An action together with what was held right after it. -/
structure Moment where
  /-- What the shell did. -/
  action : Action
  /-- Who held what after that. -/
  holdings : Holdings

/-- The shell, its descriptors and its surroundings. -/
structure World (σ : Type) where
  /-- The state of the platform. -/
  state : σ
  /-- Who holds which descriptors. -/
  holdings : Holdings := {}
  /-- What the shell did so far, the latest first. -/
  journal : List Moment := []

namespace World

variable {σ : Type}

/-- Writes an action into the journal. -/
def note (action : Action) (w : World σ) : World σ :=
  { w with journal := ⟨action, w.holdings⟩ :: w.journal }

/-- Goes from one phase of an execution to the next. -/
def advance (source target : Phase) (w : World σ) : World σ :=
  w.note (.advanced source target)

/-- Creates the pipe of a number, which takes two descriptors. Without room for
both it takes none. -/
def openPipe (number : Nat) (w : World σ) : Except Errno Pipe × World σ :=
  if w.holdings.hasRoomFor 2 then
    let pipe := Pipe.ofNumber number
    let holdings := { w.holdings with ends := pipe.ends ++ w.holdings.ends }
    (.ok pipe, { w with holdings }.note (.openedPipe pipe))
  else (.error .EMFILE, w)

/-- Closes pipe ends of the shell. -/
def close (ends : List PipeEnd) (w : World σ) : World σ :=
  let holdings := { w.holdings with ends := w.holdings.ends.filter (· ∉ ends) }
  { w with holdings }.note (.closed ends)

/-- Opens a file by a call to the platform, if a descriptor is free for it. -/
def openFile (call : σ → Except SystemError FileHandle × σ) (path : String)
    (w : World σ) : Except SystemError FileHandle × World σ :=
  if w.holdings.hasRoomFor 1 then
    match call w.state with
    | (.error e, state) => (.error e, { w with state })
    | (.ok file, state) =>
      let holdings := { w.holdings with files := file :: w.holdings.files }
      (.ok file, { w with state, holdings }.note (.openedFile path))
  else (.error (.os .EMFILE), w)

/-- Closes redirection files of the shell. -/
def closeFiles (files : List FileHandle) (w : World σ) : World σ :=
  let holdings := { w.holdings with files := w.holdings.files.filter (· ∉ files) }
  { w with holdings }.note (.closedFiles files)

/-- Leaves pipe ends of the shell to a new child. -/
def handOver (child : ProcessId) (ends : List PipeEnd) (w : World σ) : World σ :=
  let holdings := { w.holdings with
    ends := w.holdings.ends.filter (· ∉ ends)
    children := (child, ends) :: w.holdings.children }
  { w with holdings }.note (.handedOver child ends)

/-- Strikes a child off that was waited for. -/
def forget (child : ProcessId) (w : World σ) : World σ :=
  let children := w.holdings.children.filter (·.1 != child)
  { w with holdings := { w.holdings with children } }

/-- The actions in the order in which they happened. -/
def actions (w : World σ) : List Action :=
  (w.journal.map Moment.action).reverse

@[simp] theorem holdings_note (action : Action) (w : World σ) :
    (w.note action).holdings = w.holdings := rfl

@[simp] theorem holdings_advance (source target : Phase) (w : World σ) :
    (w.advance source target).holdings = w.holdings := rfl

end World

end LineShell
