import LineShell.Proofs.Correspondence

/-!
# Recorded platforms

Which calls does an execution make to its platform?  A recorded platform writes
down every call with its answer and otherwise does what the original does.  An
execution cannot tell the two apart: it never looks at the state of the platform,
so a map of states that goes along with all operations goes along with the
execution.

## Main definitions

* `World.map` — a world with a mapped state.
* `Platform.MapsTo` — a map of states goes along with the operations.
* `PlatformCall`, `Recorded` — a call with its answer, and a state with its calls.
* `Platform.recorded` — the platform that writes its calls down.

## Main results

* `Platform.MapsTo.commutes` — a map of states goes along with an execution.
* `execute_recorded` — writing the calls down changes nothing else.
-/

namespace LineShell

variable {σ τ : Type}

/-! ### Maps of platform states -/

/-- A world with a mapped platform state. -/
def World.map (f : τ → σ) (w : World τ) : World σ :=
  { state := f w.state, holdings := w.holdings, journal := w.journal }

section WorldMap

variable (f : τ → σ) (w : World τ)

theorem World.openPipe_map (number : Nat) :
    (w.map f).openPipe number = ((w.openPipe number).1, (w.openPipe number).2.map f) := by
  have hholdings : (w.map f).holdings = w.holdings := rfl
  unfold World.openPipe
  rw [hholdings]
  split <;> rfl

/-- Mapping the state goes along with what the shell does by itself. -/
theorem World.map_commutes : World.Commutes (World.map f) where
  note _ _ := rfl
  close _ _ := rfl
  openPipe number w := World.openPipe_map f w number

theorem World.openPipesFrom_map (index count : Nat) :
    (w.map f).openPipesFrom index count =
      ((w.openPipesFrom index count).1, (w.openPipesFrom index count).2.map f) :=
  (World.map_commutes f).openPipesFrom index count w

end WorldMap

/-- A map of states goes along with the operations of two platforms. -/
structure Platform.MapsTo (f : τ → σ) (p : Platform τ) (q : Platform σ) : Prop where
  /-- Launches agree. -/
  launch : ∀ plan w, q.launch plan (w.map f) = ((p.launch plan w).1, (p.launch plan w).2.map f)
  /-- Waits agree. -/
  wait : ∀ child s, q.wait child (f s) = ((p.wait child s).1, f (p.wait child s).2)
  /-- Prints agree. -/
  print : ∀ stream text s, q.print stream text (f s) = f (p.print stream text s)

/-- A map of states goes along with every operation on a world. -/
theorem Platform.MapsTo.commutes {f : τ → σ} {p : Platform τ} {q : Platform σ}
    (h : p.MapsTo f q) : Platform.Commutes (World.map f) p q where
  toCommutes := World.map_commutes f
  launch := h.launch
  warn text w := by
    simp only [World.warn, World.map, World.note, h.print]
  await child w := by
    simp only [World.await, World.map, World.note, World.forget, h.wait]

/-! ### Calls -/

/-- A call to a platform, with its answer. -/
inductive PlatformCall where
  /-- A plan was launched. -/
  | launch (plan : Plan) (result : LaunchResult)
  /-- A child was waited for. -/
  | wait (child : ProcessId) (ended : Except SystemError WaitStatus)
  /-- A text was written to a stream. -/
  | print (stream : OutStream) (text : String)

/-- A platform state with the calls that were made. -/
structure Recorded (σ : Type) where
  /-- The state of the platform itself. -/
  inner : σ
  /-- The calls in the order in which they were made. -/
  calls : List PlatformCall := []

/-- Adds a call, after which the platform is in a given state. -/
def Recorded.add (r : Recorded σ) (call : PlatformCall) (inner : σ) : Recorded σ :=
  { inner, calls := r.calls ++ [call] }

/-- A platform that does the same and writes down its calls. -/
def Platform.recorded (p : Platform σ) : Platform (Recorded σ) where
  launch plan w :=
    let (result, after) := p.launch plan (w.map Recorded.inner)
    (result, after.map (w.state.add (.launch plan result)))
  wait child r :=
    let (ended, inner) := p.wait child r.inner
    (ended, r.add (.wait child ended) inner)
  print stream text r := r.add (.print stream text) (p.print stream text r.inner)

/-- To forget the calls goes along with all operations. -/
theorem Platform.recorded_mapsTo (p : Platform σ) : p.recorded.MapsTo Recorded.inner p :=
  ⟨fun _ _ => rfl, fun _ _ => rfl, fun _ _ _ => rfl⟩

/-- The world with an empty record of calls. -/
def World.unrecorded (w : World σ) : World (Recorded σ) := w.map fun inner => { inner }

/-- The calls that an execution makes to its platform, in order. They are read off an
execution on the recorded platform, which by `execute_recorded` does the same. -/
def callsOf (p : Platform σ) (pipeline : Pipeline) (w : World σ) : List PlatformCall :=
  (execute p.recorded pipeline w.unrecorded).2.state.calls

/-- Writing the calls down changes nothing else. -/
theorem execute_recorded (p : Platform σ) (pipeline : Pipeline) (w : World σ) :
    execute p pipeline w =
      ((execute p.recorded pipeline w.unrecorded).1,
        (execute p.recorded pipeline w.unrecorded).2.map Recorded.inner) :=
  p.recorded_mapsTo.commutes.execute pipeline w.unrecorded

end LineShell
