import LineShell.Execution

/-!
# Executions that correspond

An execution never looks into its world: it asks for operations and goes by their
answers.  So a map of worlds that goes along with every single operation goes along
with the execution as a whole, and two executions correspond as soon as their
operations do.

## Main definitions

* `World.Commutes` — a map goes along with what the shell does by itself.
* `Platform.Commutes` — it goes along with the operations of two platforms, too.

## Main results

* `World.Commutes.openPipesFrom` — then it goes along with the creation of pipes.
* `Platform.Commutes.execute` — and with an execution.
-/

namespace LineShell

variable {σ τ : Type} {F : World τ → World σ}

/-! ### Operations of the shell -/

/-- A map of worlds goes along with the operations that need no platform. -/
structure World.Commutes (F : World τ → World σ) : Prop where
  /-- Notes agree. -/
  note : ∀ action w, (F w).note action = F (w.note action)
  /-- Closing pipe ends agrees. -/
  close : ∀ ends w, (F w).close ends = F (w.close ends)
  /-- The creation of a pipe agrees, and it has the same answer. -/
  openPipe : ∀ number w, (F w).openPipe number =
    ((w.openPipe number).1, F (w.openPipe number).2)

namespace World.Commutes

variable (h : World.Commutes F)

include h

theorem advance (source target : Phase) (w : World τ) :
    (F w).advance source target = F (w.advance source target) :=
  h.note _ w

theorem openPipesFrom (index count : Nat) (w : World τ) : (F w).openPipesFrom index count =
    ((w.openPipesFrom index count).1, F (w.openPipesFrom index count).2) := by
  induction count generalizing index w with
  | zero => rfl
  | succ count ih =>
    simp only [World.openPipesFrom, h.openPipe]
    rcases w.openPipe index with ⟨errno | pipe, w₁⟩
    · rfl
    · simp only [ih]
      rcases w₁.openPipesFrom (index + 1) count with ⟨abort | pipes, w₂⟩
      · simp only [h.close]
      · rfl

end World.Commutes

/-! ### Operations of platforms -/

/-- A map of worlds goes along with the operations of two platforms. -/
structure Platform.Commutes (F : World τ → World σ) (p : Platform τ) (q : Platform σ) : Prop
    extends World.Commutes F where
  /-- Launches agree, and they have the same result. -/
  launch : ∀ plan w, q.launch plan (F w) = ((p.launch plan w).1, F (p.launch plan w).2)
  /-- Diagnostics agree. -/
  warn : ∀ text w, (F w).warn q text = F (w.warn p text)
  /-- Waits agree, and they have the same answer. -/
  await : ∀ child w, (F w).await q child = ((w.await p child).1, F (w.await p child).2)

namespace Platform.Commutes

variable {p : Platform τ} {q : Platform σ} (h : Platform.Commutes F p q)

include h

theorem launchAll (plans : List Plan) (w : World τ) : LineShell.launchAll q plans (F w) =
    ((LineShell.launchAll p plans w).1, F (LineShell.launchAll p plans w).2) := by
  induction plans generalizing w with
  | nil => rfl
  | cons plan plans ih =>
    have hlaunch := h.launch plan w
    -- the answer is the same on both sides, so both go the same way
    rcases hp : p.launch plan w with ⟨(fault | cause) | child, w₁⟩ <;> rw [hp] at hlaunch
    · simp only [LineShell.launchAll, hlaunch, hp, h.note, h.warn, ih]
    · simp only [LineShell.launchAll, hlaunch, hp, h.note, h.close]
    · simp only [LineShell.launchAll, hlaunch, hp, h.note, ih]

theorem reap (entries : List Entry) (w : World τ) : LineShell.reap q entries (F w) =
    ((LineShell.reap p entries w).1, F (LineShell.reap p entries w).2) := by
  induction entries generalizing w with
  | nil => rfl
  | cons e entries ih =>
    have hentry : e.reap q (F w) = ((e.reap p w).1, F (e.reap p w).2) := by
      rcases hchild : e.child with fault | child
      · simp only [Entry.reap, hchild]
      · simp only [Entry.reap, hchild, h.await]
    simp only [LineShell.reap, hentry, ih]

/-- An execution sees its world through the operations only. -/
theorem execute (pipeline : Pipeline) (w : World τ) : LineShell.execute q pipeline (F w) =
    ((LineShell.execute p pipeline w).1, F (LineShell.execute p pipeline w).2) := by
  simp only [LineShell.execute, World.openPipes, h.openPipesFrom]
  rcases w.openPipesFrom 0 pipeline.pipeCount with ⟨abort | pipes, w₀⟩
  · rfl
  · simp only [h.advance, h.close, h.launchAll, h.reap]
    split <;> rfl

end Platform.Commutes

end LineShell
