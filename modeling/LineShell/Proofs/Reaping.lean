import LineShell.Proofs.Launching

/-!
# What reaping does to the world

Reaping waits for one child after the other.  A wait changes no pipe end and no
redirection file of the shell; it strikes the child off, whether or not it succeeds.
With that the journal of a whole execution is known.

## Main definitions

* `phaseSteps` — the way through the phases.
* `ShowsExecution` — what the journal of an execution shows.

## Main results

* `reap_cons` — reaping goes entry by entry.
* `exists_notes_reap` — the journal shows waits only, and the first begins in the
  world that reaping starts from.
* `mem_children_reap` — no child of an entry is left.
* `showsExecution` — the journal of an execution with its pipes created.
-/

namespace LineShell

variable {σ : Type} (p : Platform σ)

/-! ### Waiting for one child after the other -/

theorem reap_cons (e : Entry) (entries : List Entry) (w : World σ) :
    reap p (e :: entries) w =
      ((e.reap p w).1 :: (reap p entries (e.reap p w).2).1,
        (reap p entries (e.reap p w).2).2) := rfl

theorem Entry.reap_running {e : Entry} {child : ProcessId} (h : e.child = .ok child)
    (w : World σ) : e.reap p w =
      (⟨e.index, e.program, .ofWait (w.await p child).1⟩, (w.await p child).2) := by
  simp [Entry.reap, h]

theorem Entry.reap_failed {e : Entry} {fault : StageFault} (h : e.child = .error fault)
    (w : World σ) : e.reap p w = (⟨e.index, e.program, .failed fault⟩, w) := by
  simp [Entry.reap, h]

@[simp] theorem Entry.ends_reap (e : Entry) (w : World σ) :
    (e.reap p w).2.holdings.ends = w.holdings.ends := by
  rcases h : e.child with fault | child
  · rw [e.reap_failed p h]
  · rw [e.reap_running p h, World.ends_await]

@[simp] theorem Entry.files_reap (e : Entry) (w : World σ) :
    (e.reap p w).2.holdings.files = w.holdings.files := by
  rcases h : e.child with fault | child
  · rw [e.reap_failed p h]
  · rw [e.reap_running p h, World.files_await]

theorem ends_reap (entries : List Entry) (w : World σ) :
    (reap p entries w).2.holdings.ends = w.holdings.ends := by
  induction entries generalizing w with
  | nil => rfl
  | cons e entries ih => rw [reap_cons, ih, Entry.ends_reap]

theorem files_reap (entries : List Entry) (w : World σ) :
    (reap p entries w).2.holdings.files = w.holdings.files := by
  induction entries generalizing w with
  | nil => rfl
  | cons e entries ih => rw [reap_cons, ih, Entry.files_reap]

/-- A child is struck off by the wait for it, and only by that. -/
theorem mem_children_reap {entries : List Entry} {w : World σ}
    {child : ProcessId × List PipeEnd} :
    child ∈ (reap p entries w).2.holdings.children ↔
      child ∈ w.holdings.children ∧ ∀ e ∈ entries, e.child ≠ .ok child.1 := by
  induction entries generalizing w with
  | nil => simp [reap]
  | cons e entries ih =>
    rw [reap_cons, ih]
    rcases h : e.child with fault | process
    · rw [e.reap_failed p h]
      simp [h]
    · rw [e.reap_running p h]
      simp only [World.children_await, List.mem_filter, bne_iff_ne, List.mem_cons,
        forall_eq_or_imp, h, ne_eq, Except.ok.injEq]
      rw [and_assoc, eq_comm]

/-- The journal shows waits only, and the first begins in the world that reaping
starts from. -/
theorem exists_notes_reap (entries : List Entry) (w : World σ) :
    ∃ moments, w.Notes moments (reap p entries w).2 ∧
      (∀ m ∈ moments, m.isWait = true) ∧
      ∀ m, moments.head? = some m → m.holdings = w.holdings := by
  induction entries generalizing w with
  | nil => exact ⟨[], w.notes_self, by simp, by simp⟩
  | cons e entries ih =>
    obtain ⟨moments, hnotes, hwaits, hfirst⟩ := ih (e.reap p w).2
    rcases h : e.child with fault | child
    · rw [e.reap_failed p h] at hnotes hfirst
      refine ⟨moments, ?_, hwaits, hfirst⟩
      rw [reap_cons, e.reap_failed p h]
      exact hnotes
    · rw [e.reap_running p h] at hnotes
      refine ⟨⟨.awaited child, w.holdings⟩ :: moments, ?_, ?_, ?_⟩
      · rw [reap_cons, e.reap_running p h]
        exact (w.notes_await p child).trans hnotes
      · simpa [Moment.isWait] using hwaits
      · intro m hm
        cases hm
        rfl

/-! ### The journal of an execution -/

/-- The steps through the phases, where the launch ended in a given one. -/
def phaseSteps (launched : Phase) : List (Phase × Phase) :=
  [(.parsed, .pipesAllocated), (.pipesAllocated, .spawning), (.spawning, launched),
    (launched, .reaping), (.reaping, .done)]

/-- What the journal shows of an execution with its pipes created, whose launch loop goes
from one world to another and ends in a given phase. -/
structure ShowsExecution (plans : List Plan) (results : List LaunchResult) (launched : Phase)
    (ready finished : World σ) (moments : List Moment) : Prop where
  /-- The launches are those of the loop. -/
  launches : moments.filterMap Moment.launched? = plans.zip results
  /-- The phases follow one another. -/
  steps : moments.filterMap Moment.advance? = phaseSteps launched
  /-- Outside the loop no launch returns. -/
  within : ∀ m ∈ moments, ∀ launch, m.launched? = some launch → m ∈ ready.since finished
  /-- Reaping begins with what the loop has left. -/
  reaping : ∀ m ∈ moments, ∀ source, m.advance? = some (source, .reaping) →
    m.holdings = finished.holdings
  /-- So does the first wait. -/
  first_wait : ∀ m, moments.find? Moment.isWait = some m → m.holdings = finished.holdings

/-- An execution advances, launches, advances again and waits. -/
theorem notes_execution {pipeline : Pipeline} {refusal : Option Abort} {w₀ w₁ w₂ : World σ}
    {launching waiting : List Moment} (hlaunching : (w₀.readyToLaunch pipeline).Notes launching w₁)
    (hwaiting : (w₁.readyToReap refusal).Notes waiting w₂) :
    w₀.Notes (⟨.advanced .parsed .pipesAllocated, w₀.holdings⟩ ::
      ⟨.closed pipeline.wiring.displaced, (w₀.readyToLaunch pipeline).holdings⟩ ::
      ⟨.advanced .pipesAllocated .spawning, (w₀.readyToLaunch pipeline).holdings⟩ ::
      (launching ++ ⟨.advanced .spawning (launchedPhase refusal), w₁.holdings⟩ ::
        ⟨.advanced (launchedPhase refusal) .reaping, w₁.holdings⟩ ::
        (waiting ++ [⟨.advanced .reaping .done, w₂.holdings⟩])))
      (w₂.advance .reaping .done) := by
  have hready : w₀.Notes _ (w₀.readyToLaunch pipeline) :=
    (w₀.notes_advance .parsed .pipesAllocated).trans
      ((World.notes_close _ pipeline.wiring.displaced).trans
        (World.notes_advance _ .pipesAllocated .spawning))
  have hreap : w₁.Notes _ (w₁.readyToReap refusal) :=
    (w₁.notes_advance .spawning (launchedPhase refusal)).trans
      (World.notes_advance _ (launchedPhase refusal) .reaping)
  exact hready.trans (hlaunching.trans (hreap.trans (hwaiting.trans
    (w₂.notes_advance .reaping .done))))

/-- What the journal shows of an execution, whatever is reaped. -/
theorem showsExecution {p : Platform σ} (hp : p.KeepsJournal) {pipeline : Pipeline}
    {w w₀ w₁ : World σ} {results : List LaunchResult} (hopened : w.DescriptorWork w₀)
    (h : Launches p pipeline.plans (w₀.readyToLaunch pipeline) results w₁)
    (entries : List Entry) (refusal : Option Abort) :
    ShowsExecution pipeline.plans results (launchedPhase refusal) (w₀.readyToLaunch pipeline) w₁
      (w.since ((reap p entries (w₁.readyToReap refusal)).2.advance .reaping .done)) := by
  -- opening and launching are work on descriptors and launches, and reaping is waits
  obtain ⟨opening, hopening, hwork⟩ := hopened
  obtain ⟨launching, hlaunching, hlaunched, hadvance, hwait⟩ := h.exists_notes hp
  obtain ⟨waiting, hwaiting, hwaits, hfirst⟩ := exists_notes_reap p entries (w₁.readyToReap refusal)
  rw [World.since_eq (hopening.trans (notes_execution hlaunching hwaiting))]
  refine ⟨?_, ?_, ?_, ?_, ?_⟩
  · simp [filterMap_launched?_of_descriptorWork hwork, filterMap_launched?_of_waits hwaits,
      hlaunched, Moment.launched?, List.filterMap_cons]
  · simp [filterMap_advance?_of_descriptorWork hwork, filterMap_advance?_of_waits hwaits,
      hadvance, Moment.advance?, List.filterMap_cons, phaseSteps]
  · intro m hm launch hmoment
    rw [World.since_eq hlaunching]
    simp only [List.mem_append, List.mem_cons, List.not_mem_nil, or_false] at hm
    -- each stretch of the journal but the one of the loop is without launches
    rcases hm with hm | rfl | rfl | rfl | hm | rfl | rfl | hm | rfl
    · rw [m.launched?_of_work (hwork m hm)] at hmoment
      cases hmoment
    · cases hmoment
    · cases hmoment
    · cases hmoment
    · exact hm
    · cases hmoment
    · cases hmoment
    · rw [m.launched?_of_isWait (hwaits m hm)] at hmoment
      cases hmoment
    · cases hmoment
  · intro m hm source hmoment
    simp only [List.mem_append, List.mem_cons, List.not_mem_nil, or_false] at hm
    rcases hm with hm | rfl | rfl | rfl | hm | rfl | rfl | hm | rfl
    · rw [m.advance?_of_work (hwork m hm)] at hmoment
      cases hmoment
    · cases hmoment
    · cases hmoment
    · cases hmoment
    · rw [List.filterMap_eq_nil_iff.mp hadvance m hm] at hmoment
      cases hmoment
    · rfl
    · rfl
    · rw [m.advance?_of_isWait (hwaits m hm)] at hmoment
      cases hmoment
    · cases hmoment
  · intro m hm
    rw [← List.head?_filter] at hm
    simp only [List.filter_append, List.filter_cons, filter_isWait_of_descriptorWork hwork, hwait,
      List.filter_eq_self.mpr hwaits] at hm
    exact hfirst m (by simpa [Moment.isWait] using hm)

end LineShell
