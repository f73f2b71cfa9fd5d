import LineShell.Proofs.PipeCreation
import LineShell.Proofs.Reaping

/-!
# How many descriptors are held at once

The number of descriptors that the shell holds goes up and down.  What counts is the
most that it ever comes to on the way from one world to another, and the journal shows
that, since every operation on descriptors leaves a moment behind.  Only two operations
add to the number: the creation of a pipe and the opening of a file.

## Main definitions

* `World.Within` — no more than a number of descriptors is held on the way.
* `Plan.fileCount` — the number of files that a launch opens.

## Main results

* `World.Within.openPipesFrom` — pipes take two descriptors each.
* `World.Within.launch` — a launch takes one for each file of its plan.
* `World.Within.reap` — waiting takes none.
-/

namespace LineShell

variable {σ : Type}

/-- On the way from one world to another the shell has at no moment more than a number of
descriptors. -/
structure World.Within (before : World σ) (bound : Nat) (after : World σ) : Prop where
  /-- It has no more of them at the end. -/
  count : after.holdings.count ≤ bound
  /-- The journal shows no more of them at any moment. -/
  moments : ∃ moments, before.Notes moments after ∧ ∀ m ∈ moments, m.holdings.count ≤ bound

namespace World.Within

variable {before w w' : World σ} {bound : Nat}

theorem self (h : w.holdings.count ≤ bound) : w.Within bound w :=
  ⟨h, [], w.notes_self, by simp⟩

/-- What the journal shows stays within the number. -/
theorem since_le (h : before.Within bound w) {m : Moment} (hm : m ∈ before.since w) :
    m.holdings.count ≤ bound := by
  obtain ⟨-, moments, hnotes, hmoments⟩ := h
  rw [World.since_eq hnotes] at hm
  exact hmoments m hm

/-! ### Single operations -/

/-- An operation that leaves one moment behind stays within the number if the shell does. -/
theorem step (h : before.Within bound w) {m : Moment} (hnotes : w.Notes [m] w')
    (hm : m.holdings.count ≤ bound) (hcount : w'.holdings.count ≤ bound) :
    before.Within bound w' := by
  obtain ⟨-, moments, hnotes', hmoments⟩ := h
  refine ⟨hcount, moments ++ [m], hnotes'.trans hnotes, ?_⟩
  intro m' hm'
  rcases List.mem_append.mp hm' with hmem | hmem
  · exact hmoments m' hmem
  · rw [List.mem_singleton.mp hmem]
    exact hm

section Steps

variable (h : before.Within bound w)

include h

/-- The state of the platform does not matter. -/
theorem state (s : σ) : before.Within bound { w with state := s } := ⟨h.count, h.moments⟩

theorem note (action : Action) : before.Within bound (w.note action) :=
  h.step (w.notes_note action) h.count h.count

theorem advance (source target : Phase) : before.Within bound (w.advance source target) :=
  h.note _

theorem warn (p : Platform σ) (text : String) : before.Within bound (w.warn p text) :=
  h.step (w.notes_warn p text) h.count h.count

theorem close (ends : List PipeEnd) : before.Within bound (w.close ends) := by
  have hcount : (w.close ends).holdings.count ≤ bound :=
    Nat.le_trans (Nat.add_le_add_right (List.length_filter_le _ _) _) h.count
  exact h.step (w.notes_close ends) hcount hcount

theorem closeFiles (files : List FileHandle) : before.Within bound (w.closeFiles files) := by
  have hcount : (w.closeFiles files).holdings.count ≤ bound :=
    Nat.le_trans (Nat.add_le_add_left (List.length_filter_le _ _) _) h.count
  exact h.step (w.notes_closeFiles files) hcount hcount

theorem handOver (child : ProcessId) (ends : List PipeEnd) :
    before.Within bound (w.handOver child ends) := by
  have hcount : (w.handOver child ends).holdings.count ≤ bound :=
    Nat.le_trans (Nat.add_le_add_right (List.length_filter_le _ _) _) h.count
  exact h.step (w.notes_handOver child ends) hcount hcount

theorem await (p : Platform σ) (child : ProcessId) :
    before.Within bound (w.await p child).2 :=
  h.step (w.notes_await p child) h.count h.count

/-- A pipe takes two descriptors. -/
theorem openPipe {number : Nat} {pipe : Pipe} (hopen : w.openPipe number = (.ok pipe, w'))
    (hle : w.holdings.count + 2 ≤ bound) : before.Within bound w' := by
  have hcount : w'.holdings.count ≤ bound := by
    rw [(World.count_of_openPipe_ok hopen).2]
    exact hle
  exact h.step (World.notes_openPipe hopen) hcount hcount

/-! ### Creating pipes, opening files, waiting -/

/-- The creation of pipes takes no more than two descriptors for each of them, whether or not
it succeeds. -/
theorem openPipesFrom (index : Nat) {count : Nat}
    (hle : w.holdings.count + 2 * count ≤ bound) :
    before.Within bound (w.openPipesFrom index count).2 := by
  induction count generalizing index w with
  | zero => exact h
  | succ count ih =>
    rcases hopen : w.openPipe index with ⟨errno | pipe, w₁⟩
    · simp only [World.openPipesFrom, hopen, World.openPipe_error hopen]
      exact h
    · have hcount := (World.count_of_openPipe_ok hopen).2
      have hrest := ih (h.openPipe hopen (by omega)) (index + 1) (by omega)
      rcases hpipes : w₁.openPipesFrom (index + 1) count with ⟨abort | pipes, w₂⟩
      · rw [hpipes] at hrest
        simp only [World.openPipesFrom, hopen, hpipes]
        exact hrest.close _
      · rw [hpipes] at hrest
        simp only [World.openPipesFrom, hopen, hpipes]
        exact hrest

/-- The file of a channel takes one descriptor. -/
theorem openChannel (call : String → σ → Except SystemError FileHandle × σ)
    {channel : Channel String} (hle : w.holdings.count + channel.files.length ≤ bound) :
    before.Within bound (Kernel.openChannel call channel w).2 := by
  cases channel with
  | inherit => exact h
  | pipe tip => exact h
  | file path =>
    simp only [Kernel.openChannel, Kernel.openRedirection, World.openFile]
    cases pathError? path with
    | some cause => exact h
    | none =>
      by_cases hroom : w.holdings.hasRoomFor 1 = true
      · rcases call path w.state with ⟨cause | file, s⟩
        · simp only [hroom, if_true]
          exact h.state s
        · -- the file is counted from the moment on that shows it opened
          simp only [hroom, if_true]
          have hcount : w.holdings.ends.length + (w.holdings.files.length + 1) ≤ bound := by
            simpa only [Holdings.count, Channel.files, List.length_singleton, Nat.add_assoc]
              using hle
          exact h.step rfl hcount hcount
      · simp only [hroom]
        exact h

/-- To wait for children takes no descriptor. -/
theorem reap (p : Platform σ) (entries : List Entry) :
    before.Within bound (LineShell.reap p entries w).2 := by
  induction entries generalizing w with
  | nil => exact h
  | cons e entries ih =>
    rw [reap_cons]
    refine ih ?_
    rcases hchild : e.child with fault | child
    · rw [e.reap_failed p hchild]
      exact h
    · rw [e.reap_running p hchild]
      exact h.await p child

end Steps

end World.Within

/-! ### Launching -/

/-- The number of files that the launch of a plan opens. -/
def Plan.fileCount (p : Plan) : Nat := p.stdin.files.length + p.stdout.files.length

namespace World.Within

variable {before w w' : World σ} {bound : Nat} (h : before.Within bound w) {k : Kernel σ}

include h

theorem startStage {arguments : List String} {stdin stdout : Channel FileHandle} :
    before.Within bound (k.startStage arguments stdin stdout w).2 := by
  rcases hstart : k.startStage arguments stdin stdout w with ⟨failure | child, w₁⟩
  · obtain ⟨s, rfl⟩ := Kernel.startStage_error hstart
    exact h.state s
  · obtain ⟨s, rfl⟩ := Kernel.startStage_ok hstart
    exact (h.state s).handOver child _

/-- A launch takes one descriptor for each file of its plan. -/
theorem openAndStart {plan : Plan} (hle : w.holdings.count + plan.fileCount ≤ bound) :
    before.Within bound (k.openAndStart plan w).2 := by
  rw [Plan.fileCount] at hle
  have hone : w.holdings.count + plan.stdin.files.length ≤ bound := by omega
  have hinput := h.openChannel k.openInput hone
  rcases hin : Kernel.openChannel k.openInput plan.stdin w with ⟨failure | stdin, w₁⟩
  · simp only [Kernel.openAndStart, hin]
    rwa [hin] at hinput
  replace hinput : before.Within bound w₁ := by rwa [hin] at hinput
  -- the output file comes on top of the input file
  have hboth : w₁.holdings.count + plan.stdout.files.length ≤ bound := by
    have := Kernel.count_of_openChannel hin
    omega
  have houtput := hinput.openChannel k.openOutput hboth
  rcases hout : Kernel.openChannel k.openOutput plan.stdout w₁ with ⟨failure | stdout, w₂⟩
  · rw [hout] at houtput
    simp only [Kernel.openAndStart, hin, hout]
    exact houtput.closeFiles _
  · rw [hout] at houtput
    simp only [Kernel.openAndStart, hin, hout]
    exact houtput.startStage.closeFiles _

theorem launch {plan : Plan} (hle : w.holdings.count + plan.fileCount ≤ bound) :
    before.Within bound (k.launch plan w).2 := by
  have hstart := h.openAndStart hle (k := k)
  rcases hresult : k.openAndStart plan w with ⟨failure | child, w₁⟩
  · rw [hresult] at hstart
    simp only [Kernel.launch, hresult]
    exact hstart.close _
  · rw [hresult] at hstart
    simp only [Kernel.launch, hresult]
    exact hstart

end World.Within

end LineShell
