import LineShell.Proofs.Journal
import LineShell.Proofs.Wiring

/-!
# The creation of pipes

All pipes of a pipeline are created in one go.  Each takes two descriptors, and the shell
has both of its ends then.  If one cannot be created, those before it are closed again, so
that the shell holds what it held before.

## Main results

* `World.eq_of_openPipe` — what a single pipe changes.
* `World.openPipesFrom_preserves` — what single steps preserve, the creation of pipes does.
* `exists_openPipesFrom_ok` — with room for all ends the pipes are created.
* `openPipesFrom_ok`, `perm_ends_openPipes` — which pipes these are, and who has their ends.
* `openPipesFrom_error` — otherwise nothing has changed hands.
* `execute_eq_of_openPipes_error` — without its pipes an execution does nothing more.
-/

namespace LineShell

variable {σ : Type}

/-! ### Room for descriptors -/

/-- Where there is room for some descriptors, there is room for those that take no more of
it. -/
theorem Holdings.hasRoomFor_of_le {h h' : Holdings} {m n : Nat} (hroom : h'.room = h.room)
    (hle : h'.count + m ≤ h.count + n) (hn : h.hasRoomFor n = true) : h'.hasRoomFor m = true := by
  cases hlimit : h.room with
  | none => simp [hasRoomFor, hroom, hlimit]
  | some room =>
    simp only [hasRoomFor, hroom, hlimit, decide_eq_true_eq] at hn ⊢
    omega

/-! ### Removing ends -/

/-- Removing the new ones from new and old pipe ends leaves the old ones. -/
theorem filter_notMem_append {new old removed : List PipeEnd}
    (hnew : ∀ tip ∈ new, tip ∈ removed) (hold : ∀ tip ∈ old, tip ∉ removed) :
    (new ++ old).filter (· ∉ removed) = old := by
  have h₁ : new.filter (· ∉ removed) = [] := by
    simpa [List.filter_eq_nil_iff] using hnew
  have h₂ : old.filter (· ∉ removed) = old := by
    simpa [List.filter_eq_self] using hold
  rw [List.filter_append, h₁, h₂, List.nil_append]

/-- Removing some pipe ends and then others is removing all of them. -/
theorem filter_notMem_filter (ends first second : List PipeEnd) :
    (ends.filter (· ∉ first)).filter (· ∉ second) = ends.filter (· ∉ first ++ second) := by
  rw [List.filter_filter]
  refine List.filter_congr fun tip _ => ?_
  simp [Bool.and_comm]

/-! ### One pipe -/

/-- A pipe that was created is the one of its number, and the shell has its ends. Nothing
else has changed. -/
theorem World.eq_of_openPipe {number : Nat} {w w' : World σ} {pipe : Pipe}
    (h : w.openPipe number = (.ok pipe, w')) : pipe = Pipe.ofNumber number ∧
      w' = World.note (.openedPipe pipe)
        { w with holdings := { w.holdings with ends := pipe.ends ++ w.holdings.ends } } := by
  unfold World.openPipe at h
  split at h
  · cases h
    exact ⟨rfl, rfl⟩
  · cases h

theorem World.openPipe_ok {number : Nat} {w w' : World σ} {pipe : Pipe}
    (h : w.openPipe number = (.ok pipe, w')) :
    pipe = Pipe.ofNumber number ∧ w.DescriptorWork w' ∧
      w'.holdings = { w.holdings with ends := pipe.ends ++ w.holdings.ends } := by
  obtain ⟨hpipe, rfl⟩ := World.eq_of_openPipe h
  exact ⟨hpipe, World.descriptorWork_of_note (World.notes_note _ _) rfl, rfl⟩

theorem World.openPipe_error {number : Nat} {w w' : World σ} {errno : Errno}
    (h : w.openPipe number = (.error errno, w')) : w' = w := by
  unfold World.openPipe at h
  split at h
  · simp at h
  · simp only [Prod.mk.injEq] at h
    exact h.2.symm

/-- A pipe takes two descriptors. -/
theorem World.count_of_openPipe_ok {number : Nat} {w w' : World σ} {pipe : Pipe}
    (h : w.openPipe number = (.ok pipe, w')) :
    w'.holdings.room = w.holdings.room ∧ w'.holdings.count = w.holdings.count + 2 := by
  obtain ⟨rfl, rfl⟩ := World.eq_of_openPipe h
  refine ⟨rfl, ?_⟩
  simp only [World.holdings_note, Holdings.count, Pipe.ends, List.length_append,
    List.length_cons, List.length_nil]
  omega

theorem World.notes_openPipe {number : Nat} {w w' : World σ} {pipe : Pipe}
    (h : w.openPipe number = (.ok pipe, w')) : w.Notes [⟨.openedPipe pipe, w'.holdings⟩] w' := by
  obtain ⟨-, rfl⟩ := World.eq_of_openPipe h
  rfl

/-! ### All pipes -/

/-- What creating a pipe and closing pipe ends preserve is preserved by creating pipes,
whether or not all of them can be created. -/
theorem World.openPipesFrom_preserves {P : World σ → Prop}
    (hopen : ∀ {number w pipe w'}, w.openPipe number = (.ok pipe, w') → P w → P w')
    (hclose : ∀ {w} ends, P w → P (w.close ends)) (index count : Nat) {w : World σ} (h : P w) :
    P (w.openPipesFrom index count).2 := by
  induction count generalizing index w with
  | zero => exact h
  | succ count ih =>
    rcases hpipe : w.openPipe index with ⟨errno | pipe, w₁⟩
    · simp only [World.openPipesFrom, hpipe, World.openPipe_error hpipe]
      exact h
    · have hrest := ih (index + 1) (hopen hpipe h)
      rcases hpipes : w₁.openPipesFrom (index + 1) count with ⟨abort | pipes, w₂⟩
      · rw [hpipes] at hrest
        simp only [World.openPipesFrom, hpipe, hpipes]
        exact hclose _ hrest
      · rw [hpipes] at hrest
        simp only [World.openPipesFrom, hpipe, hpipes]
        exact hrest

/-- The creation of pipes is no matter of the platform. -/
theorem World.state_openPipesFrom (index count : Nat) (w : World σ) :
    (w.openPipesFrom index count).2.state = w.state := by
  refine World.openPipesFrom_preserves (P := fun w' => w'.state = w.state) ?_ ?_ index count rfl
  · intro number w₁ pipe w₂ hopen hstate
    obtain ⟨-, rfl⟩ := World.eq_of_openPipe hopen
    exact hstate
  · intro w₁ ends hstate
    exact hstate

theorem World.state_openPipes {count : Nat} {w w₀ : World σ} {result : Except Abort (List Pipe)}
    (h : w.openPipes count = (result, w₀)) : w₀.state = w.state := by
  have hstate := w.state_openPipesFrom 0 count
  rw [World.openPipes] at h
  rwa [h] at hstate

/-- With room for all their ends, all pipes are created. -/
theorem exists_openPipesFrom_ok (index : Nat) {count : Nat} {w : World σ}
    (hroom : w.holdings.hasRoomFor (2 * count) = true) :
    ∃ pipes w', w.openPipesFrom index count = (.ok pipes, w') := by
  induction count generalizing index w with
  | zero => exact ⟨[], w, rfl⟩
  | succ count ih =>
    obtain ⟨pipe, w₁, hopen⟩ : ∃ pipe w₁, w.openPipe index = (.ok pipe, w₁) := by
      have htwo : w.holdings.hasRoomFor 2 = true :=
        Holdings.hasRoomFor_of_le rfl (by omega) hroom
      simp [World.openPipe, htwo]
    obtain ⟨hlimit, hcount⟩ := World.count_of_openPipe_ok hopen
    have hrest : w₁.holdings.hasRoomFor (2 * count) = true :=
      Holdings.hasRoomFor_of_le hlimit (by omega) hroom
    obtain ⟨pipes, w₂, hpipes⟩ := ih (index + 1) hrest
    exact ⟨pipe :: pipes, w₂, by simp only [World.openPipesFrom, hopen, hpipes]⟩

/-- Pipes that were all created are numbered in order, and the shell has both ends
of each. -/
theorem openPipesFrom_ok {index count : Nat} {w w' : World σ} {pipes : List Pipe}
    (h : World.openPipesFrom index count w = (.ok pipes, w')) :
    pipes = (List.range' index count).map Pipe.ofNumber ∧ w.DescriptorWork w' ∧
      w'.holdings =
        { w.holdings with ends := pipes.reverse.flatMap Pipe.ends ++ w.holdings.ends } := by
  induction count generalizing index w pipes with
  | zero =>
    simp only [World.openPipesFrom, Prod.mk.injEq, Except.ok.injEq] at h
    obtain ⟨rfl, rfl⟩ := h
    exact ⟨rfl, w.descriptorWork_self, rfl⟩
  | succ count ih =>
    rcases hopen : w.openPipe index with ⟨e | pipe, w₁⟩
    · simp [World.openPipesFrom, hopen] at h
    rcases hrest : World.openPipesFrom (index + 1) count w₁ with ⟨e | rest, w₂⟩
    · simp [World.openPipesFrom, hopen, hrest] at h
    simp only [World.openPipesFrom, hopen, hrest, Prod.mk.injEq, Except.ok.injEq] at h
    obtain ⟨rfl, rfl⟩ := h
    obtain ⟨hpipe, hwork₁, hholdings₁⟩ := World.openPipe_ok hopen
    obtain ⟨hrest, hwork₂, hholdings₂⟩ := ih hrest
    refine ⟨?_, hwork₁.trans hwork₂, ?_⟩
    · rw [hrest, hpipe, List.range'_succ, List.map_cons]
    · simp [hholdings₂, hholdings₁]

/-- The pipes of a pipeline are the first ones, and the shell has each of their ends once. -/
theorem perm_ends_openPipes {count : Nat} {w w' : World σ} {pipes : List Pipe}
    (h : w.openPipes count = (.ok pipes, w')) :
    pipes = numberedPipes count ∧ ∃ new : List PipeEnd,
      new.Perm ((numberedPipes count).flatMap Pipe.ends) ∧
        w'.holdings = { w.holdings with ends := new ++ w.holdings.ends } := by
  obtain ⟨hpipes, -, hholdings⟩ := openPipesFrom_ok h
  rw [← List.range_eq_range'] at hpipes
  obtain rfl : pipes = numberedPipes count := hpipes
  exact ⟨rfl, _, (numberedPipes count).reverse_perm.flatMap_right Pipe.ends, hholdings⟩

/-- All ends of the pipes come to the shell. -/
theorem openPipes_ok {count : Nat} {w w' : World σ} {pipes : List Pipe}
    (h : w.openPipes count = (.ok pipes, w')) :
    pipes = numberedPipes count ∧ w.DescriptorWork w' ∧
      ∃ new : List PipeEnd, (∀ tip : PipeEnd, tip ∈ new ↔ tip.pipe < count) ∧
        w'.holdings = { w.holdings with ends := new ++ w.holdings.ends } := by
  obtain ⟨hpipes, new, hperm, hholdings⟩ := perm_ends_openPipes h
  obtain ⟨-, hwork, -⟩ := openPipesFrom_ok h
  exact ⟨hpipes, hwork, new, fun _ => hperm.mem_iff.trans mem_ends_numberedPipes, hholdings⟩

/-- Where one pipe cannot be created, those before it are closed again. -/
theorem openPipesFrom_error {index count : Nat} {w w' : World σ} {abort : Abort}
    (hnew : ∀ tip ∈ w.holdings.ends, tip.pipe < index ∨ index + count ≤ tip.pipe)
    (h : World.openPipesFrom index count w = (.error abort, w')) :
    w.DescriptorWork w' ∧ w'.holdings = w.holdings := by
  induction count generalizing index w abort w' with
  | zero => simp [World.openPipesFrom] at h
  | succ count ih =>
    rcases hopen : w.openPipe index with ⟨e | pipe, w₁⟩
    · simp only [World.openPipesFrom, hopen, Prod.mk.injEq] at h
      obtain ⟨-, rfl⟩ := h
      rw [World.openPipe_error hopen]
      exact ⟨w.descriptorWork_self, rfl⟩
    obtain ⟨rfl, hwork₁, hholdings₁⟩ := World.openPipe_ok hopen
    rcases hrest : World.openPipesFrom (index + 1) count w₁ with ⟨e | rest, w₂⟩
    · simp only [World.openPipesFrom, hopen, hrest, Prod.mk.injEq] at h
      obtain ⟨-, rfl⟩ := h
      -- the pipe that was created lies below those that are still to come
      have hnew₁ : ∀ tip ∈ w₁.holdings.ends,
          tip.pipe < index + 1 ∨ index + 1 + count ≤ tip.pipe := by
        intro tip htip
        rw [hholdings₁] at htip
        rcases List.mem_append.mp htip with hmem | hmem
        · have := pipe_of_mem_ends hmem
          omega
        · have := hnew tip hmem
          omega
      obtain ⟨hwork₂, hholdings₂⟩ := ih hnew₁ hrest
      have hclosed : ((Pipe.ofNumber index).ends ++ w.holdings.ends).filter
          (· ∉ (Pipe.ofNumber index).ends) = w.holdings.ends := by
        refine filter_notMem_append (fun _ htip => htip) ?_
        intro tip htip hmem
        have := hnew tip htip
        have := pipe_of_mem_ends hmem
        omega
      refine ⟨(hwork₁.trans hwork₂).trans
        (World.descriptorWork_of_note (w₂.notes_close _) rfl), ?_⟩
      rw [World.holdings_close, hholdings₂, hholdings₁]
      simp only [hclosed]
    · simp [World.openPipesFrom, hopen, hrest] at h

/-- Without its pipes an execution does nothing more. -/
theorem execute_eq_of_openPipes_error {p : Platform σ} {pipeline : Pipeline} {w w₀ : World σ}
    {abort : Abort} (h : w.openPipes pipeline.pipeCount = (.error abort, w₀)) :
    execute p pipeline w = (.error abort, w₀) := by
  simp only [execute, h]

/-- So there is a report only if the pipes were created. -/
theorem exists_openPipes_of_report {p : Platform σ} {pipeline : Pipeline} {w : World σ}
    {report : Report} (h : (execute p pipeline w).1 = .ok report) :
    ∃ pipes w₀, w.openPipes pipeline.pipeCount = (.ok pipes, w₀) := by
  rcases hopen : w.openPipes pipeline.pipeCount with ⟨abort | pipes, w₀⟩
  · rw [execute_eq_of_openPipes_error hopen] at h
    cases h
  · exact ⟨pipes, w₀, rfl⟩

end LineShell
