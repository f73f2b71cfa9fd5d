import LineShell.Proofs.Past
import LineShell.Proofs.PipeCreation

/-!
# All pipes or none

The shell creates all pipes of a pipeline before it does anything else for it.  A pipe
takes two descriptors, so whether that goes through is a matter of how many descriptors
are left.  Where they do not suffice, the shell closes what it has created and gives up,
and nobody can tell afterwards that it tried.

## Main definitions

* `Holdings.free?` — how many descriptors are left.
* `World.Unused` — the pipes to come are new to the shell.
* `World.AllOrNone` — what the creation of pipes comes to, for a number of free
  descriptors.
* `World.limit` — another limit is set.
* `NoTrace` — an execution comes to nothing and leaves nothing behind.

## Main results

* `World.openPipesFrom_of_full` — where the pipes end.
* `World.allOrNone` — all pipes are created or none.
* `execute_all_or_none` — the same, and what it means for an execution.
-/

namespace LineShell

variable {σ : Type}

/-! ### Descriptors that are left -/

/-- How many further descriptors the shell may open, if there is a limit. -/
def Holdings.free? (h : Holdings) : Option Nat := h.room.map (· - h.count)

namespace Holdings

variable {h h' : Holdings} {free n : Nat} (hfree : h.free? = some free)

include hfree

theorem hasRoomFor_iff (hn : 0 < n) : h.hasRoomFor n = true ↔ n ≤ free := by
  cases hroom : h.room with
  | none => simp [free?, hroom] at hfree
  | some room =>
    simp only [free?, hroom, Option.map_some, Option.some.injEq] at hfree
    simp only [hasRoomFor, hroom, decide_eq_true_eq]
    omega

/-- Descriptors that are opened are no longer free. -/
theorem free?_of_count (hroom : h'.room = h.room) (hcount : h'.count = h.count + n) :
    h'.free? = some (free - n) := by
  cases hlimit : h.room with
  | none => simp [free?, hlimit] at hfree
  | some room =>
    simp only [free?, hlimit, Option.map_some, Option.some.injEq] at hfree
    simp only [free?, hroom, hlimit, hcount, Option.map_some, Option.some.injEq]
    omega

end Holdings

/-! ### The creation of pipes -/

/-- The shell has no end of the first pipes. -/
def World.Unused (w : World σ) (count : Nat) : Prop :=
  ∀ tip ∈ w.holdings.ends, count ≤ tip.pipe

namespace World

variable {w : World σ} {free : Nat} (hfree : w.holdings.free? = some free)

include hfree

/-- With less than two descriptors left there is no other pipe. -/
theorem openPipe_of_full (hfull : free < 2) (number : Nat) :
    w.openPipe number = (.error .EMFILE, w) := by
  have hroom : ¬ w.holdings.hasRoomFor 2 = true := by
    rw [Holdings.hasRoomFor_iff hfree (by omega)]
    omega
  simp [openPipe, hroom]

/-- With two descriptors for each pipe, all of them are created. -/
theorem exists_openPipes_ok {count : Nat} (hle : 2 * count ≤ free) :
    ∃ pipes w', w.openPipes count = (.ok pipes, w') := by
  cases count with
  | zero => exact ⟨[], w, rfl⟩
  | succ count =>
    exact exists_openPipesFrom_ok 0 ((Holdings.hasRoomFor_iff hfree (by omega)).mpr hle)

/-- Otherwise pipes are created until less than two descriptors are left. -/
theorem openPipesFrom_of_full (index : Nat) {count : Nat} (hfull : free < 2 * count) :
    (w.openPipesFrom index count).1 = .error (.pipeCreation (index + free / 2) .EMFILE) := by
  induction count generalizing index w free with
  | zero => omega
  | succ count ih =>
    rcases Nat.lt_or_ge free 2 with hlast | hmore
    · have hzero : free / 2 = 0 := by omega
      simp [openPipesFrom, openPipe_of_full hfree hlast, hzero]
    · obtain ⟨pipe, w₁, hopen⟩ : ∃ pipe w₁, w.openPipe index = (.ok pipe, w₁) := by
        have hroom := (Holdings.hasRoomFor_iff hfree (by omega)).mpr hmore
        simp [openPipe, hroom]
      obtain ⟨hroom, hcount⟩ := count_of_openPipe_ok hopen
      -- each pipe takes two of the descriptors that are left, and the next index is one more
      have hrest : (w₁.openPipesFrom (index + 1) count).1 =
          .error (.pipeCreation (index + 1 + (free - 2) / 2) .EMFILE) :=
        ih (Holdings.free?_of_count hfree hroom hcount) (index + 1) (by omega)
      have hindex : index + 1 + (free - 2) / 2 = index + free / 2 := by omega
      rw [hindex] at hrest
      rcases hpipes : w₁.openPipesFrom (index + 1) count with ⟨abort | pipes, w₂⟩
      · rw [hpipes] at hrest
        simp only [openPipesFrom, hopen, hpipes]
        exact hrest
      · rw [hpipes] at hrest
        cases hrest

theorem openPipes_of_full {count : Nat} (hfull : free < 2 * count) :
    (w.openPipes count).1 = .error (.pipeCreation (free / 2) .EMFILE) := by
  have h := openPipesFrom_of_full hfree 0 hfull
  rwa [Nat.zero_add] at h

omit hfree in
/-- The journal shows that pipes were created and that pipe ends were closed, and nothing
else. -/
theorem notes_openPipesFrom (index count : Nat) (w : World σ) :
    ∃ moments, w.Notes moments (w.openPipesFrom index count).2 ∧
      ∀ m ∈ moments, (∃ pipe, m.action = .openedPipe pipe) ∨ ∃ ends, m.action = .closed ends := by
  refine openPipesFrom_preserves (P := fun w' => ∃ moments, w.Notes moments w' ∧ ∀ m ∈ moments,
    (∃ pipe, m.action = .openedPipe pipe) ∨ ∃ ends, m.action = .closed ends) ?_ ?_ index count
      ⟨[], w.notes_self, by simp⟩
  · rintro number w₁ pipe w₂ hopen ⟨moments, hnotes, hmoments⟩
    refine ⟨_, hnotes.trans (notes_openPipe hopen), ?_⟩
    simp only [List.mem_append, List.mem_singleton]
    rintro m (hm | rfl)
    · exact hmoments m hm
    · exact Or.inl ⟨pipe, rfl⟩
  · rintro w₁ ends ⟨moments, hnotes, hmoments⟩
    refine ⟨_, hnotes.trans (w₁.notes_close ends), ?_⟩
    simp only [List.mem_append, List.mem_singleton]
    rintro m (hm | rfl)
    · exact hmoments m hm
    · exact Or.inr ⟨ends, rfl⟩

end World

/-- What it comes to when the shell creates a number of pipes while a number of descriptors
is free: either all of them are there, or the first that could not be created is named and
nothing has changed hands. -/
structure World.AllOrNone (w : World σ) (free count : Nat) : Prop where
  /-- Two descriptors for each pipe are needed, and they suffice. -/
  created_iff : (∃ pipes, (w.openPipes count).1 = .ok pipes) ↔ 2 * count ≤ free
  /-- If pipes are created, then as many as were asked for; the shell has both ends of each,
  which are new to it, and everything else is as it was. -/
  created : ∀ pipes, (w.openPipes count).1 = .ok pipes → pipes.length = count ∧
    ∃ new, new.Perm (pipes.flatMap Pipe.ends) ∧ new.length = 2 * count ∧ new.Nodup ∧
      (∀ tip ∈ new, tip ∉ w.holdings.ends) ∧
      (w.openPipes count).2.holdings = { w.holdings with ends := new ++ w.holdings.ends }
  /-- If they are not, half of the free descriptors were used up by the pipes before the one
  that is named, and all of them are free again. -/
  failed : ∀ abort, (w.openPipes count).1 = .error abort →
    abort = .pipeCreation (free / 2) .EMFILE ∧ (w.openPipes count).2.holdings = w.holdings
  /-- The platform has no part in it. -/
  state : (w.openPipes count).2.state = w.state

/-- All pipes are created or none. -/
theorem World.allOrNone {w : World σ} {free count : Nat} (hfree : w.holdings.free? = some free)
    (hw : w.Unused count) : w.AllOrNone free count := by
  have hstate : (w.openPipes count).2.state = w.state := w.state_openPipesFrom 0 count
  rcases Nat.lt_or_ge free (2 * count) with hfull | hle
  · have hresult := openPipes_of_full hfree hfull
    have hnew : ∀ tip ∈ w.holdings.ends, tip.pipe < 0 ∨ 0 + count ≤ tip.pipe := by
      intro tip htip
      have := hw tip htip
      omega
    have hholdings := (openPipesFrom_error hnew (Prod.ext hresult rfl)).2
    refine ⟨?_, ?_, ?_, hstate⟩
    · rw [hresult]
      simpa using hfull
    · intro pipes hpipes
      rw [hresult] at hpipes
      cases hpipes
    · intro abort habort
      rw [hresult] at habort
      cases habort
      exact ⟨rfl, hholdings⟩
  · obtain ⟨pipes, w', hopen⟩ := exists_openPipes_ok hfree hle
    obtain ⟨rfl, new, hperm, hholdings⟩ := perm_ends_openPipes hopen
    refine ⟨?_, ?_, ?_, hstate⟩
    · rw [hopen]
      simpa using hle
    · intro pipes hpipes
      rw [hopen] at hpipes ⊢
      cases hpipes
      refine ⟨length_numberedPipes count, new, hperm, ?_,
        hperm.nodup_iff.mpr (nodup_ends_numberedPipes count), ?_, hholdings⟩
      · rw [hperm.length_eq, length_flatMap_ends, length_numberedPipes]
      · intro tip htip hold
        have := mem_ends_numberedPipes.mp (hperm.mem_iff.mp htip)
        have := hw tip hold
        omega
    · intro abort habort
      rw [hopen] at habort
      cases habort

/-! ### Executions that come to nothing -/

/-- The limit on the descriptors of the shell is set anew. -/
def World.limit (room : Option Nat) (w : World σ) : World σ :=
  { w with holdings := { w.holdings with room } }

/-- An execution fails at its pipes while a number of descriptors is free, and nothing is
left of it. -/
structure NoTrace (p : Platform σ) (pipeline : Pipeline) (w : World σ) (free : Nat) : Prop where
  /-- The first pipe that could not be created is named. -/
  result : (execute p pipeline w).1 = .error (.pipeCreation (free / 2) .EMFILE)
  /-- The platform is asked for nothing: no stage is launched, no child is waited for and
  nothing is printed. -/
  calls : callsOf p pipeline w = []
  /-- The platform is in the same state, and the same descriptors are held. -/
  alike : (execute p pipeline w).2.Alike w
  /-- Pipes were created and closed again; no file was opened, and no phase was left. -/
  since : ∀ m ∈ w.since (execute p pipeline w).2,
    (∃ pipe, m.action = .openedPipe pipe) ∨ ∃ ends, m.action = .closed ends
  /-- Whatever is executed later, and under whatever limit, does what it would have done at
  once. -/
  later : ∀ (other : Pipeline) (room : Option Nat),
    SameCourse p other ((execute p pipeline w).2.limit room) (w.limit room)

/-- Where the descriptors do not suffice for the pipes, an execution comes to nothing. -/
theorem noTrace {p : Platform σ} (hp : p.IgnoresJournal) {pipeline : Pipeline} {w : World σ}
    {free : Nat} (hfree : w.holdings.free? = some free) (hw : w.Unused pipeline.pipeCount)
    (hfull : free < 2 * pipeline.pipeCount) : NoTrace p pipeline w free := by
  have hpipes := World.allOrNone hfree hw
  obtain ⟨w', hopen⟩ : ∃ w', w.openPipes pipeline.pipeCount =
      (.error (.pipeCreation (free / 2) .EMFILE), w') :=
    ⟨_, Prod.ext (World.openPipes_of_full hfree hfull) rfl⟩
  have hexecute : execute p pipeline w = (.error (.pipeCreation (free / 2) .EMFILE), w') :=
    execute_eq_of_openPipes_error hopen
  have halike : (execute p pipeline w).2.Alike w := by
    rw [hexecute]
    refine ⟨?_, ?_⟩
    · simpa [hopen] using hpipes.state
    · simpa [hopen] using (hpipes.failed _ (congrArg Prod.fst hopen)).2
  refine ⟨by rw [hexecute], ?_, halike, ?_, ?_⟩
  · -- the recorded platform comes as far as the original
    have hunrecorded : w.unrecorded.openPipes pipeline.pipeCount =
        (.error (.pipeCreation (free / 2) .EMFILE), w'.unrecorded) := by
      rw [World.openPipes] at hopen ⊢
      rw [World.unrecorded, World.openPipesFrom_map, hopen]
      rfl
    simp only [callsOf, execute, hunrecorded]
    rfl
  · obtain ⟨moments, hnotes, hmoments⟩ := World.notes_openPipesFrom 0 pipeline.pipeCount w
    have hafter : (w.openPipesFrom 0 pipeline.pipeCount).2 = w' := congrArg Prod.snd hopen
    rw [hafter] at hnotes
    rw [hexecute, World.since_eq hnotes]
    exact hmoments
  · intro other room
    refine sameCourse_of_alike hp other ⟨halike.state, ?_⟩
    simp only [World.limit, halike.holdings]

/-- For every number of free descriptors, all pipes are created or none; and where those of
a pipeline are not, its execution comes to nothing and leaves nothing behind. -/
theorem execute_all_or_none {p : Platform σ} (hp : p.IgnoresJournal) {w : World σ} {free : Nat}
    (hfree : w.holdings.free? = some free) :
    (∀ count, w.Unused count → w.AllOrNone free count) ∧
      ∀ pipeline : Pipeline, w.Unused pipeline.pipeCount → free < 2 * pipeline.pipeCount →
        NoTrace p pipeline w free :=
  ⟨fun _ hw => World.allOrNone hfree hw, fun _ hw hfull => noTrace hp hfree hw hfull⟩

/-- The shell has one pipe end and may open three descriptors more: that is enough for the
pipe of two stages, and not for those of three, in a rehearsal and on every system. -/
theorem execute_all_or_none_odd :
    let pipeline : Pipeline := ⟨[⟨["a"], none, none⟩, ⟨["b"], none, none⟩, ⟨["c"], none, none⟩],
      by simp⟩
    let w : World Rehearsal :=
      { state := {}, holdings := { room := some 4, ends := [⟨7, .read⟩] } }
    Rehearsal.platform.IgnoresJournal ∧ w.holdings.free? = some 3 ∧
      (∃ pipes, (w.openPipes 1).1 = .ok pipes) ∧
      (execute Rehearsal.platform pipeline w).1 = .error (.pipeCreation 1 .EMFILE) ∧
      NoTrace Rehearsal.platform pipeline w 3 ∧
      ∀ k : Kernel Rehearsal, k.platform.IgnoresJournal ∧ NoTrace k.platform pipeline w 3 := by
  intro pipeline w
  have hfree : w.holdings.free? = some 3 := rfl
  have hunused : w.Unused pipeline.pipeCount := by
    simp [World.Unused, w, pipeline, Pipeline.pipeCount, Pipeline.length]
  have hfull : 3 < 2 * pipeline.pipeCount := by decide
  obtain ⟨hpipes, hnone⟩ := execute_all_or_none Rehearsal.ignoresJournal hfree
  have hone := hpipes 1 (by simp [World.Unused, w])
  have htwo := hnone pipeline hunused hfull
  refine ⟨Rehearsal.ignoresJournal, hfree, hone.created_iff.mpr (by decide), htwo.result, htwo,
    fun k => ⟨k.ignoresJournal, ?_⟩⟩
  exact (execute_all_or_none k.ignoresJournal hfree).2 pipeline hunused hfull

end LineShell
