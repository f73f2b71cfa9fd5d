import LineShell.Proofs.LaunchOrder
import LineShell.Proofs.PathFaults
import LineShell.Proofs.Peak
import Mathlib.Data.List.Perm.Subperm

/-!
# The descriptors that a pipeline needs

While a pipeline is executed, the shell holds the ends of its pipes and, for the time of
a launch, the files of one stage.  A file takes the place of a pipe end, except for the
input of the first stage and the output of the last one, and each launch gives up the ends
of its stage.  So the most that is ever needed are the ends of all pipes and one file, or
two files where there is no pipe.

A shell that has so many descriptors left before an execution does not run out of them.

## Main definitions

* `descriptorBudget` — the number of descriptors that the stages of a pipeline need.
* `Affordable` — a number of descriptors is enough for the launches of some plans.
* `Holdings.Gains` — the shell has some pipe ends beside what it had.
* `Kernel.SparesDescriptors` — the system does not run out of descriptors by itself.
* `WithinBudget` — an execution keeps to its budget.

## Main results

* `affordable_wireFrom` — the budget is enough for every launch.
* `Launches.within`, `Launches.spared` — the launch loop keeps to it.
* `execute_budget` — every execution does.
* `Machine.sparesDescriptors` — a machine does not run out of descriptors by itself.
-/

namespace LineShell

variable {σ : Type}

/-! ### The needs of the plans -/

/-- The number of descriptors that the stages of a pipeline need: two for each pipe and one
more, or two for the files of a single stage. -/
def descriptorBudget (stages : Nat) : Nat :=
  if stages = 1 then 2 else 2 * (stages - 1) + 1

theorem descriptorBudget_succ (pipes : Nat) :
    descriptorBudget (pipes + 1) = max 2 (2 * pipes + 1) := by
  unfold descriptorBudget
  split <;> omega

/-- So many descriptors are enough for each launch of some plans, while the shell still has
the ends of all plans to come. -/
def Affordable (budget : Nat) : List Plan → Prop
  | [] => True
  | plan :: plans =>
    ((plan :: plans).flatMap Plan.ends).length + plan.fileCount ≤ budget ∧ Affordable budget plans

/-- A stream takes one descriptor at most. -/
theorem Channel.length_le_one (c : Channel String) : c.ends.length + c.files.length ≤ 1 := by
  cases c <;> simp [Channel.ends, Channel.files]

theorem Plan.length_le_two (p : Plan) : p.ends.length + p.fileCount ≤ 2 := by
  have hstdin := p.stdin.length_le_one
  have hstdout := p.stdout.length_le_one
  simp only [Plan.ends, Plan.fileCount, List.length_append]
  omega

/-- The plans hold no more ends than there are. -/
theorem length_ends_wireFrom_le (index : Nat) (incoming : Option PipeEnd) (stages : List Stage)
    (pipes : List Pipe) :
    ((wireFrom index incoming stages pipes).plans.flatMap Plan.ends).length ≤
      incoming.toList.length + 2 * pipes.length := by
  have h := (perm_ends_wireFrom index incoming stages pipes).length_eq
  simp only [List.length_append, length_flatMap_ends] at h
  omega

/-- The budget for the pipes that are left is enough for each launch that is left. -/
theorem affordable_wireFrom {budget index : Nat} {incoming : Option PipeEnd}
    {stages : List Stage} {pipes : List Pipe} (h : max 2 (2 * pipes.length + 1) ≤ budget) :
    Affordable budget (wireFrom index incoming stages pipes).plans := by
  induction stages generalizing index incoming pipes with
  | nil => exact trivial
  | cons stage stages ih =>
    refine ⟨?_, ih ?_⟩
    · -- the first stage takes two at most, and one end goes from its pipe to the next stage
      have hlater := length_ends_wireFrom_le (index + 1) (pipes.head?.map Pipe.read) stages
        pipes.tail
      have hfirst := Plan.length_le_two
        { index, arguments := stage.arguments, stdin := .choose stage.inputFile incoming
          stdout := .choose stage.outputFile (pipes.head?.map Pipe.write) }
      have hnext : (pipes.head?.map Pipe.read).toList.length + 2 * pipes.tail.length ≤
          2 * pipes.length - 1 := by
        cases pipes with
        | nil => simp
        | cons pipe pipes =>
          simp only [List.head?_cons, Option.map_some, Option.toList_some, List.tail_cons,
            List.length_cons, List.length_nil]
          omega
      simp only [List.flatMap_cons, List.length_append]
      omega
    · rw [List.length_tail]
      omega

/-! ### What the shell has beside what it had -/

/-- The shell has no more than some pipe ends beside what it had before. -/
structure Holdings.Gains (before : Holdings) (gained : List PipeEnd) (after : Holdings) :
    Prop where
  /-- The limit is the same. -/
  room : after.room = before.room
  /-- Every end is a gained one or an old one. -/
  ends : after.ends.Subperm (gained ++ before.ends)
  /-- There are no more files than there were. -/
  files : after.files.length ≤ before.files.length

namespace Holdings.Gains

variable {before after : Holdings} {gained removed : List PipeEnd}

theorem count_le (h : before.Gains gained after) :
    after.count ≤ before.count + gained.length := by
  have hends := h.ends.length_le
  have hfiles := h.files
  simp only [List.length_append] at hends
  simp only [Holdings.count]
  omega

/-- Ends that are removed are no longer among the gained ones. -/
theorem subperm_filter (h : before.Gains (removed ++ gained) after) :
    (after.ends.filter (· ∉ removed)).Subperm (gained ++ before.ends) := by
  have hnone : removed.filter (· ∉ removed) = [] := by
    simp [List.filter_eq_nil_iff]
  have hfilter := h.ends.filter (· ∉ removed)
  rw [List.append_assoc, List.filter_append, hnone, List.nil_append] at hfilter
  exact hfilter.trans List.filter_sublist.subperm

/-- A launch takes the ends of its plan away. -/
theorem afterLaunch {plan : Plan} (h : before.Gains (plan.ends ++ gained) after)
    (opened : List FileHandle) (result : LaunchResult) :
    before.Gains gained (after.afterLaunch plan opened result) where
  room := h.room
  ends := h.subperm_filter
  files := Nat.le_trans (List.length_filter_le _ _) h.files

theorem close {w : World σ} (h : before.Gains (removed ++ gained) w.holdings) :
    before.Gains gained (w.close removed).holdings where
  room := h.room
  ends := h.subperm_filter
  files := h.files

end Holdings.Gains

/-! ### A single launch -/

/-- With a descriptor left, no attempt to open a file fails for want of one. -/
theorem Attempt.ne_full {free : Bool} {call : String → σ → Except SystemError FileHandle × σ}
    {path : String} {s s' : σ} {cause : SystemError}
    (h : Attempt free call path s (.error cause) s') (hfree : free = true)
    (hcall : ∀ path s, (call path s).1 ≠ .error (.os .EMFILE)) : cause ≠ .os .EMFILE := by
  rintro rfl
  cases h with
  | invalid invalid => exact pathError?_ne_full path invalid
  | full valid full => exact Bool.noConfusion (hfree.symm.trans full)
  | answered valid room answer => exact hcall path s (by rw [answer])

namespace Kernel

variable {k : Kernel σ} {plan : Plan} {w : World σ}

theorem gains_launch {before : Holdings} {gained : List PipeEnd} (k : Kernel σ)
    (h : before.Gains (plan.ends ++ gained) w.holdings) :
    before.Gains gained (k.launch plan w).2.holdings := by
  obtain ⟨opened, result, s', hexits⟩ := k.exists_exits plan w.holdings w.state
  rw [(launch_of_exits hexits).2.2]
  exact h.afterLaunch opened result

/-- The system itself always has a descriptor for the shell: whether one is left is a matter
of the limit on the descriptors of the shell only. -/
structure SparesDescriptors (k : Kernel σ) : Prop where
  /-- So it is for files to be read. -/
  openInput : ∀ path s, (k.openInput path s).1 ≠ .error (.os .EMFILE)
  /-- So it is for files to be written. -/
  openOutput : ∀ path s, (k.openOutput path s).1 ≠ .error (.os .EMFILE)

/-- With a descriptor left for each file of its plan, no launch fails for want of one. -/
theorem launch_ne_full (hk : k.SparesDescriptors)
    (hroom : w.holdings.hasRoomFor plan.fileCount = true) (path : String) :
    (k.launch plan w).1 ≠ .error (.stage (.redirection path (.os .EMFILE))) := by
  obtain ⟨opened, result, s', hexits⟩ := k.exists_exits plan w.holdings w.state
  rw [(launch_of_exits hexits).1]
  rintro rfl
  cases hexits with
  | noInput input refused =>
    have hfile : plan.stdin.files.length = 1 := by rw [input, Channel.files, List.length_singleton]
    have hone : w.holdings.hasRoomFor 1 = true := by
      refine Holdings.hasRoomFor_of_le rfl ?_ hroom
      rw [Plan.fileCount]
      omega
    exact refused.ne_full hone hk.openInput rfl
  | @noOutput stdin _ _ _ _ input output refused =>
    have hfile : plan.stdout.files.length = 1 := by
      rw [output, Channel.files, List.length_singleton]
    have hboth : plan.fileCount = stdin.files.length + 1 := by
      rw [Plan.fileCount, hfile, input.length_files]
    rw [hboth] at hroom
    exact refused.ne_full hroom hk.openOutput rfl
  | tried input output starts => exact starts.not_redirection path _ rfl

section Affordable

variable {plans : List Plan} {budget : Nat} {start : Holdings}
  (hgains : start.Gains ((plan :: plans).flatMap Plan.ends) w.holdings)
  (hplans : Affordable budget (plan :: plans))

include hgains hplans

/-- At an affordable launch the files of the plan do not exceed the budget. -/
theorem count_add_fileCount_le :
    w.holdings.count + plan.fileCount ≤ start.count + budget := by
  have hcount := hgains.count_le
  have hneeds := hplans.1
  omega

/-- An affordable launch keeps to the budget, and the ends of the plans after it are left. -/
theorem affords_launch {before : World σ} {result : LaunchResult} {w₁ : World σ}
    (hbefore : before.Within (start.count + budget) w) (h : k.launch plan w = (result, w₁)) :
    before.Within (start.count + budget) w₁ ∧
      start.Gains (plans.flatMap Plan.ends) w₁.holdings := by
  have hwithin := hbefore.launch (count_add_fileCount_le hgains hplans) (k := k)
  have hleft := k.gains_launch hgains
  rw [h] at hwithin hleft
  exact ⟨hwithin, hleft⟩

end Affordable

end Kernel

/-! ### The launch loop -/

namespace Launches

variable {k : Kernel σ} {plans : List Plan} {w w' : World σ} {results : List LaunchResult}
  {budget : Nat} {start : Holdings} (h : Launches k.platform plans w results w')
  (hgains : start.Gains (plans.flatMap Plan.ends) w.holdings) (hplans : Affordable budget plans)

include h hgains hplans

/-- The launch loop keeps to the budget. -/
theorem within {before : World σ} (hbefore : before.Within (start.count + budget) w) :
    before.Within (start.count + budget) w' := by
  induction h with
  | done w => exact hbefore
  | started launch rest ih =>
    obtain ⟨hwithin, hleft⟩ := Kernel.affords_launch hgains hplans hbefore launch
    exact ih hleft hplans.2 (hwithin.note _)
  | failed launch rest ih =>
    obtain ⟨hwithin, hleft⟩ := Kernel.affords_launch hgains hplans hbefore launch
    exact ih hleft hplans.2 ((hwithin.note _).warn k.platform _)
  | refused launch =>
    obtain ⟨hwithin, -⟩ := Kernel.affords_launch hgains hplans hbefore launch
    exact (hwithin.note _).close _

/-- With the budget to hand, no launch of the loop fails for want of a descriptor. -/
theorem spared (hk : k.SparesDescriptors) (hroom : start.hasRoomFor budget = true)
    (path : String) : .error (.stage (.redirection path (.os .EMFILE))) ∉ results := by
  induction h with
  | done w => simp
  | started launch rest ih =>
    have hleft := k.gains_launch hgains
    rw [show k.launch _ _ = _ from launch] at hleft
    simpa using ih hleft hplans.2
  | @failed plan plans w w₁ w₂ fault results launch rest ih =>
    have hleft := k.gains_launch hgains
    rw [show k.launch _ _ = _ from launch] at hleft
    have hfiles : w.holdings.hasRoomFor plan.fileCount = true :=
      Holdings.hasRoomFor_of_le hgains.room (Kernel.count_add_fileCount_le hgains hplans) hroom
    have hfault := Kernel.launch_ne_full hk hfiles path
    rw [show k.launch _ _ = _ from launch] at hfault
    rw [List.mem_cons, not_or]
    exact ⟨hfault.symm, ih hleft hplans.2⟩
  | refused launch => simp

end Launches

/-! ### What a report tells of faults -/

/-- A stage that did not run has an entry that says why. -/
theorem exists_entry_of_failed {p : Platform σ} {entries : List Entry} {w : World σ} {o : Outcome}
    {fault : StageFault} (ho : o ∈ (reap p entries w).1) (hfault : o.status = .failed fault) :
    ∃ e ∈ entries, e.child = .error fault := by
  induction entries generalizing w with
  | nil => simp [reap] at ho
  | cons e entries ih =>
    rw [reap_cons, List.mem_cons] at ho
    rcases ho with rfl | ho
    · rcases hchild : e.child with other | child
      · rw [e.reap_failed p hchild] at hfault
        cases hfault
        exact ⟨e, List.mem_cons_self, hchild⟩
      · -- a stage that did run ends in another way
        rw [e.reap_running p hchild] at hfault
        simp only [StageStatus.ofWait, StageStatus.ofWaitStatus] at hfault
        repeat (split at hfault)
        all_goals cases hfault
    · obtain ⟨e', he', hchild⟩ := ih ho
      exact ⟨e', List.mem_cons_of_mem _ he', hchild⟩

/-- The entry says what the launch said. -/
theorem mem_results_of_entry {plans : List Plan} {results : List LaunchResult} {e : Entry}
    {fault : StageFault} (he : e ∈ entriesOf plans results) (hchild : e.child = .error fault) :
    .error (.stage fault) ∈ results := by
  obtain ⟨⟨plan, result⟩, hmem, hentry⟩ := List.mem_filterMap.mp he
  have hresult : result ∈ results := (List.of_mem_zip hmem).2
  rcases result with (other | cause) | child
  · cases hentry
    cases hchild
    exact hresult
  · cases hentry
  · cases hentry
    cases hchild

/-! ### An execution -/

/-- An execution keeps to its budget. -/
structure WithinBudget (k : Kernel σ) (pipeline : Pipeline) (w : World σ) : Prop where
  /-- At every moment the shell has at most as many descriptors as in the budget, beside those
  that it had before. -/
  moments : ∀ m ∈ w.since (execute k.platform pipeline w).2,
    m.holdings.count ≤ w.holdings.count + descriptorBudget pipeline.length
  /-- With so many descriptors left, all pipes are created, no launch fails because there is no
  descriptor for a file, and no stage is reported to have failed for that. -/
  enough : k.SparesDescriptors →
    w.holdings.hasRoomFor (descriptorBudget pipeline.length) = true →
      (∃ pipes, (w.openPipes pipeline.pipeCount).1 = .ok pipes) ∧
      (∀ m ∈ w.since (execute k.platform pipeline w).2, ∀ plan path,
        m.launched? ≠ some (plan, .error (.stage (.redirection path (.os .EMFILE))))) ∧
      ∀ report, (execute k.platform pipeline w).1 = .ok report → ∀ o ∈ report.outcomes,
        ∀ path, o.status ≠ .failed (.redirection path (.os .EMFILE))

/-- The pipes of a pipeline leave something of its budget. -/
theorem two_mul_pipeCount_le (pipeline : Pipeline) :
    2 * pipeline.pipeCount ≤ descriptorBudget pipeline.length := by
  rw [pipeline.length_eq_pipeCount_add_one, descriptorBudget_succ]
  omega

/-- The launches of a pipeline are affordable. -/
theorem affordable_plans (pipeline : Pipeline) :
    Affordable (descriptorBudget pipeline.length) pipeline.plans := by
  have hbudget : max 2 (2 * (numberedPipes pipeline.pipeCount).length + 1) =
      descriptorBudget pipeline.length := by
    rw [pipeline.length_eq_pipeCount_add_one, descriptorBudget_succ, length_numberedPipes]
  exact affordable_wireFrom (Nat.le_of_eq hbudget)

/-- When the launch begins, the shell has gained the ends of the plans. -/
theorem gains_readyToLaunch {pipeline : Pipeline} {w w₀ : World σ} {pipes : List Pipe}
    (h : w.openPipes pipeline.pipeCount = (.ok pipes, w₀)) :
    w.holdings.Gains (pipeline.plans.flatMap Plan.ends) (w₀.readyToLaunch pipeline).holdings := by
  obtain ⟨-, new, hperm, hholdings⟩ := perm_ends_openPipes h
  have hall : w.holdings.Gains
      (pipeline.wiring.displaced ++ pipeline.plans.flatMap Plan.ends) w₀.holdings := by
    rw [hholdings]
    refine ⟨rfl, ?_, Nat.le_refl _⟩
    exact ((hperm.trans pipeline.perm_ends.symm).append_right _).subperm
  exact Holdings.Gains.close (w := w₀.advance .parsed .pipesAllocated) hall

section Executed

variable {k : Kernel σ} {pipeline : Pipeline} {w w₀ w₁ : World σ} {pipes : List Pipe}
  {results : List LaunchResult} (hopen : w.openPipes pipeline.pipeCount = (.ok pipes, w₀))
  (hlaunches : Launches k.platform pipeline.plans (w₀.readyToLaunch pipeline) results w₁)

include hopen hlaunches

/-- The launch and the reaping keep to the budget. -/
theorem within_reap (entries : List Entry) (refusal : Option Abort) :
    w.Within (w.holdings.count + descriptorBudget pipeline.length)
      ((reap k.platform entries (w₁.readyToReap refusal)).2.advance .reaping .done) := by
  have hstart : w.Within (w.holdings.count + descriptorBudget pipeline.length) w :=
    .self (Nat.le_add_right _ _)
  have hpipes := hstart.openPipesFrom 0
    (Nat.add_le_add_left (two_mul_pipeCount_le pipeline) w.holdings.count)
  rw [← World.openPipes, hopen] at hpipes
  have hready : w.Within (w.holdings.count + descriptorBudget pipeline.length)
      (w₀.readyToLaunch pipeline) :=
    ((hpipes.advance _ _).close _).advance _ _
  have hlaunched := hlaunches.within (gains_readyToLaunch hopen) (affordable_plans pipeline) hready
  exact (((hlaunched.advance _ _).advance _ _).reap k.platform entries).advance _ _

variable (hk : k.SparesDescriptors)
  (hroom : w.holdings.hasRoomFor (descriptorBudget pipeline.length) = true) (path : String)

include hk hroom

/-- With the budget to hand, no stage fails for want of a descriptor. -/
theorem not_mem_results : .error (.stage (.redirection path (.os .EMFILE))) ∉ results :=
  hlaunches.spared (gains_readyToLaunch hopen) (affordable_plans pipeline) hk hroom path

end Executed

/-- Every execution keeps to its budget, whatever its redirections are and whatever becomes of
its launches. -/
theorem execute_budget (k : Kernel σ) (pipeline : Pipeline) (w : World σ) :
    WithinBudget k pipeline w := by
  have hneeds := Nat.add_le_add_left (two_mul_pipeCount_le pipeline) w.holdings.count
  rcases hopen : w.openPipes pipeline.pipeCount with ⟨abort | pipes, w₀⟩
  · -- without its pipes an execution is over, and that does not happen if the budget is there
    have hpipes := World.Within.openPipesFrom (.self (Nat.le_add_right _ _)) 0 hneeds
    rw [← World.openPipes, hopen] at hpipes
    refine ⟨?_, ?_⟩
    · simp only [execute, hopen]
      exact fun m hm => hpipes.since_le hm
    · intro _ hroom
      obtain ⟨pipes, w', hok⟩ :=
        exists_openPipesFrom_ok 0 (Holdings.hasRoomFor_of_le rfl hneeds hroom)
      rw [← World.openPipes, hopen] at hok
      cases hok
  · obtain ⟨rfl, hopening, -⟩ := openPipes_ok hopen
    obtain ⟨results, w₁, hlaunches, hexecute⟩ := execute_of_openPipes_ok (p := k.platform) hopen
    refine ⟨?_, ?_⟩
    · rw [hexecute]
      exact fun m hm => (within_reap hopen hlaunches _ _).since_le hm
    · intro hk hroom
      have hspared := not_mem_results hopen hlaunches hk hroom
      refine ⟨⟨_, congrArg Prod.fst hopen⟩, ?_, ?_⟩
      · rw [hexecute]
        intro m hm plan path hlaunched
        have hshows := (showsExecution k.honoursContract.keepsJournal hopening hlaunches
          (entriesOf pipeline.plans results) (refusalOf pipeline.plans results)).launches
        have hmem := List.mem_filterMap.mpr ⟨m, hm, hlaunched⟩
        rw [hshows] at hmem
        exact hspared path (List.of_mem_zip hmem).2
      · rw [hexecute]
        intro report hreport o ho path hstatus
        cases hrefusal : refusalOf pipeline.plans results with
        | some abort =>
          simp only [hrefusal, reportOf] at hreport
          cases hreport
        | none =>
          simp only [hrefusal, reportOf] at hreport
          cases hreport
          obtain ⟨e, he, hchild⟩ := exists_entry_of_failed ho hstatus
          exact hspared path (mem_results_of_entry he hchild)

/-- A machine never runs out of descriptors by itself. -/
theorem Machine.sparesDescriptors : Machine.kernel.SparesDescriptors where
  openInput path m h := by
    obtain ⟨errno, hmem, herrno⟩ := exists_of_openInput_error h
    cases herrno
    exact absurd hmem (by decide)
  openOutput path m h := by
    obtain ⟨errno, hmem, herrno⟩ := exists_of_openOutput_error h
    cases herrno
    exact absurd hmem (by decide)

/-- Two stages with a file each need three descriptors, and three are left on a machine. -/
theorem execute_budget_machine :
    let pipeline : Pipeline := ⟨[⟨["a"], some "f", none⟩, ⟨["b"], none, some "g"⟩], by simp⟩
    let w : World Machine :=
      { state := { store := ⟨#[Store.emptyDirectory]⟩ }, holdings := { room := some 3 } }
    Machine.kernel.SparesDescriptors ∧
      w.holdings.hasRoomFor (descriptorBudget pipeline.length) = true ∧
      (∃ pipes, (w.openPipes pipeline.pipeCount).1 = .ok pipes) ∧
      ∀ m ∈ w.since (execute Machine.kernel.platform pipeline w).2, m.holdings.count ≤ 3 := by
  intro pipeline w
  have hroom : w.holdings.hasRoomFor (descriptorBudget pipeline.length) = true := by decide
  have hbudget := execute_budget Machine.kernel pipeline w
  exact ⟨Machine.sparesDescriptors, hroom,
    (hbudget.enough Machine.sparesDescriptors hroom).1, hbudget.moments⟩

-- `a < f | b` on a machine with a file `f`: the budget is used up at the first launch
example :
    let pipeline : Pipeline := ⟨[⟨["a"], some "f", none⟩, ⟨["b"], none, none⟩], by simp⟩
    let files : Store := ⟨#[{ content := .directory Store.root [(['f'], 1)], mode := 0o755 },
      { content := .file .empty, mode := 0o644 }]⟩
    let w : World Machine := { state := { store := files } }
    (w.since (execute Machine.platform pipeline w).2).any (·.holdings.count = 3) = true := by
  decide +kernel

end LineShell
