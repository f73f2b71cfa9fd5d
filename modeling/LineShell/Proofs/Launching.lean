import LineShell.Proofs.Journal
import LineShell.Proofs.Wiring

/-!
# The course of a launch

What a launch loop does depends on nothing but the answers of the platform.
`Launches` follows the loop step by step and collects the answers; everything else
about the loop is then an induction on that relation, with one case for each kind
of answer.

## Main definitions

* `Launches` — the loop, with the results of its launches.
* `IsCourse n results` — the results are those of `n` stages, up to the first
  refusal.
* `entriesOf`, `refusalOf`, `startedOf` — what the results leave to be done.

## Main results

* `launches_launchAll` — the loop is described by the relation.
* `Launches.isCourse` — it launches every stage, or stops right after a refusal.
* `execute_of_openPipes_ok` — an execution with its pipes created, in terms of the
  relation.
-/

namespace LineShell

variable {σ : Type}

/-! ### Results -/

/-- The results of the launches of `n` stages: each stage has one, up to the first
refusal. -/
structure IsCourse (n : Nat) (results : List LaunchResult) : Prop where
  /-- No stage is launched twice. -/
  length_le : results.length ≤ n
  /-- Nothing is launched after a refusal. -/
  refused_last : ∀ (i : Nat) (cause : SystemError),
    results[i]? = some (.error (.refused cause)) → results.length = i + 1
  /-- Without a refusal every stage is launched. -/
  complete : (∀ cause, .error (.refused cause) ∉ results) → results.length = n

theorem isCourse_nil : IsCourse 0 [] := ⟨by simp, by simp, by simp⟩

theorem isCourse_refused (n : Nat) (cause : SystemError) :
    IsCourse (n + 1) [.error (.refused cause)] := by
  refine ⟨by simp, ?_, ?_⟩
  · intro i other h
    cases i with
    | zero => rfl
    | succ i => simp at h
  · intro h
    exact absurd (List.mem_singleton.mpr rfl) (h cause)

theorem IsCourse.cons {n : Nat} {results : List LaunchResult} {result : LaunchResult}
    (h : IsCourse n results) (hresult : ∀ cause, result ≠ .error (.refused cause)) :
    IsCourse (n + 1) (result :: results) := by
  refine ⟨by simpa using h.length_le, ?_, ?_⟩
  · intro i cause hi
    cases i with
    | zero => exact absurd (Option.some.inj hi) (hresult cause)
    | succ i => simpa using h.refused_last i cause hi
  · intro hnone
    have := h.complete fun cause hmem => hnone cause (List.mem_cons_of_mem _ hmem)
    simpa using this

/-- The entry that a launch leaves for reaping. -/
def Entry.ofLaunch? (plan : Plan) : LaunchResult → Option Entry
  | .ok child => some ⟨plan.index, plan.program, .ok child⟩
  | .error (.stage fault) => some ⟨plan.index, plan.program, .error fault⟩
  | .error (.refused _) => none

/-- The refusal that a launch ended in. -/
def Abort.ofLaunch? (plan : Plan) : LaunchResult → Option Abort
  | .error (.refused cause) => some (.spawn plan.index plan.program cause)
  | .ok _ | .error (.stage _) => none

/-- The child that a launch started, with the plan's pipe ends. -/
def Plan.started? (plan : Plan) : LaunchResult → Option (ProcessId × List PipeEnd)
  | .ok child => some (child, plan.ends)
  | .error _ => none

/-- The entries that are left for reaping. -/
def entriesOf (plans : List Plan) (results : List LaunchResult) : List Entry :=
  (plans.zip results).filterMap fun x => Entry.ofLaunch? x.1 x.2

/-- The refusal that ended the launch, if there was one. -/
def refusalOf (plans : List Plan) (results : List LaunchResult) : Option Abort :=
  (plans.zip results).findSome? fun x => Abort.ofLaunch? x.1 x.2

/-- The children that were started, each with its pipe ends. -/
def startedOf (plans : List Plan) (results : List LaunchResult) :
    List (ProcessId × List PipeEnd) :=
  (plans.zip results).filterMap fun x => x.1.started? x.2

section Equations

variable (plan : Plan) (plans : List Plan) (results : List LaunchResult) (child : ProcessId)
  (fault : StageFault) (cause : SystemError)

@[simp] theorem entriesOf_nil : entriesOf plans [] = [] := by simp [entriesOf]

@[simp] theorem entriesOf_ok : entriesOf (plan :: plans) (.ok child :: results) =
    ⟨plan.index, plan.program, .ok child⟩ :: entriesOf plans results := rfl

@[simp] theorem entriesOf_stage : entriesOf (plan :: plans) (.error (.stage fault) :: results) =
    ⟨plan.index, plan.program, .error fault⟩ :: entriesOf plans results := rfl

@[simp] theorem entriesOf_refused :
    entriesOf (plan :: plans) (.error (.refused cause) :: results) = entriesOf plans results := rfl

@[simp] theorem refusalOf_ok :
    refusalOf (plan :: plans) (.ok child :: results) = refusalOf plans results := rfl

@[simp] theorem refusalOf_stage :
    refusalOf (plan :: plans) (.error (.stage fault) :: results) = refusalOf plans results := rfl

@[simp] theorem refusalOf_refused : refusalOf (plan :: plans) (.error (.refused cause) :: results) =
    some (.spawn plan.index plan.program cause) := rfl

@[simp] theorem startedOf_nil : startedOf plans [] = [] := by simp [startedOf]

@[simp] theorem startedOf_ok : startedOf (plan :: plans) (.ok child :: results) =
    (child, plan.ends) :: startedOf plans results := rfl

@[simp] theorem startedOf_error (failure : LaunchFailure) :
    startedOf (plan :: plans) (.error failure :: results) = startedOf plans results := rfl

end Equations

/-! ### The launch loop -/

/-- The loop over the plans goes from one world to another, and the launches have
these results. -/
inductive Launches (p : Platform σ) :
    List Plan → World σ → List LaunchResult → World σ → Prop
  /-- No plan is left. -/
  | done (w : World σ) : Launches p [] w [] w
  /-- A child was started. -/
  | started {plan : Plan} {plans : List Plan} {w w₁ w₂ : World σ} {child : ProcessId}
      {results : List LaunchResult} (launch : p.launch plan w = (.ok child, w₁))
      (rest : Launches p plans (w₁.note (.launched plan (.ok child))) results w₂) :
      Launches p (plan :: plans) w (.ok child :: results) w₂
  /-- A stage could not start, and its fault was reported. -/
  | failed {plan : Plan} {plans : List Plan} {w w₁ w₂ : World σ} {fault : StageFault}
      {results : List LaunchResult} (launch : p.launch plan w = (.error (.stage fault), w₁))
      (rest : Launches p plans ((w₁.note (.launched plan (.error (.stage fault)))).warn p
        (faultReport plan.index fault)) results w₂) :
      Launches p (plan :: plans) w (.error (.stage fault) :: results) w₂
  /-- The system refused a process, and the ends of the plans left were closed. -/
  | refused {plan : Plan} {plans : List Plan} {w w₁ : World σ} {cause : SystemError}
      (launch : p.launch plan w = (.error (.refused cause), w₁)) :
      Launches p (plan :: plans) w [.error (.refused cause)]
        ((w₁.note (.launched plan (.error (.refused cause)))).close (plans.flatMap Plan.ends))

/-- The loop goes the way that the relation describes, and it leaves the entries and
the refusal of its results. -/
theorem launches_launchAll (p : Platform σ) (plans : List Plan) (w : World σ) :
    ∃ results, Launches p plans w results (launchAll p plans w).2 ∧
      (launchAll p plans w).1 = ⟨entriesOf plans results, refusalOf plans results⟩ := by
  induction plans generalizing w with
  | nil => exact ⟨[], .done w, rfl⟩
  | cons plan plans ih =>
    -- a fault and a child let the loop go on, a refusal ends it
    rcases h : p.launch plan w with ⟨(fault | cause) | child, w₁⟩
    · obtain ⟨results, hrest, hlaunch⟩ :=
        ih ((w₁.note (.launched plan (.error (.stage fault)))).warn p
          (faultReport plan.index fault))
      refine ⟨.error (.stage fault) :: results, ?_, ?_⟩
      · simp only [launchAll, h]
        exact .failed h hrest
      · simp [launchAll, h, hlaunch]
    · refine ⟨[.error (.refused cause)], ?_, ?_⟩
      · simp only [launchAll, h]
        exact .refused h
      · simp [launchAll, h]
    · obtain ⟨results, hrest, hlaunch⟩ := ih (w₁.note (.launched plan (.ok child)))
      refine ⟨.ok child :: results, ?_, ?_⟩
      · simp only [launchAll, h]
        exact .started h hrest
      · simp [launchAll, h, hlaunch]

namespace Launches

variable {p : Platform σ} {plans : List Plan} {w w' : World σ} {results : List LaunchResult}

/-- The loop launches every stage, or stops right after a refusal. -/
theorem isCourse (h : Launches p plans w results w') : IsCourse plans.length results := by
  induction h with
  | done => exact isCourse_nil
  | started _ _ ih => exact ih.cons (by simp)
  | failed _ _ ih => exact ih.cons (by simp)
  | refused => exact isCourse_refused _ _

/-- The loop of a pipeline is a course through its stages. -/
theorem isCourse_plans {pipeline : Pipeline} (h : Launches p pipeline.plans w results w') :
    IsCourse pipeline.length results := by
  rw [← Pipeline.length_plans]
  exact h.isCourse

/-- The journal shows the launches in order, each with its plan and its result, and
neither a step between phases nor a wait. -/
theorem exists_notes (hp : p.KeepsJournal) (h : Launches p plans w results w') :
    ∃ moments, w.Notes moments w' ∧
      moments.filterMap Moment.launched? = plans.zip results ∧
      moments.filterMap Moment.advance? = [] ∧ moments.filter Moment.isWait = [] := by
  induction h with
  | done w => exact ⟨[], w.notes_self, rfl, rfl, rfl⟩
  | @started plan plans w w₁ w₂ child results launch rest ih =>
    obtain ⟨own, hown, hwork⟩ := hp plan w
    rw [launch] at hown
    obtain ⟨moments, hnotes, hlaunched, hadvance, hwait⟩ := ih
    refine ⟨_, (hown.trans (w₁.notes_note _)).trans hnotes, ?_, ?_, ?_⟩
    · simpa [filterMap_launched?_of_descriptorWork hwork, Moment.launched?] using hlaunched
    · simpa [filterMap_advance?_of_descriptorWork hwork, Moment.advance?] using hadvance
    · simpa [filter_isWait_of_descriptorWork hwork, Moment.isWait] using hwait
  | @failed plan plans w w₁ w₂ fault results launch rest ih =>
    obtain ⟨own, hown, hwork⟩ := hp plan w
    rw [launch] at hown
    obtain ⟨moments, hnotes, hlaunched, hadvance, hwait⟩ := ih
    refine ⟨_, ((hown.trans (w₁.notes_note _)).trans (World.notes_warn _ p _)).trans hnotes,
      ?_, ?_, ?_⟩
    · simpa [filterMap_launched?_of_descriptorWork hwork, Moment.launched?, List.filterMap_cons]
        using hlaunched
    · simpa [filterMap_advance?_of_descriptorWork hwork, Moment.advance?] using hadvance
    · simpa [filter_isWait_of_descriptorWork hwork, Moment.isWait] using hwait
  | @refused plan plans w w₁ cause launch =>
    obtain ⟨own, hown, hwork⟩ := hp plan w
    rw [launch] at hown
    refine ⟨_, (hown.trans (w₁.notes_note _)).trans (World.notes_close _ _), ?_, ?_, ?_⟩
    · simp [filterMap_launched?_of_descriptorWork hwork, Moment.launched?]
    · simp [filterMap_advance?_of_descriptorWork hwork, Moment.advance?]
    · simp [filter_isWait_of_descriptorWork hwork, Moment.isWait]

end Launches

/-! ### The parts of an execution -/

/-- The world in which the launch begins, once the pipes are created. -/
def World.readyToLaunch (pipeline : Pipeline) (w : World σ) : World σ :=
  ((w.advance .parsed .pipesAllocated).close pipeline.wiring.displaced).advance
    .pipesAllocated .spawning

/-- The phase that the launch ends in. -/
def launchedPhase (refusal : Option Abort) : Phase :=
  if refusal.isSome then .spawnFailed else .allSpawned

/-- The world in which reaping begins, once the launch is over. -/
def World.readyToReap (refusal : Option Abort) (w : World σ) : World σ :=
  (w.advance .spawning (launchedPhase refusal)).advance (launchedPhase refusal) .reaping

/-- What an execution comes to, by the refusal that ended its launch and by the
outcomes of its stages. -/
def reportOf (pipeline : Pipeline) (refusal : Option Abort) (outcomes : List Outcome) :
    Except Abort Report :=
  match refusal with
  | some abort => .error abort
  | none => .ok ⟨outcomes, pipeline.pipeCount⟩

/-- What an execution does once its pipes are created. -/
theorem execute_of_openPipes_ok {p : Platform σ} {pipeline : Pipeline} {w w₀ : World σ}
    (h : w.openPipes pipeline.pipeCount = (.ok (numberedPipes pipeline.pipeCount), w₀)) :
    ∃ results w₁,
      Launches p pipeline.plans (w₀.readyToLaunch pipeline) results w₁ ∧
      let refusal := refusalOf pipeline.plans results
      let reaped := reap p (entriesOf pipeline.plans results) (w₁.readyToReap refusal)
      execute p pipeline w =
        (reportOf pipeline refusal reaped.1, reaped.2.advance .reaping .done) := by
  obtain ⟨results, hlaunches, hlaunch⟩ :=
    launches_launchAll p pipeline.plans (w₀.readyToLaunch pipeline)
  refine ⟨results, _, hlaunches, ?_⟩
  have hwiring : wire pipeline (numberedPipes pipeline.pipeCount) = pipeline.wiring := rfl
  have hplans : pipeline.wiring.plans = pipeline.plans := rfl
  simp only [World.readyToLaunch] at hlaunch
  simp only [execute, h, hwiring, hplans, hlaunch]
  -- a refusal changes the phase that the launch ends in and the report, but not the reaping
  cases refusalOf pipeline.plans results <;> rfl

end LineShell
