import Mathlib.Data.List.Basic
import LineShell.Proofs.PipeCreation
import LineShell.Proofs.Reaping
import LineShell.Proofs.Recording

/-!
# The meaning of an execution

Once its pipes are created, what an execution does is determined by the answers of
the platform: the results of the launches, and how the children ended.  Here the
calls and the report are written down as functions of these answers, position by
position, and an execution is shown to make exactly these calls and to give this
report.

## Main definitions

* `launchCalls`, `waitCall?`, `callsFor` — the calls that the answers belong to.
* `Reported`, `Meant` — what the report says.
* `phaseOf` — the phase that a launch ended in.

## Main results

* `Launches.calls` — the calls of the launch loop.
* `exists_ends_reap` — the calls and the outcomes of reaping.
* `exists_meant` — an execution is a launch loop and comes to what the answers mean.
* `exists_called`, `exists_reported` — the calls of an execution, and those behind a report.
* `execute_meaning` — the calls, the report and the phases of an execution.
-/

namespace LineShell

variable {σ : Type}

/-! ### Calls for given answers -/

/-- The calls at the launch of a plan: a fault is reported at once. -/
def launchCalls (plan : Plan) (result : LaunchResult) : List PlatformCall :=
  .launch plan result ::
    match result with
    | .error (.stage fault) =>
      [.print .diagnostic ("pipesh: " ++ faultReport plan.index fault ++ "\n")]
    | .ok _ | .error (.refused _) => []

/-- The wait for the child of a plan, if one was started. -/
def waitCall? (ended : Except SystemError WaitStatus) : LaunchResult → Option PlatformCall
  | .ok child => some (.wait child ended)
  | .error _ => none

/-- The calls for the results of the launches and for the ends of the children, which
stand at the positions of their stages. -/
def callsFor (plans : List Plan) (results : List LaunchResult)
    (ended : Nat → Except SystemError WaitStatus) : List PlatformCall :=
  (plans.zip results).flatMap (fun x => launchCalls x.1 x.2) ++
    (plans.zip results).filterMap fun x => waitCall? (ended x.1.index) x.2

/-! ### The launch loop -/

section Calls

variable {p : Platform σ}

/-- A recorded platform adds a launch to its calls. -/
theorem calls_of_launch {plan : Plan} {w w' : World (Recorded σ)} {result : LaunchResult}
    (h : p.recorded.launch plan w = (result, w')) :
    w'.state.calls = w.state.calls ++ [.launch plan result] := by
  simp only [Platform.recorded, Prod.mk.injEq] at h
  obtain ⟨rfl, rfl⟩ := h
  rfl

/-- A recorded platform adds a report to its calls. -/
theorem calls_warn (text : String) (w : World (Recorded σ)) :
    (w.warn p.recorded text).state.calls =
      w.state.calls ++ [.print .diagnostic ("pipesh: " ++ text ++ "\n")] := rfl

/-- The calls of the launch loop are those for its results. -/
theorem Launches.calls {plans : List Plan} {w w' : World (Recorded σ)}
    {results : List LaunchResult} (h : Launches p.recorded plans w results w') :
    w'.state.calls =
      w.state.calls ++ (plans.zip results).flatMap fun x => launchCalls x.1 x.2 := by
  induction h with
  | done w => simp
  | @started plan plans w w₁ w₂ child results launch rest ih =>
    have hstate : (w₁.note (.launched plan (.ok child))).state = w₁.state := rfl
    rw [ih, hstate, calls_of_launch launch]
    simp [launchCalls]
  | @failed plan plans w w₁ w₂ fault results launch rest ih =>
    have hstate : (w₁.note (.launched plan (.error (.stage fault)))).state = w₁.state := rfl
    rw [ih, calls_warn, hstate, calls_of_launch launch]
    simp [launchCalls]
  | @refused plan plans w w₁ cause launch =>
    have hstate : ((w₁.note (.launched plan (.error (.refused cause)))).close
        (plans.flatMap Plan.ends)).state = w₁.state := rfl
    rw [hstate, calls_of_launch launch]
    simp [launchCalls]

end Calls

/-! ### Reaping -/

/-- The outcome of an entry, by the end of its child. -/
def Entry.outcome (e : Entry) (ended : Except SystemError WaitStatus) : Outcome :=
  ⟨e.index, e.program,
    match e.child with
    | .ok _ => .ofWait ended
    | .error fault => .failed fault⟩

/-- The wait for the child of an entry, if it has one. -/
def Entry.waitCall? (e : Entry) (ended : Except SystemError WaitStatus) : Option PlatformCall :=
  match e.child with
  | .ok child => some (.wait child ended)
  | .error _ => none

/-- The platform says of each child how it ended, at the position of its stage. -/
theorem exists_ends_reap (p : Platform σ) {entries : List Entry}
    (hindex : (entries.map Entry.index).Nodup) (w : World (Recorded σ)) :
    ∃ ended : Nat → Except SystemError WaitStatus,
      (reap p.recorded entries w).1 = entries.map (fun e => e.outcome (ended e.index)) ∧
      (reap p.recorded entries w).2.state.calls =
        w.state.calls ++ entries.filterMap fun e => e.waitCall? (ended e.index) := by
  induction entries generalizing w with
  | nil => exact ⟨fun _ => .error (.os .ECHILD), rfl, by simp [reap]⟩
  | cons e entries ih =>
    simp only [List.map_cons, List.nodup_cons] at hindex
    obtain ⟨hfresh, hindex⟩ := hindex
    obtain ⟨ended, houtcomes, hcalls⟩ := ih hindex (e.reap p.recorded w).2
    rcases hchild : e.child with fault | child
    · rw [e.reap_failed _ hchild] at houtcomes hcalls
      refine ⟨ended, ?_, ?_⟩
      · simp [reap_cons, e.reap_failed _ hchild, houtcomes, Entry.outcome, hchild]
      · simp [reap_cons, e.reap_failed _ hchild, hcalls, Entry.waitCall?, hchild]
    · rw [e.reap_running _ hchild] at houtcomes hcalls
      -- the answer for this child is put at its position, which no later entry has
      let ended' := fun i => if i = e.index then (w.await p.recorded child).1 else ended i
      have hhere : ended' e.index = (w.await p.recorded child).1 := if_pos rfl
      have hrest : ∀ e' ∈ entries, ended' e'.index = ended e'.index := by
        intro e' he'
        refine if_neg fun heq => hfresh ?_
        rw [← heq]
        exact List.mem_map_of_mem he'
      have hmap : entries.map (fun e => e.outcome (ended' e.index)) =
          entries.map fun e => e.outcome (ended e.index) :=
        List.map_congr_left fun e' he' => by rw [hrest e' he']
      have hfilter : entries.filterMap (fun e => e.waitCall? (ended' e.index)) =
          entries.filterMap fun e => e.waitCall? (ended e.index) :=
        List.filterMap_congr fun e' he' => by rw [hrest e' he']
      have hawait : (w.await p.recorded child).2.state.calls =
          w.state.calls ++ [.wait child (w.await p.recorded child).1] := rfl
      refine ⟨ended', ?_, ?_⟩
      · rw [reap_cons, e.reap_running _ hchild, List.map_cons, hhere, hmap, houtcomes]
        simp [Entry.outcome, hchild]
      · have hcall : e.waitCall? (ended' e.index) =
            some (.wait child (w.await p.recorded child).1) := by
          simp [Entry.waitCall?, hchild, hhere]
        rw [reap_cons, e.reap_running _ hchild, hcalls, hawait, List.filterMap_cons, hcall, hfilter]
        simp

/-- The outcomes are those of the ends of the children. -/
theorem exists_ends (p : Platform σ) {entries : List Entry}
    (hindex : (entries.map Entry.index).Nodup) (w : World σ) :
    ∃ ended : Nat → Except SystemError WaitStatus,
      (reap p entries w).1 = entries.map fun e => e.outcome (ended e.index) := by
  obtain ⟨ended, houtcomes, -⟩ := exists_ends_reap p hindex w.unrecorded
  refine ⟨ended, ?_⟩
  have hreap := congrArg Prod.fst (p.recorded_mapsTo.commutes.reap entries w.unrecorded)
  exact hreap.trans houtcomes

/-! ### Entries and refusals by position -/

/-- The entries are at different positions. -/
theorem nodup_index_entriesOf {plans : List Plan} (h : (plans.map Plan.index).Nodup)
    (results : List LaunchResult) : ((entriesOf plans results).map Entry.index).Nodup := by
  -- the entries keep the order of the plans and leave some of them out
  refine List.Nodup.sublist ?_ h
  clear h
  induction plans generalizing results with
  | nil => simp [entriesOf]
  | cons plan plans ih =>
    cases results with
    | nil => simp [entriesOf]
    | cons result results =>
      rcases result with (fault | cause) | child
      · simpa using ih results
      · simpa using (ih results).cons plan.index
      · simpa using ih results

/-- Without a refusal each launch leaves its entry at its own position. -/
theorem getElem?_entriesOf {results : List LaunchResult}
    (hnone : ∀ cause, .error (.refused cause) ∉ results) (plans : List Plan) (i : Nat) :
    (entriesOf plans results)[i]? =
      (plans.zip results)[i]?.bind fun x => Entry.ofLaunch? x.1 x.2 := by
  induction results generalizing plans i with
  | nil => simp [entriesOf]
  | cons result results ih =>
    cases plans with
    | nil => simp [entriesOf]
    | cons plan plans =>
      have hrest := ih (fun cause hmem => hnone cause (List.mem_cons_of_mem _ hmem)) plans
      rcases result with (fault | cause) | child
      · cases i with
        | zero => rfl
        | succ i => simp [hrest]
      · exact absurd List.mem_cons_self (hnone cause)
      · cases i with
        | zero => rfl
        | succ i => simp [hrest]

/-- Without a refusal nothing ends the launch. -/
theorem refusalOf_eq_none {results : List LaunchResult}
    (hnone : ∀ cause, .error (.refused cause) ∉ results) (plans : List Plan) :
    refusalOf plans results = none := by
  rw [refusalOf, List.findSome?_eq_none_iff]
  rintro ⟨plan, result⟩ hmem
  rcases result with (fault | cause) | child
  · rfl
  · exact absurd (List.of_mem_zip hmem).2 (hnone cause)
  · rfl

/-- The first refusal ends the launch. -/
theorem refusalOf_eq_some {plans : List Plan} {results : List LaunchResult} {k : Nat}
    {plan : Plan} {cause : SystemError} (hplan : plans[k]? = some plan)
    (hresult : results[k]? = some (.error (.refused cause)))
    (hfirst : ∀ i < k, ∀ other, results[i]? ≠ some (.error (.refused other))) :
    refusalOf plans results = some (.spawn plan.index plan.program cause) := by
  induction k generalizing plans results with
  | zero =>
    obtain ⟨plans, rfl⟩ : ∃ rest, plans = plan :: rest := by
      cases plans <;> simp_all
    obtain ⟨results, rfl⟩ : ∃ rest, results = .error (.refused cause) :: rest := by
      cases results <;> simp_all
    rfl
  | succ k ih =>
    rcases plans with - | ⟨head, plans⟩
    · simp at hplan
    rcases results with - | ⟨result, results⟩
    · simp at hresult
    have hrest := ih (by simpa using hplan) (by simpa using hresult) fun i hi other => by
      simpa using hfirst (i + 1) (by omega) other
    -- a fault or a child is passed over, and a refusal cannot stand before position `k`
    rcases result with (fault | other) | child
    · rw [refusalOf_stage, hrest]
    · exact absurd rfl (hfirst 0 (by omega) other)
    · rw [refusalOf_ok, hrest]

/-- The waits for the entries are the waits for the results. -/
theorem filterMap_waitCall?_entriesOf (plans : List Plan) (results : List LaunchResult)
    (ended : Nat → Except SystemError WaitStatus) :
    (entriesOf plans results).filterMap (fun e => e.waitCall? (ended e.index)) =
      (plans.zip results).filterMap fun x => waitCall? (ended x.1.index) x.2 := by
  rw [entriesOf, List.filterMap_filterMap]
  refine List.filterMap_congr fun x _ => ?_
  rcases x with ⟨plan, (fault | cause) | child⟩ <;> rfl

/-! ### The report -/

/-- What is reported when no launch was refused. -/
structure Reported (pipeline : Pipeline) (results : List LaunchResult)
    (ended : Nat → Except SystemError WaitStatus) (report : Report) : Prop where
  /-- There is one pipe fewer than there are stages. -/
  pipes : report.pipes = pipeline.length - 1
  /-- There is one outcome for each stage. -/
  length : report.outcomes.length = pipeline.length
  /-- A stage with a child ended as its child did. -/
  running : ∀ (i : Nat) (stage : Stage) (child : ProcessId), pipeline.stages[i]? = some stage →
    results[i]? = some (.ok child) →
    report.outcomes[i]? = some ⟨i, stage.program?.getD "", .ofWait (ended i)⟩
  /-- A stage at fault failed with its fault. -/
  failed : ∀ (i : Nat) (stage : Stage) (fault : StageFault), pipeline.stages[i]? = some stage →
    results[i]? = some (.error (.stage fault)) →
    report.outcomes[i]? = some ⟨i, stage.program?.getD "", .failed fault⟩

/-- So every stage has its outcome, which is that of its child or its fault. -/
theorem Reported.exists_outcome {pipeline : Pipeline} {results : List LaunchResult}
    {ended : Nat → Except SystemError WaitStatus} {report : Report}
    (h : Reported pipeline results ended report) (hcourse : IsCourse pipeline.length results)
    (hnone : ∀ cause, .error (.refused cause) ∉ results) {i : Nat} (hi : i < pipeline.length) :
    ∃ o, report.outcomes[i]? = some o ∧ o.index = i ∧
      ((∃ child, results[i]? = some (.ok child) ∧ o.status = .ofWait (ended i)) ∨
        ∃ fault, results[i]? = some (.error (.stage fault)) ∧ o.status = .failed fault) := by
  have hstage : pipeline.stages[i]? = some pipeline.stages[i] := List.getElem?_eq_getElem hi
  have hlength : i < results.length := by rwa [hcourse.complete hnone]
  have hresult : results[i]? = some results[i] := List.getElem?_eq_getElem hlength
  rcases hi : results[i] with (fault | cause) | child
  · rw [hi] at hresult
    exact ⟨_, h.failed i _ fault hstage hresult, rfl, .inr ⟨fault, hresult, rfl⟩⟩
  · exact absurd (List.mem_of_getElem hi) (hnone cause)
  · rw [hi] at hresult
    exact ⟨_, h.running i _ child hstage hresult, rfl, .inl ⟨child, hresult, rfl⟩⟩

/-- The status of the pipeline is the code of its last stage. -/
theorem Reported.exists_last {pipeline : Pipeline} {results : List LaunchResult}
    {ended : Nat → Except SystemError WaitStatus} {report : Report}
    (h : Reported pipeline results ended report) (hcourse : IsCourse pipeline.length results)
    (hnone : ∀ cause, .error (.refused cause) ∉ results) :
    ∃ o, report.outcomes.getLast? = some o ∧ o.index = pipeline.length - 1 ∧
      report.lastStatus = o.status.code := by
  have hpos := pipeline.length_pos
  obtain ⟨o, ho, hindex, -⟩ :=
    h.exists_outcome hcourse hnone (show pipeline.length - 1 < pipeline.length by omega)
  have hlast : report.outcomes.getLast? = some o := by
    rw [List.getLast?_eq_getElem?, h.length, ho]
  refine ⟨o, hlast, hindex, ?_⟩
  rw [Report.lastStatus, hlast]
  rfl

/-- What an execution with its pipes created comes to. -/
inductive Meant (pipeline : Pipeline) (results : List LaunchResult)
    (ended : Nat → Except SystemError WaitStatus) : Except Abort Report → Prop
  /-- No launch was refused, and there is a report. -/
  | reported {report : Report} (hnone : ∀ cause, .error (.refused cause) ∉ results)
      (h : Reported pipeline results ended report) : Meant pipeline results ended (.ok report)
  /-- The launch of a stage was refused, and the stage is named. -/
  | refused {k : Nat} {stage : Stage} {cause : SystemError}
      (hstage : pipeline.stages[k]? = some stage)
      (hresult : results[k]? = some (.error (.refused cause))) :
      Meant pipeline results ended (.error (.spawn k (stage.program?.getD "") cause))

/-- The phase that the launch ended in, by what the execution came to. -/
def phaseOf : Except Abort Report → Phase
  | .ok _ => .allSpawned
  | .error _ => .spawnFailed

/-- Each step goes where the phases allow it. -/
theorem canAdvance_phaseSteps (report : Except Abort Report) :
    ∀ step ∈ phaseSteps (phaseOf report), step.1.canAdvance step.2 = true := by
  cases report <;> simp [phaseSteps, phaseOf, Phase.canAdvance]

/-- The entries of a launch without refusals give a report. -/
theorem reported_of_entries {pipeline : Pipeline} {results : List LaunchResult}
    (hcourse : IsCourse pipeline.length results)
    (hnone : ∀ cause, .error (.refused cause) ∉ results)
    (ended : Nat → Except SystemError WaitStatus) :
    Reported pipeline results ended
      ⟨(entriesOf pipeline.plans results).map (fun e => e.outcome (ended e.index)),
        pipeline.pipeCount⟩ := by
  -- the outcome at a position is that of the plan and the result there
  have hentry : ∀ (i : Nat) (stage : Stage) (result : LaunchResult),
      pipeline.stages[i]? = some stage → results[i]? = some result →
      ∃ plan, plan.index = i ∧ plan.program = stage.program?.getD "" ∧
        (entriesOf pipeline.plans results)[i]? = Entry.ofLaunch? plan result := by
    intro i stage result hstage hresult
    obtain ⟨plan, hplan⟩ := Pipeline.exists_plan hstage
    refine ⟨plan, Pipeline.index_of_getElem? hplan, Pipeline.program_of_getElem? hplan hstage, ?_⟩
    rw [getElem?_entriesOf hnone,
      (List.getElem?_zip_eq_some (z := (plan, result))).mpr ⟨hplan, hresult⟩]
    rfl
  refine ⟨rfl, ?_, ?_, ?_⟩
  · have hall : ∀ x ∈ pipeline.plans.zip results, (Entry.ofLaunch? x.1 x.2).isSome := by
      rintro ⟨plan, (fault | cause) | child⟩ hmem
      · rfl
      · exact absurd (List.of_mem_zip hmem).2 (hnone cause)
      · rfl
    rw [List.length_map, entriesOf, List.filterMap_length_eq_length.mpr hall, List.length_zip,
      Pipeline.length_plans, hcourse.complete hnone, Nat.min_self]
  · intro i stage child hstage hresult
    obtain ⟨plan, hindex, hprogram, hi⟩ := hentry i stage _ hstage hresult
    rw [List.getElem?_map, hi, ← hindex, ← hprogram]
    rfl
  · intro i stage fault hstage hresult
    obtain ⟨plan, hindex, hprogram, hi⟩ := hentry i stage _ hstage hresult
    rw [List.getElem?_map, hi, ← hindex, ← hprogram]
    rfl

/-- An execution with its pipes created comes to what the answers mean. -/
theorem meant_of_course {pipeline : Pipeline} {results : List LaunchResult}
    (hcourse : IsCourse pipeline.length results) (ended : Nat → Except SystemError WaitStatus) :
    Meant pipeline results ended
      (reportOf pipeline (refusalOf pipeline.plans results)
        ((entriesOf pipeline.plans results).map fun e => e.outcome (ended e.index))) := by
  by_cases hrefused : ∃ cause, .error (.refused cause) ∈ results
  · obtain ⟨cause, hmem⟩ := hrefused
    obtain ⟨k, hk⟩ := List.mem_iff_getElem?.mp hmem
    have hlength := hcourse.refused_last k cause hk
    have hlt : k < pipeline.stages.length := by
      have := hcourse.length_le
      rw [Pipeline.length] at this
      omega
    have hstage : pipeline.stages[k]? = some pipeline.stages[k] := List.getElem?_eq_getElem hlt
    obtain ⟨plan, hplan⟩ := Pipeline.exists_plan hstage
    have hrefusal := refusalOf_eq_some hplan hk fun i hi other hother => by
      -- a refusal at an earlier position would have been the last result
      have := hcourse.refused_last i other hother
      omega
    rw [hrefusal, Pipeline.index_of_getElem? hplan, Pipeline.program_of_getElem? hplan hstage]
    exact .refused hstage hk
  · have hnone : ∀ cause, .error (.refused cause) ∉ results := fun cause hmem =>
      hrefused ⟨cause, hmem⟩
    rw [refusalOf_eq_none hnone]
    exact .reported hnone (reported_of_entries hcourse hnone ended)

/-! ### An execution -/

/-- An execution with its pipes created is a launch loop, and comes to what the answers
mean. -/
theorem exists_meant {p : Platform σ} {pipeline : Pipeline} {w w₀ : World σ}
    (h : w.openPipes pipeline.pipeCount = (.ok (numberedPipes pipeline.pipeCount), w₀)) :
    ∃ results ended w₁,
      Launches p pipeline.plans (w₀.readyToLaunch pipeline) results w₁ ∧
        IsCourse pipeline.length results ∧ Meant pipeline results ended (execute p pipeline w).1 ∧
          (execute p pipeline w).2 =
            (reap p (entriesOf pipeline.plans results)
              (w₁.readyToReap (refusalOf pipeline.plans results))).2.advance .reaping .done := by
  obtain ⟨results, w₁, hlaunches, hexecute⟩ := execute_of_openPipes_ok (p := p) h
  have hindex := pipeline.nodup_index_plans
  have hcourse : IsCourse pipeline.length results := hlaunches.isCourse_plans
  obtain ⟨ended, houtcomes⟩ := exists_ends p (nodup_index_entriesOf hindex results)
    (w₁.readyToReap (refusalOf pipeline.plans results))
  refine ⟨results, ended, w₁, hlaunches, hcourse, ?_, by rw [hexecute]⟩
  rw [hexecute, houtcomes]
  exact meant_of_course hcourse ended

/-- The answers of the platform give the calls of an execution, and what it comes to. -/
theorem exists_called (p : Platform σ) (pipeline : Pipeline) {w : World σ} {pipes : List Pipe}
    (hpipes : (w.openPipes pipeline.pipeCount).1 = .ok pipes) :
    ∃ results ended, IsCourse pipeline.length results ∧
      callsOf p pipeline w = callsFor pipeline.plans results ended ∧
      Meant pipeline results ended (execute p pipeline w).1 := by
  -- the execution is followed on the recorded platform, which does the same
  obtain ⟨w₀, hopen⟩ : ∃ w₀, w.openPipes pipeline.pipeCount = (.ok pipes, w₀) :=
    ⟨_, Prod.ext hpipes rfl⟩
  obtain ⟨rfl, -, -⟩ := openPipes_ok hopen
  have hopened : w.unrecorded.openPipes pipeline.pipeCount =
      (.ok (numberedPipes pipeline.pipeCount), w₀.unrecorded) := by
    rw [World.openPipes] at hopen ⊢
    rw [World.unrecorded, World.openPipesFrom_map, hopen]
    rfl
  obtain ⟨results, w₁, hlaunches, hexecute⟩ := execute_of_openPipes_ok (p := p.recorded) hopened
  have hindex := pipeline.nodup_index_plans
  have hcourse : IsCourse pipeline.length results := hlaunches.isCourse_plans
  obtain ⟨ended, houtcomes, hcalls⟩ := exists_ends_reap p (nodup_index_entriesOf hindex results)
    (w₁.readyToReap (refusalOf pipeline.plans results))
  have hreport : (execute p pipeline w).1 =
      reportOf pipeline (refusalOf pipeline.plans results)
        ((entriesOf pipeline.plans results).map fun e => e.outcome (ended e.index)) := by
    have hrecorded := congrArg Prod.fst (execute_recorded p pipeline w)
    rw [hexecute] at hrecorded
    rw [hrecorded, ← houtcomes]
  refine ⟨results, ended, hcourse, ?_, ?_⟩
  · -- the calls: those of the launch loop, then those of reaping
    have hdone : (execute p.recorded pipeline w.unrecorded).2.state =
        (reap p.recorded (entriesOf pipeline.plans results)
          (w₁.readyToReap (refusalOf pipeline.plans results))).2.state := by
      rw [hexecute]
      rfl
    have hready : (w₁.readyToReap (refusalOf pipeline.plans results)).state = w₁.state := rfl
    have hnone : (w₀.unrecorded.readyToLaunch pipeline).state.calls = [] := rfl
    rw [callsOf, hdone, hcalls, hready, hlaunches.calls, hnone, List.nil_append,
      filterMap_waitCall?_entriesOf, callsFor]
  · rw [hreport]
    exact meant_of_course hcourse ended

/-- The journal shows the phases that go with what an execution comes to. -/
theorem steps_execute {p : Platform σ} (hp : p.KeepsJournal) {pipeline : Pipeline}
    {w w₀ : World σ} {pipes : List Pipe}
    (hopen : w.openPipes pipeline.pipeCount = (.ok pipes, w₀)) :
    (w.since (execute p pipeline w).2).filterMap Moment.advance? =
      phaseSteps (phaseOf (execute p pipeline w).1) := by
  obtain ⟨rfl, hwork, -⟩ := openPipes_ok hopen
  obtain ⟨results, w₁, hlaunches, hexecute⟩ := execute_of_openPipes_ok (p := p) hopen
  have hphase (outcomes : List Outcome) :
      phaseOf (reportOf pipeline (refusalOf pipeline.plans results) outcomes) =
        launchedPhase (refusalOf pipeline.plans results) := by
    cases refusalOf pipeline.plans results <;> rfl
  rw [hexecute, hphase]
  exact (showsExecution hp hwork hlaunches _ _).steps

/-- Where there is a report, no launch was refused, and the report follows from the
answers. -/
theorem exists_reported {p : Platform σ} {pipeline : Pipeline} {w : World σ} {report : Report}
    (h : (execute p pipeline w).1 = .ok report) :
    ∃ results ended, IsCourse pipeline.length results ∧
      (∀ cause, .error (.refused cause) ∉ results) ∧
      callsOf p pipeline w = callsFor pipeline.plans results ended ∧
      Reported pipeline results ended report := by
  obtain ⟨pipes, w₀, hopen⟩ := exists_openPipes_of_report h
  obtain ⟨results, ended, hcourse, hcalls, hmeant⟩ :=
    exists_called p pipeline (congrArg Prod.fst hopen)
  rw [h] at hmeant
  cases hmeant with
  | reported hnone hreported => exact ⟨results, ended, hcourse, hnone, hcalls, hreported⟩

/-- Once its pipes are created, an execution launches the stages in order up to the
first refusal, reports each fault at once, waits for each child that was started, and
comes to what the answers mean. -/
theorem execute_meaning (p : Platform σ) (pipeline : Pipeline) {w : World σ} {pipes : List Pipe}
    (hpipes : (w.openPipes pipeline.pipeCount).1 = .ok pipes) :
    ∃ results ended, IsCourse pipeline.length results ∧
      callsOf p pipeline w = callsFor pipeline.plans results ended ∧
      Meant pipeline results ended (execute p pipeline w).1 ∧
      (p.KeepsJournal → (w.since (execute p pipeline w).2).filterMap Moment.advance? =
        phaseSteps (phaseOf (execute p pipeline w).1)) ∧
      ∀ step ∈ phaseSteps (phaseOf (execute p pipeline w).1), step.1.canAdvance step.2 = true := by
  obtain ⟨results, ended, hcourse, hcalls, hmeant⟩ := exists_called p pipeline hpipes
  have hopen : w.openPipes pipeline.pipeCount = (.ok pipes, (w.openPipes pipeline.pipeCount).2) :=
    Prod.ext hpipes rfl
  exact ⟨results, ended, hcourse, hcalls, hmeant, fun hp => steps_execute hp hopen,
    canAdvance_phaseSteps _⟩

/-- The first child is killed, the second stage has no command, the third child is lost
to somebody else, and for the fourth stage there is no process left, so that the phases go
through the one of a failed launch. -/
theorem execute_meaning_mixed :
    let pipeline : Pipeline :=
      ⟨[⟨["a"], none, none⟩, ⟨[], none, none⟩, ⟨["b"], none, some "f"⟩, ⟨["c"], none, none⟩],
        by simp⟩
    let w : World Rehearsal := { state := { script := [.child (.known (.killed 9)),
      .fails (.stage .emptyCommand), .child .lost, .fails (.refused (.os ⟨11⟩))] } }
    (w.openPipes pipeline.pipeCount).1 = .ok (numberedPipes pipeline.pipeCount) ∧
      Rehearsal.platform.KeepsJournal ∧
      ∃ results ended, IsCourse pipeline.length results ∧
        callsOf Rehearsal.platform pipeline w = callsFor pipeline.plans results ended ∧
        Meant pipeline results ended (execute Rehearsal.platform pipeline w).1 ∧
        (w.since (execute Rehearsal.platform pipeline w).2).filterMap Moment.advance? =
          phaseSteps .spawnFailed ∧
        ∀ step ∈ phaseSteps .spawnFailed, step.1.canAdvance step.2 = true := by
  intro pipeline w
  have hpipes : (w.openPipes pipeline.pipeCount).1 = .ok (numberedPipes pipeline.pipeCount) := rfl
  have hjournal : Rehearsal.platform.KeepsJournal := Rehearsal.honoursContract.keepsJournal
  obtain ⟨results, ended, hcourse, hcalls, hmeant, hphases, hadvance⟩ :=
    execute_meaning Rehearsal.platform pipeline hpipes
  have hphase : phaseOf (execute Rehearsal.platform pipeline w).1 = .spawnFailed := rfl
  rw [hphase] at hphases hadvance
  exact ⟨hpipes, hjournal, results, ended, hcourse, hcalls, hmeant, hphases hjournal, hadvance⟩

end LineShell
