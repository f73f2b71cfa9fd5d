import LineShell.Proofs.ExitCode

/-!
# What a report says

A report is asked three things: whether all went well, what the status of the pipeline is,
and which stages could not start. Each is answered from the outcomes of the stages in a way
of its own. The answers agree, because the code 0 belongs to one status only: a fault, a
lost child and a signal all have others.

## Main definitions

* `Coherent` — the answers agree with each other and with the launches.

## Main results

* `StageStatus.code_eq_zero_iff` — the one status with the code 0.
* `Reported.mem_failed_iff` — the stages that could not start are those whose launch came to
  a fault.
* `report_coherent` — the answers of every report agree.
-/

namespace LineShell

/-! ### Statuses -/

namespace StageStatus

/-- Only a process that exits with 0 has the code 0. -/
theorem code_eq_zero_iff {s : StageStatus} (h : s.InRange) : s.code = 0 ↔ s = .exited 0 := by
  cases s with
  | exited status => simp [code]
  | signaled signal =>
    -- 128 and the number of a signal are more than 0, and do not overflow to it
    have hadd := h.toInt_add
    obtain ⟨hlow, -⟩ := h
    refine iff_of_false (fun hzero => ?_) (by simp)
    simp only [code] at hzero
    rw [hzero, Int32.toInt_zero] at hadd
    omega
  | failed fault => simp [code, fault.status_ne_zero]
  | lost cause => simp [code]

theorem fault?_eq_some_iff {s : StageStatus} {fault : StageFault} :
    s.fault? = some fault ↔ s = .failed fault := by
  cases s <;> simp [fault?]

/-- Whatever a wait answers, it is not the fault of a stage. -/
theorem ofWait_ne_failed (ended : Except SystemError WaitStatus) (fault : StageFault) :
    ofWait ended ≠ .failed fault := by
  rcases ended with cause | status
  · simp [ofWait]
  · rw [ofWait, ofWaitStatus]
    split <;> simp

end StageStatus

/-! ### Reports -/

namespace Report

variable {report : Report}

theorem isSuccess_iff : report.isSuccess = true ↔ ∀ o ∈ report.outcomes, o.status = .exited 0 := by
  simp [isSuccess, StageStatus.isSuccess]

/-- The status of a success is 0. -/
theorem lastStatus_of_isSuccess (h : report.isSuccess = true) : report.lastStatus = 0 := by
  rw [lastStatus]
  rcases hlast : report.outcomes.getLast? with - | last
  · rfl
  · have hstatus := isSuccess_iff.mp h last (List.mem_of_getLast? hlast)
    simp [hstatus, StageStatus.code]

theorem mem_failed {o : Outcome} {fault : StageFault} :
    (o, fault) ∈ report.failed ↔ o ∈ report.outcomes ∧ o.status = .failed fault := by
  rw [failed, List.mem_filterMap]
  constructor
  · rintro ⟨other, hother, h⟩
    obtain ⟨fault', hfault, heq⟩ := Option.map_eq_some_iff.mp h
    cases heq
    exact ⟨hother, StageStatus.fault?_eq_some_iff.mp hfault⟩
  · rintro ⟨ho, hstatus⟩
    exact ⟨o, ho, by rw [StageStatus.fault?_eq_some_iff.mpr hstatus]; rfl⟩

/-- All its stages could start. -/
theorem failed_of_isSuccess (h : report.isSuccess = true) : report.failed = [] := by
  rw [List.eq_nil_iff_forall_not_mem]
  rintro ⟨o, fault⟩ hmem
  obtain ⟨ho, hstatus⟩ := mem_failed.mp hmem
  rw [isSuccess_iff.mp h o ho] at hstatus
  cases hstatus

theorem mem_failures {i : Nat} {fault : StageFault} :
    (i, fault) ∈ report.failures ↔ ∃ o, (o, fault) ∈ report.failed ∧ o.index = i := by
  rw [failures, List.mem_map]
  constructor
  · rintro ⟨⟨o, fault'⟩, hmem, heq⟩
    cases heq
    exact ⟨o, hmem, rfl⟩
  · rintro ⟨o, hmem, rfl⟩
    exact ⟨(o, fault), hmem, rfl⟩

end Report

/-! ### Reports of executions -/

namespace Reported

variable {pipeline : Pipeline} {results : List LaunchResult}
  {ended : Nat → Except SystemError WaitStatus} {report : Report}
  (h : Reported pipeline results ended report) (hcourse : IsCourse pipeline.length results)
  (hnone : ∀ cause, .error (.refused cause) ∉ results)

include h hcourse hnone

/-- The outcomes of the stages that could not start are those whose launch came to a fault. -/
theorem mem_failed_iff {o : Outcome} {fault : StageFault} :
    (o, fault) ∈ report.failed ↔
      o ∈ report.outcomes ∧ results[o.index]? = some (.error (.stage fault)) := by
  rw [Report.mem_failed]
  refine and_congr_right fun ho => ?_
  obtain ⟨j, hj⟩ := List.mem_iff_getElem?.mp ho
  have hlt : j < pipeline.length := by
    rw [← h.length]
    exact (List.getElem?_eq_some_iff.mp hj).1
  obtain ⟨other, hother, hindex, hcases⟩ := h.exists_outcome hcourse hnone hlt
  obtain rfl : o = other := Option.some.inj (hj.symm.trans hother)
  rw [hindex]
  rcases hcases with ⟨child, hresult, hstatus⟩ | ⟨fault', hresult, hstatus⟩
  · rw [hresult, hstatus]
    simp [StageStatus.ofWait_ne_failed]
  · rw [hresult, hstatus]
    simp

/-- So are their positions. -/
theorem mem_failures_iff {i : Nat} {fault : StageFault} :
    (i, fault) ∈ report.failures ↔ results[i]? = some (.error (.stage fault)) := by
  rw [Report.mem_failures]
  constructor
  · rintro ⟨o, hmem, rfl⟩
    exact ((h.mem_failed_iff hcourse hnone).mp hmem).2
  · intro hresult
    have hlt : i < pipeline.length := by
      rw [← hcourse.complete hnone]
      exact (List.getElem?_eq_some_iff.mp hresult).1
    have hstage : pipeline.stages[i]? = some pipeline.stages[i] := List.getElem?_eq_getElem hlt
    have ho := h.failed i _ fault hstage hresult
    exact ⟨_, (h.mem_failed_iff hcourse hnone).mpr ⟨List.mem_of_getElem? ho, hresult⟩, rfl⟩

/-- The outcomes are in the order of their stages. -/
theorem map_index_outcomes : report.outcomes.map Outcome.index = List.range pipeline.length := by
  refine List.ext_getElem (by rw [List.length_map, h.length, List.length_range]) fun i hi _ => ?_
  rw [List.length_map, h.length] at hi
  obtain ⟨o, ho, hindex, -⟩ := h.exists_outcome hcourse hnone hi
  obtain ⟨_, rfl⟩ := List.getElem?_eq_some_iff.mp ho
  rw [List.getElem_map, List.getElem_range, hindex]

/-- So are those of the stages that could not start. -/
theorem pairwise_failed : report.failed.Pairwise (·.1.index < ·.1.index) := by
  have horder : report.outcomes.Pairwise (·.index < ·.index) := by
    rw [← List.pairwise_map, h.map_index_outcomes hcourse hnone]
    exact List.pairwise_lt_range
  refine List.Pairwise.filterMap _ ?_ horder
  intro o o' hlt x hx y hy
  obtain ⟨fault, -, rfl⟩ := Option.map_eq_some_iff.mp hx
  obtain ⟨fault', -, rfl⟩ := Option.map_eq_some_iff.mp hy
  exact hlt

theorem pairwise_failures : report.failures.Pairwise (·.1 < ·.1) :=
  List.pairwise_map.mpr (h.pairwise_failed hcourse hnone)

end Reported

/-- What a report answers agrees with its outcomes and with the results of the launches. -/
structure Coherent (pipeline : Pipeline) (results : List LaunchResult) (report : Report) : Prop where
  /-- It is a success exactly if all codes are 0. -/
  success_iff : report.isSuccess = true ↔ ∀ o ∈ report.outcomes, o.status.code = 0
  /-- Nothing but a process that exited with 0 has this code. -/
  zero : ∀ o ∈ report.outcomes, o.status.code = 0 → o.status = .exited 0
  /-- The status of a success is 0, and all its stages could start. -/
  of_success : report.isSuccess = true →
    report.lastStatus = 0 ∧ report.failed = [] ∧ report.failures = []
  /-- The status is the code of the last stage. -/
  last : ∃ o, report.outcomes.getLast? = some o ∧ o.index = pipeline.length - 1 ∧
    report.lastStatus = o.status.code
  /-- The outcomes of the stages that could not start are those of the stages whose launch came to
  a fault, with this fault. -/
  mem_failed : ∀ o fault, (o, fault) ∈ report.failed ↔
    o ∈ report.outcomes ∧ results[o.index]? = some (.error (.stage fault))
  /-- No such stage is left out. -/
  mem_failures : ∀ i fault,
    (i, fault) ∈ report.failures ↔ results[i]? = some (.error (.stage fault))
  /-- They are named in their order, and none twice. -/
  order : report.failed.Pairwise (·.1.index < ·.1.index) ∧ report.failures.Pairwise (·.1 < ·.1)

variable {σ : Type}

/-- **The answers of a report agree**: whatever the launches and the waits of an execution
came to, the report that there is of it says so of each stage, and says the same however it
is asked. -/
theorem report_coherent {p : Platform σ} {valid : σ → Prop} (hp : p.ReportsEnds valid)
    {pipeline : Pipeline} {w : World σ} (hw : valid w.state) {report : Report}
    (h : (execute p pipeline w).1 = .ok report) :
    ∃ results ended, results.length = pipeline.length ∧
      (∀ cause, .error (.refused cause) ∉ results) ∧
      callsOf p pipeline w = callsFor pipeline.plans results ended ∧
      Reported pipeline results ended report ∧ Coherent pipeline results report := by
  have hrange := hp.execute pipeline hw h
  obtain ⟨results, ended, hcourse, hnone, hcalls, hreported⟩ := exists_reported h
  refine ⟨results, ended, hcourse.complete hnone, hnone, hcalls, hreported, ?_⟩
  have hzero : ∀ o ∈ report.outcomes, o.status.code = 0 ↔ o.status = .exited 0 := fun o ho =>
    StageStatus.code_eq_zero_iff (hrange o ho)
  exact
    { success_iff := Report.isSuccess_iff.trans (forall₂_congr fun o ho => (hzero o ho).symm)
      zero := fun o ho => (hzero o ho).mp
      of_success := fun hsuccess =>
        ⟨Report.lastStatus_of_isSuccess hsuccess, Report.failed_of_isSuccess hsuccess,
          congrArg (List.map _) (Report.failed_of_isSuccess hsuccess)⟩
      last := hreported.exists_last hcourse hnone
      mem_failed := fun o fault => hreported.mem_failed_iff hcourse hnone
      mem_failures := fun i fault => hreported.mem_failures_iff hcourse hnone
      order := ⟨hreported.pairwise_failed hcourse hnone,
        hreported.pairwise_failures hcourse hnone⟩ }

/-- The first child is killed, the second stage has no command, the third child is lost, and
the last one exits with 0, which makes the status 0 of a pipeline that is no success. -/
theorem report_coherent_mixed :
    let pipeline : Pipeline :=
      ⟨[⟨["a"], none, none⟩, ⟨[], none, none⟩, ⟨["b"], none, none⟩, ⟨["c"], none, none⟩], by simp⟩
    let w : World Rehearsal := { state := { script := [.child (.known (.killed 9)),
      .fails (.stage .emptyCommand), .child .lost, .child (.known (.exited 0))] } }
    Rehearsal.platform.ReportsEnds Rehearsal.AllFinal ∧ w.state.AllFinal ∧
      ∃ report, (execute Rehearsal.platform pipeline w).1 = .ok report ∧
        report.isSuccess = false ∧ report.lastStatus = 0 ∧
        report.failed = [(⟨1, "", .failed .emptyCommand⟩, .emptyCommand)] ∧
        report.failures = [(1, .emptyCommand)] ∧
        ∃ results ended, results.length = pipeline.length ∧
          (∀ cause, .error (.refused cause) ∉ results) ∧
          callsOf Rehearsal.platform pipeline w = callsFor pipeline.plans results ended ∧
          Reported pipeline results ended report ∧ Coherent pipeline results report := by
  intro pipeline w
  have hfinal : w.state.AllFinal := by
    refine ⟨fun status hstatus => ?_, fun status hstatus => by cases hstatus⟩
    have hcases : status = .killed 9 ∨ status = .exited 0 := by simpa [w] using hstatus
    rcases hcases with rfl | rfl
    · exact WaitStatus.isFinal_killed (by decide) (by decide)
    · exact WaitStatus.isFinal_exited 0
  obtain ⟨report, hreport⟩ : ∃ report,
      (execute Rehearsal.platform pipeline w).1 = .ok report := ⟨_, rfl⟩
  refine ⟨Rehearsal.reportsEnds, hfinal, report, hreport, ?_, ?_, ?_, ?_,
    report_coherent Rehearsal.reportsEnds hfinal hreport⟩
  all_goals
    cases hreport
    decide

end LineShell
