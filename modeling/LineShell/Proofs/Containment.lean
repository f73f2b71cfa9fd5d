import LineShell.Proofs.LaunchOrder
import LineShell.Proofs.Meaning

/-!
# Programs that cannot be executed

A process is created first and executes its program afterwards, and both steps report an
error in the same way. If no process can be created, no other stage can be started either;
if only the program cannot be executed, that is a matter of one stage. The two are told
apart by the error number. Of the numbers that executing a program can raise, all but two
are taken as a fault of the stage; a program that lies on a failing device, or whose
interpreter is damaged, is taken for a system that creates no processes, and the stages
after it are never launched.

## Main definitions

* `attempts`, `attemptsOf`, `resultsOf` — the launches that are made, each with the world it
  is made in, and what they come to.
* `Kernel.SpawnFails` — a stage comes as far as its process, which cannot be started.
* `executionErrnos`, `mistakenErrnos` — the numbers that executing a program can raise, and
  those of them that are mistaken.
* `Contained`, `Abandoned` — a failure concerns its stage only, or all stages after it.

## Main results

* `meant_resultsOf` — the launches that are made decide the course of an execution.
* `Kernel.launch_of_spawnFails` — what the launch of the stage comes to.
* `contained_of_fault`, `abandoned_of_refusal` — what its result means for the others.
* `contained_iff` — which failures concern their stage only.
-/

namespace LineShell

variable {σ : Type}

/-! ### The launches of an execution -/

/-- The launches that the loop over the plans makes, each with the world that it is made in. -/
def attempts (p : Platform σ) : List Plan → World σ → List (Plan × World σ)
  | [], _ => []
  | plan :: plans, w =>
    (plan, w) ::
      match p.launch plan w with
      | (.ok child, w₁) => attempts p plans (w₁.note (.launched plan (.ok child)))
      | (.error (.stage fault), w₁) =>
        attempts p plans ((w₁.note (.launched plan (.error (.stage fault)))).warn p
          (faultReport plan.index fault))
      | (.error (.refused _), _) => []

/-- The launches that the execution of a pipeline makes. -/
def attemptsOf (p : Platform σ) (pipeline : Pipeline) (w : World σ) : List (Plan × World σ) :=
  match w.openPipes pipeline.pipeCount with
  | (.ok _, w₀) => attempts p pipeline.plans (w₀.readyToLaunch pipeline)
  | (.error _, _) => []

/-- What the launches of an execution come to. -/
def resultsOf (p : Platform σ) (pipeline : Pipeline) (w : World σ) : List LaunchResult :=
  (attemptsOf p pipeline w).map fun x => (p.launch x.1 x.2).1

/-- The plans that were launched, by the journal of an execution. -/
def launchedBy (p : Platform σ) (pipeline : Pipeline) (w : World σ) : List Plan :=
  ((w.since (execute p pipeline w).2).filterMap Moment.launched?).map Prod.fst

section Attempts

variable {p : Platform σ}

/-- The results of the loop are those of the launches that it makes. -/
theorem Launches.zip_results {plans : List Plan} {w w' : World σ} {results : List LaunchResult}
    (h : Launches p plans w results w') :
    plans.zip results = (attempts p plans w).map fun x => (x.1, (p.launch x.1 x.2).1) := by
  induction h with
  | done w => rfl
  | started launch rest ih => simp [attempts, launch, ih]
  | failed launch rest ih => simp [attempts, launch, ih]
  | refused launch => simp [attempts, launch]

variable {pipeline : Pipeline} {w : World σ}

/-- Where a launch is made, all pipes are there. -/
theorem openPipes_of_mem_attemptsOf {x : Plan × World σ} (h : x ∈ attemptsOf p pipeline w) :
    ∃ w₀, w.openPipes pipeline.pipeCount = (.ok (numberedPipes pipeline.pipeCount), w₀) := by
  rcases hopen : w.openPipes pipeline.pipeCount with ⟨abort | pipes, w₀⟩
  · simp [attemptsOf, hopen] at h
  · obtain ⟨rfl, -, -⟩ := openPipes_ok hopen
    exact ⟨w₀, rfl⟩

/-- The launches that are made decide the course of an execution: they are those that the
journal shows, of the first plans in order, and the report is what their results mean. -/
theorem meant_resultsOf (hp : p.KeepsJournal) {w₀ : World σ}
    (hopen : w.openPipes pipeline.pipeCount = (.ok (numberedPipes pipeline.pipeCount), w₀)) :
    IsCourse pipeline.length (resultsOf p pipeline w) ∧
      (attemptsOf p pipeline w).map Prod.fst = launchedBy p pipeline w ∧
      launchedBy p pipeline w = pipeline.plans.take (resultsOf p pipeline w).length ∧
      ∃ ended, Meant pipeline (resultsOf p pipeline w) ended (execute p pipeline w).1 := by
  obtain ⟨results, ended, w₁, hlaunches, hcourse, hmeant, hafter⟩ := exists_meant (p := p) hopen
  have hlength : results.length ≤ pipeline.plans.length := hlaunches.isCourse.length_le
  have hattempts : attemptsOf p pipeline w =
      attempts p pipeline.plans (w₀.readyToLaunch pipeline) := by
    simp [attemptsOf, hopen]
  have hresults : resultsOf p pipeline w = results := by
    rw [resultsOf, hattempts, ← List.map_snd_zip hlength, hlaunches.zip_results, List.map_map]
    rfl
  have hlaunched : launchedBy p pipeline w = (pipeline.plans.zip results).map Prod.fst := by
    obtain ⟨-, hwork, -⟩ := openPipes_ok hopen
    rw [launchedBy, hafter, (showsExecution hp hwork hlaunches _ _).launches]
  rw [hresults]
  refine ⟨hcourse, ?_, ?_, ended, hmeant⟩
  · rw [hlaunched, hlaunches.zip_results, hattempts, List.map_map]
    rfl
  · rw [hlaunched, List.zip_eq_zip_take_min, Nat.min_eq_right hlength, List.take_length,
      List.map_fst_zip (List.length_take_le _ _)]

end Attempts

/-! ### Errors of an execution in the child -/

/-- The numbers of the errors that executing a program can raise and creating a process
cannot. -/
def executionErrnos : List Errno :=
  [.ENOENT, .ENOTDIR, .ELOOP, .ENAMETOOLONG, .EACCES, .ENOEXEC, .EISDIR, .ETXTBSY, .E2BIG,
    .EINVAL, .EIO, .ELIBBAD]

/-- Those of them that are taken for errors of creating a process. -/
def mistakenErrnos : List Errno := [.EIO, .ELIBBAD]

theorem classify_of_mistaken {errno : Errno} (h : errno ∈ mistakenErrnos) (program : String) :
    classify program (.os errno) = .refused (.os errno) := by
  simp only [mistakenErrnos, List.mem_cons, List.not_mem_nil, or_false] at h
  rcases h with rfl | rfl <;> rfl

/-- The others are taken as the fault of a stage whose program does not exist or cannot be
executed. -/
theorem exists_fault_of_mem_executionErrnos {errno : Errno} (h : errno ∈ executionErrnos)
    (hmistaken : errno ∉ mistakenErrnos) (program : String) :
    ∃ fault, classify program (.os errno) = .stage fault ∧
      (fault.status = 126 ∨ fault.status = 127) := by
  -- an invalid argument is found by its kind, before the tables of numbers are looked at
  by_cases hinvalid : errno = .EINVAL
  · subst hinvalid
    exact ⟨.notExecutable program _, rfl, Or.inl rfl⟩
  by_cases hmissing : errno ∈ missingErrnos
  · exact ⟨.notFound program, classify_of_missing hmissing program, Or.inr rfl⟩
  · have hunexecutable : errno ∈ unexecutableErrnos := by
      simp only [executionErrnos, missingErrnos, unexecutableErrnos, mistakenErrnos, List.mem_cons,
        List.not_mem_nil, or_false] at h hmissing hmistaken ⊢
      tauto
    exact ⟨.notExecutable program (.os errno), classify_of_unexecutable hunexecutable program,
      Or.inl rfl⟩

namespace Kernel

/-- A launch comes as far as the process, its streams being open, and the system says that
it cannot be started. -/
inductive SpawnFails (k : Kernel σ) (plan : Plan) (w : World σ) (cause : SystemError) : Prop
  | intro {program : String} {operands : List String} {stdin stdout : Channel FileHandle}
      {s₁ s₂ s₃ : σ} (command : plan.arguments = program :: operands)
      (plain : ∀ text ∈ program :: operands, '\x00' ∉ text.toList)
      (input : Provides (w.holdings.hasRoomFor 1) k.openInput w.state plan.stdin stdin s₁)
      (output : Provides (w.holdings.hasRoomFor (stdin.files.length + 1)) k.openOutput s₁
        plan.stdout stdout s₂)
      (answer : k.spawn { program, operands, stdin, stdout } s₂ = (.error cause, s₃))

/-- The error of the process is the error of the launch. -/
theorem launch_of_spawnFails {k : Kernel σ} {plan : Plan} {w : World σ} {cause : SystemError}
    (h : k.SpawnFails plan w cause) :
    (k.launch plan w).1 = .error (classify plan.program cause) := by
  obtain @⟨program, operands, stdin, stdout, s₁, s₂, s₃, command, plain, input, output, answer⟩ := h
  have hprogram : plan.program = program := by simp [Plan.program, command]
  rw [hprogram]
  exact (launch_of_reaches (.intro command input output) (.notSpawned plain answer)).1

end Kernel

/-! ### Contained and abandoned -/

/-- The failure of one stage stays with it: every stage is launched, and the report has one
outcome for each stage, among them the failure. -/
structure Contained (p : Platform σ) (pipeline : Pipeline) (w : World σ) (i : Nat) : Prop where
  /-- Every stage is launched. -/
  launched : launchedBy p pipeline w = pipeline.plans
  /-- The stage itself failed like one that has no program or none that can be executed. -/
  reported : ∃ report outcome fault, (execute p pipeline w).1 = .ok report ∧
    report.outcomes.length = pipeline.length ∧ report.outcomes[i]? = some outcome ∧
    outcome.index = i ∧ outcome.status = .failed fault ∧
    (fault.status = 126 ∨ fault.status = 127)

/-- The failure of one stage ends the launch. -/
structure Abandoned (p : Platform σ) (pipeline : Pipeline) (w : World σ) (i : Nat)
    (cause : SystemError) : Prop where
  /-- No stage after it is launched. -/
  launched : launchedBy p pipeline w = pipeline.plans.take (i + 1)
  /-- There is no report but an error that names the stage. -/
  aborted : ∃ plan, pipeline.plans[i]? = some plan ∧
    (execute p pipeline w).1 = .error (.spawn i plan.program cause)

section Results

variable {p : Platform σ} {pipeline : Pipeline} {w w₀ : World σ} {i : Nat}
  (hp : p.KeepsJournal)
  (hopen : w.openPipes pipeline.pipeCount = (.ok (numberedPipes pipeline.pipeCount), w₀))

include hp hopen

/-- A fault of a stage is contained if no launch is refused. -/
theorem contained_of_fault {fault : StageFault}
    (hfault : (resultsOf p pipeline w)[i]? = some (.error (.stage fault)))
    (hstatus : fault.status = 126 ∨ fault.status = 127)
    (hnone : ∀ cause, .error (.refused cause) ∉ resultsOf p pipeline w) :
    Contained p pipeline w i := by
  obtain ⟨hcourse, -, hlaunched, ended, hmeant⟩ := meant_resultsOf hp hopen
  have hlength := hcourse.complete hnone
  refine ⟨?_, ?_⟩
  · rw [hlaunched, hlength, ← Pipeline.length_plans, List.take_length]
  · have hi : i < pipeline.stages.length := by
      have := (List.getElem?_eq_some_iff.mp hfault).1
      rwa [hlength] at this
    generalize (execute p pipeline w).1 = result at hmeant ⊢
    cases hmeant with
    | @reported report _ h =>
      exact ⟨report, _, fault, rfl, h.length,
        h.failed i _ fault (List.getElem?_eq_getElem hi) hfault, rfl, rfl, hstatus⟩
    | refused _ hresult => exact absurd (List.mem_of_getElem? hresult) (hnone _)

/-- A refusal ends the launch at its stage. -/
theorem abandoned_of_refusal {cause : SystemError}
    (hrefused : (resultsOf p pipeline w)[i]? = some (.error (.refused cause))) :
    Abandoned p pipeline w i cause := by
  obtain ⟨hcourse, -, hlaunched, ended, hmeant⟩ := meant_resultsOf hp hopen
  have hlength := hcourse.refused_last i cause hrefused
  refine ⟨by rw [hlaunched, hlength], ?_⟩
  generalize (execute p pipeline w).1 = result at hmeant ⊢
  cases hmeant with
  | reported hnone _ => exact absurd (List.mem_of_getElem? hrefused) (hnone cause)
  | @refused k stage other hstage hresult =>
    -- the refusal that ended the launch is the last result, as is this one
    obtain rfl : k = i := by
      have := hcourse.refused_last k other hresult
      omega
    obtain rfl : other = cause := by simpa [hresult] using hrefused
    obtain ⟨plan, hplan⟩ := Pipeline.exists_plan hstage
    exact ⟨plan, hplan, by rw [Pipeline.program_of_getElem? hplan hstage]⟩

end Results

theorem Abandoned.not_contained {p : Platform σ} {pipeline : Pipeline} {w : World σ} {i : Nat}
    {cause : SystemError} (h : Abandoned p pipeline w i cause) : ¬ Contained p pipeline w i := by
  intro hcontained
  obtain ⟨plan, -, haborted⟩ := h.aborted
  obtain ⟨report, outcome, fault, hreport, -⟩ := hcontained.reported
  rw [haborted] at hreport
  cases hreport

/-- **A program that cannot be executed concerns its stage only**, whichever stage it is,
with two exceptions: an error of the device and a damaged interpreter are taken for a
system that creates no processes, and the stages after it are never launched. -/
theorem contained_iff (k : Kernel σ) (pipeline : Pipeline) (w : World σ) {i : Nat} {plan : Plan}
    {before : World σ} {errno : Errno}
    (hattempt : (attemptsOf k.platform pipeline w)[i]? = some (plan, before))
    (hfails : k.SpawnFails plan before (.os errno)) (herrno : errno ∈ executionErrnos)
    (hothers : ∀ j other w', (attemptsOf k.platform pipeline w)[j]? = some (other, w') → j ≠ i →
      ∀ cause, (k.launch other w').1 ≠ .error (.refused cause)) :
    (Contained k.platform pipeline w i ↔ errno ∉ mistakenErrnos) ∧
      (errno ∈ mistakenErrnos → Abandoned k.platform pipeline w i (.os errno)) := by
  have hp : k.platform.KeepsJournal := k.honoursContract.keepsJournal
  obtain ⟨w₀, hopen⟩ := openPipes_of_mem_attemptsOf (List.mem_of_getElem? hattempt)
  have hresult : (resultsOf k.platform pipeline w)[i]? =
      some (.error (classify plan.program (.os errno))) := by
    rw [resultsOf, List.getElem?_map, hattempt, Option.map_some]
    exact congrArg some (Kernel.launch_of_spawnFails hfails)
  have habandoned : errno ∈ mistakenErrnos → Abandoned k.platform pipeline w i (.os errno) := by
    intro hmistaken
    rw [classify_of_mistaken hmistaken] at hresult
    exact abandoned_of_refusal hp hopen hresult
  refine ⟨⟨fun hcontained hmistaken => (habandoned hmistaken).not_contained hcontained,
    fun hmistaken => ?_⟩, habandoned⟩
  obtain ⟨fault, hclassify, hstatus⟩ :=
    exists_fault_of_mem_executionErrnos herrno hmistaken plan.program
  rw [hclassify] at hresult
  refine contained_of_fault hp hopen hresult hstatus ?_
  -- a refusal would be that of another launch, and there is none
  intro cause hmem
  obtain ⟨j, hj⟩ := List.mem_iff_getElem?.mp hmem
  by_cases hji : j = i
  · rw [hji, hresult] at hj
    cases hj
  · rw [resultsOf, List.getElem?_map] at hj
    obtain ⟨⟨other, w'⟩, hother, hrefused⟩ := Option.map_eq_some_iff.mp hj
    exact hothers j other w' hother hji cause hrefused

/-- A system that starts all programs but one, which it does not start for a given reason. -/
def Kernel.without (name : String) (errno : Errno) : Kernel ProcessId where
  openInput _ next := (.ok 0, next)
  openOutput _ next := (.ok 0, next)
  spawn command next :=
    if command.program = name then (.error (.os errno), next) else (.ok next, next + 1)
  wait _ next := (.ok (.exited 0), next)
  print _ _ next := next

/-- The middle one of three programs may not be executed. -/
theorem contained_iff_middle :
    let k := Kernel.without "b" .EACCES
    let pipeline : Pipeline :=
      ⟨[⟨["a"], none, none⟩, ⟨["b"], none, none⟩, ⟨["c"], none, none⟩], by simp⟩
    let w : World ProcessId := { state := 100 }
    ∃ plan before, (attemptsOf k.platform pipeline w)[1]? = some (plan, before) ∧
      k.SpawnFails plan before (.os .EACCES) ∧ .EACCES ∈ executionErrnos ∧
      (∀ j other w', (attemptsOf k.platform pipeline w)[j]? = some (other, w') → j ≠ 1 →
        ∀ cause, (k.launch other w').1 ≠ .error (.refused cause)) ∧
      (Contained k.platform pipeline w 1 ↔ .EACCES ∉ mistakenErrnos) := by
  intro k pipeline w
  obtain ⟨plan, before, hattempt, hfails⟩ : ∃ plan before,
      (attemptsOf k.platform pipeline w)[1]? = some (plan, before) ∧
        k.SpawnFails plan before (.os .EACCES) :=
    ⟨_, _, rfl, .intro rfl (by decide) (.pipe _) (.pipe _) rfl⟩
  have hothers : ∀ j other w', (attemptsOf k.platform pipeline w)[j]? = some (other, w') → j ≠ 1 →
      ∀ cause, (k.launch other w').1 ≠ .error (.refused cause) := by
    intro j other w' hj hne cause
    rcases j with - | - | - | j
    · cases hj
      exact nofun
    · exact absurd rfl hne
    · cases hj
      exact nofun
    · cases hj
  exact ⟨plan, before, hattempt, hfails, by decide, hothers,
    (contained_iff k pipeline w hattempt hfails (by decide) hothers).1⟩

/-- A program in the middle that lies on a failing device ends the launch, and the last
stage is not launched. -/
theorem not_contained_eio :
    let k := Kernel.without "b" .EIO
    let pipeline : Pipeline :=
      ⟨[⟨["a"], none, none⟩, ⟨["b"], none, none⟩, ⟨["c"], none, none⟩], by simp⟩
    let w : World ProcessId := { state := 100 }
    (∃ plan before, (attemptsOf k.platform pipeline w)[1]? = some (plan, before) ∧
      k.SpawnFails plan before (.os .EIO)) ∧ .EIO ∈ executionErrnos ∧
      (∀ j other w', (attemptsOf k.platform pipeline w)[j]? = some (other, w') → j ≠ 1 →
        ∀ cause, (k.launch other w').1 ≠ .error (.refused cause)) ∧
      (launchedBy k.platform pipeline w).length = 2 ∧ ¬ Contained k.platform pipeline w 1 := by
  intro k pipeline w
  have hlength : (launchedBy k.platform pipeline w).length = 2 := rfl
  refine ⟨⟨_, _, rfl, .intro rfl (by decide) (.pipe _) (.pipe _) rfl⟩, by decide, ?_, hlength, ?_⟩
  · intro j other w' hj hne cause
    rcases j with - | - | j
    · cases hj
      exact nofun
    · exact absurd rfl hne
    · cases hj
  · intro h
    rw [h.launched] at hlength
    exact absurd hlength (by decide)

end LineShell
