import LineShell.Proofs.PipeCreation
import LineShell.Proofs.Reaping

/-!
# Who holds the pipe ends

A reader sees the end of its input only when no write end of its pipe is open any
more, so one end that is kept by mistake makes a pipeline hang.  The shell has the
ends of all pipes when the launch begins.  Each launch takes away those of one plan,
and a refusal takes away those of the plans that are left, so that none is left when
the shell begins to wait; then an end is open in the one child that was started with
it, or nowhere.

## Main definitions

* `Holder`, `Holdings.Holds` — who has a pipe end open.
* `World.Ready` — no redirection file is open, and the pipes to come are new.
* `EndsTaken` — what the shell has parted with right after a launch.
* `EndsAtWait` — who has which end when the shell begins to wait.
* `StartedWith` — who was started with an end.
* `EndsOwned` — who has which end while a pipeline is launched.

## Main results

* `Launches.ends`, `Launches.children` — what the launch loop leaves to whom.
* `Launches.endsTaken` — what the shell holds right after a launch.
* `execute_pipe_ends` — the pipe ends during and after an execution.
-/

namespace LineShell

variable {σ : Type}

/-! ### Holders -/

/-- Someone who can have a pipe end open. -/
inductive Holder where
  /-- The shell. -/
  | shell
  /-- A child that was not waited for. -/
  | child (process : ProcessId)
deriving DecidableEq, Repr

/-- Whether a holder has a pipe end open. -/
def Holdings.Holds (h : Holdings) : Holder → PipeEnd → Prop
  | .shell, tip => tip ∈ h.ends
  | .child process, tip => ∃ ends, (process, ends) ∈ h.children ∧ tip ∈ ends

/-- Before an execution that creates a number of pipes: no redirection file is open,
and nobody has an end of one of these pipes. -/
structure World.Ready (w : World σ) (count : Nat) : Prop where
  /-- The shell holds no redirection file. -/
  files : w.holdings.files = []
  /-- The pipes to come are new. -/
  new : ∀ holder tip, w.holdings.Holds holder tip → count ≤ tip.pipe

/-- Nothing is open and no child is left: so a shell is when it starts, and so it is
between two executions. -/
structure World.Idle (w : World σ) : Prop where
  /-- The shell has no pipe end. -/
  ends : w.holdings.ends = []
  /-- The shell holds no redirection file. -/
  files : w.holdings.files = []
  /-- Every child was waited for. -/
  children : w.holdings.children = []

theorem World.Idle.ready {w : World σ} (h : w.Idle) (count : Nat) : w.Ready count := by
  refine ⟨h.files, ?_⟩
  intro holder tip hholds
  cases holder with
  | shell => simp [Holdings.Holds, h.ends] at hholds
  | child process => simp [Holdings.Holds, h.children] at hholds

/-! ### What the launch loop leaves -/

/-- Right after each launch that some moments show, the shell has parted with the ends
of the plans up to this one, and with no others. -/
def EndsTaken (plans : List Plan) (before : Holdings) (moments : List Moment) : Prop :=
  ∀ m ∈ moments, ∀ plan result, m.launched? = some (plan, result) →
    ∃ earlier later, plans = earlier ++ plan :: later ∧
      m.holdings.ends = before.ends.filter (· ∉ (earlier ++ [plan]).flatMap Plan.ends)

/-- The moments of one launch stand before those of the launches after it. -/
theorem EndsTaken.cons {plan : Plan} {plans : List Plan} {before after : Holdings}
    {own rest : List Moment} (result : LaunchResult) (further : List Moment)
    (hwork : descriptorWork own)
    (hends : after.ends = before.ends.filter (· ∉ plan.ends))
    (hfurther : further.filterMap Moment.launched? = []) (hrest : EndsTaken plans after rest) :
    EndsTaken (plan :: plans) before
      (own ++ ⟨.launched plan result, after⟩ :: (further ++ rest)) := by
  intro m hm plan' result' hlaunched
  rcases List.mem_append.mp hm with hown | hm
  · rw [m.launched?_of_work (hwork m hown)] at hlaunched
    cases hlaunched
  rcases List.mem_cons.mp hm with rfl | hm
  · cases hlaunched
    exact ⟨[], plans, rfl, by simp [hends]⟩
  rcases List.mem_append.mp hm with hfurther' | hm
  · rw [List.filterMap_eq_nil_iff.mp hfurther m hfurther'] at hlaunched
    cases hlaunched
  · obtain ⟨earlier, later, hplans, hleft⟩ := hrest m hm plan' result' hlaunched
    refine ⟨plan :: earlier, later, by rw [hplans, List.cons_append], ?_⟩
    rw [hleft, hends, filter_notMem_filter]
    rfl

namespace Launches

variable {p : Platform σ} {plans : List Plan} {w w' : World σ} {results : List LaunchResult}
  (hp : p.HonoursContract) (h : Launches p plans w results w')

include hp h

/-- Whatever the results, the shell has none of the plans' ends left. -/
theorem ends : w'.holdings.ends = w.holdings.ends.filter (· ∉ plans.flatMap Plan.ends) := by
  induction h with
  | done w => exact (List.filter_eq_self.mpr (by simp)).symm
  | started launch rest ih =>
    rw [ih, World.holdings_note, (hp.of_launch launch).ends, filter_notMem_filter,
      List.flatMap_cons]
  | failed launch rest ih =>
    rw [ih, World.holdings_warn, World.holdings_note, (hp.of_launch launch).ends,
      filter_notMem_filter, List.flatMap_cons]
  | refused launch =>
    rw [World.ends_close, World.holdings_note, (hp.of_launch launch).ends, filter_notMem_filter,
      List.flatMap_cons]

theorem files (hfiles : w.holdings.files = []) : w'.holdings.files = [] := by
  induction h with
  | done w => exact hfiles
  | started launch rest ih => exact ih ((hp.of_launch launch).files hfiles)
  | failed launch rest ih => exact ih ((hp.of_launch launch).files hfiles)
  | refused launch => exact (hp.of_launch launch).files hfiles

/-- The children that were started stand before the old ones, the latest first. -/
theorem children :
    w'.holdings.children = (startedOf plans results).reverse ++ w.holdings.children := by
  induction h with
  | done w => rfl
  | started launch rest ih =>
    rw [ih, World.holdings_note, (hp.of_launch launch).started _ rfl]
    simp
  | failed launch rest ih =>
    rw [ih, World.holdings_warn, World.holdings_note, (hp.of_launch launch).failed _ rfl,
      startedOf_error]
  | refused launch =>
    rw [World.children_close, World.holdings_note, (hp.of_launch launch).failed _ rfl]
    simp

/-- Each launch of the loop takes the ends of its plan from the shell when it returns. -/
theorem endsTaken : EndsTaken plans w.holdings (w.since w') := by
  induction h with
  | done w => simp [World.since, EndsTaken]
  | @started plan plans w w₁ w₂ child results launch rest ih =>
    have hhonours := hp.of_launch launch
    obtain ⟨own, hown, hwork⟩ := hhonours.work
    obtain ⟨moments, hnotes, -⟩ := rest.exists_notes hp.keepsJournal
    rw [World.since_eq hnotes] at ih
    rw [World.since_eq (hown.trans ((w₁.notes_note _).trans hnotes))]
    exact .cons _ [] hwork hhonours.ends rfl ih
  | @failed plan plans w w₁ w₂ fault results launch rest ih =>
    have hhonours := hp.of_launch launch
    obtain ⟨own, hown, hwork⟩ := hhonours.work
    obtain ⟨moments, hnotes, -⟩ := rest.exists_notes hp.keepsJournal
    rw [World.since_eq hnotes] at ih
    rw [World.since_eq (hown.trans ((w₁.notes_note _).trans
      ((World.notes_warn _ p _).trans hnotes)))]
    exact .cons _ [_] hwork hhonours.ends rfl ih
  | @refused plan plans w w₁ cause launch =>
    have hhonours := hp.of_launch launch
    obtain ⟨own, hown, hwork⟩ := hhonours.work
    rw [World.since_eq (hown.trans ((w₁.notes_note _).trans (World.notes_close _ _)))]
    have hnone : EndsTaken plans w₁.holdings [] := by simp [EndsTaken]
    exact .cons _ [_] hwork hhonours.ends rfl hnone

end Launches

/-! ### From the plans to the pipe ends -/

/-- The children that were started, by the positions of their stages. -/
theorem mem_startedOf {plans : List Plan} {results : List LaunchResult} {child : ProcessId}
    {ends : List PipeEnd} : (child, ends) ∈ startedOf plans results ↔
      ∃ (i : Nat) (plan : Plan), plans[i]? = some plan ∧ results[i]? = some (.ok child) ∧
        ends = plan.ends := by
  rw [startedOf, List.mem_filterMap]
  simp only [List.mem_iff_getElem?, List.getElem?_zip_eq_some]
  constructor
  · rintro ⟨⟨plan, result⟩, ⟨i, hplan, hresult⟩, hstarted⟩
    rcases result with failure | process
    · simp [Plan.started?] at hstarted
    · simp only [Plan.started?, Option.some.injEq, Prod.mk.injEq] at hstarted
      obtain ⟨rfl, rfl⟩ := hstarted
      exact ⟨i, plan, hplan, hresult, rfl⟩
  · rintro ⟨i, plan, hplan, hresult, rfl⟩
    exact ⟨(plan, .ok child), ⟨i, hplan, hresult⟩, rfl⟩

namespace Pipeline

variable {p : Pipeline} {earlier later : List Plan} {plan : Plan}

/-- The plans after a plan are those of the positions after its own. -/
theorem mem_later_iff (hsplit : p.plans = earlier ++ plan :: later) {other : Plan} :
    other ∈ later ↔ other ∈ p.plans ∧ plan.index < other.index := by
  have hplan : plan.index = earlier.length := by
    refine index_of_getElem? (p := p) ?_
    rw [hsplit]
    simp
  constructor
  · intro hmem
    obtain ⟨i, hi⟩ := List.mem_iff_getElem?.mp hmem
    have hother : p.plans[earlier.length + 1 + i]? = some other := by
      rw [hsplit, List.getElem?_append_right (by omega)]
      simpa [Nat.add_assoc, Nat.add_comm 1 i] using hi
    refine ⟨List.mem_of_getElem? hother, ?_⟩
    have := index_of_getElem? hother
    omega
  · rintro ⟨hmem, hlt⟩
    obtain ⟨i, hi⟩ := List.mem_iff_getElem?.mp hmem
    have hindex := index_of_getElem? hi
    rw [hsplit, List.getElem?_append_right (by omega)] at hi
    obtain ⟨j, hj⟩ : ∃ j, i - earlier.length = j + 1 := ⟨i - earlier.length - 1, by omega⟩
    rw [hj, List.getElem?_cons_succ] at hi
    exact List.mem_of_getElem? hi

/-- The ends of all pipes come before or after those of the plans up to one. -/
theorem ends_split (hsplit : p.plans = earlier ++ plan :: later) :
    p.wiring.displaced ++ p.plans.flatMap Plan.ends =
      (p.wiring.displaced ++ (earlier ++ [plan]).flatMap Plan.ends) ++
        later.flatMap Plan.ends := by
  rw [hsplit]
  simp

/-- Of the ends of all pipes, those are left after the plans up to one that belong to
the plans after it. -/
theorem mem_left_iff (hsplit : p.plans = earlier ++ plan :: later) {tip : PipeEnd} :
    tip.pipe < p.pipeCount ∧
        tip ∉ p.wiring.displaced ++ (earlier ++ [plan]).flatMap Plan.ends ↔
      ∃ other ∈ p.plans, plan.index < other.index ∧ tip ∈ other.ends := by
  have hnodup := p.nodup_ends
  have hmem : tip ∈ p.wiring.displaced ++ p.plans.flatMap Plan.ends ↔ tip.pipe < p.pipeCount :=
    p.mem_ends_iff
  rw [ends_split hsplit] at hnodup hmem
  have hlater : tip ∈ later.flatMap Plan.ends ↔
      ∃ other ∈ p.plans, plan.index < other.index ∧ tip ∈ other.ends := by
    simp only [List.mem_flatMap, mem_later_iff hsplit, and_assoc]
  rw [← hlater, ← hmem]
  constructor
  · rintro ⟨hall, hgone⟩
    exact (List.mem_append.mp hall).resolve_left hgone
  · intro htip
    -- no end is in two plans, so those of later plans are not gone yet
    refine ⟨List.mem_append_right _ htip, fun hgone => ?_⟩
    exact (List.nodup_append.mp hnodup).2.2 tip hgone tip htip rfl

end Pipeline

/-! ### Who has which end -/

/-- Who has which end of the pipes of a pipeline when the shell begins to wait. -/
structure EndsAtWait (pipeline : Pipeline) (w : World σ) (results : List LaunchResult)
    (h : Holdings) : Prop where
  /-- The shell has the ends that it had before the pipeline and no other. -/
  shell : h.ends = w.holdings.ends
  /-- The write end of a pipe is open in the child of the stage before it, unless that
  stage has no child or writes to a file; it is open nowhere else. -/
  write : ∀ k < pipeline.pipeCount, ∀ holder, h.Holds holder ⟨k, .write⟩ ↔
    ∃ child stage, holder = .child child ∧ results[k]? = some (.ok child) ∧
      pipeline.stages[k]? = some stage ∧ stage.outputFile = none
  /-- The read end of a pipe is open in the child of the stage after it, unless that
  stage has no child or reads from a file; it is open nowhere else. -/
  read : ∀ k < pipeline.pipeCount, ∀ holder, h.Holds holder ⟨k, .read⟩ ↔
    ∃ child stage, holder = .child child ∧ results[k + 1]? = some (.ok child) ∧
      pipeline.stages[k + 1]? = some stage ∧ stage.inputFile = none

/-- The holder is a child that was started for a plan with this end. -/
def StartedWith (plans : List Plan) (results : List LaunchResult) (tip : PipeEnd)
    (holder : Holder) : Prop :=
  ∃ (child : ProcessId) (i : Nat) (plan : Plan), holder = .child child ∧
    plans[i]? = some plan ∧ results[i]? = some (.ok child) ∧ tip ∈ plan.ends

section EndsAtWait

variable {pipeline : Pipeline} {w : World σ} {results : List LaunchResult} {h : Holdings}

/-- Once every plan is launched or given up, an end of a pipe is open in the children of the
plans that it belongs to, and nowhere else. -/
theorem holds_iff_of_launched (hw : w.Ready pipeline.pipeCount) (hends : h.ends = w.holdings.ends)
    (hchildren : h.children = (startedOf pipeline.plans results).reverse ++ w.holdings.children)
    {tip : PipeEnd} (htip : tip.pipe < pipeline.pipeCount) {holder : Holder} :
    h.Holds holder tip ↔ StartedWith pipeline.plans results tip holder := by
  -- an end that was open before belongs to no pipe of this pipeline
  have hold : ∀ other, ¬ w.holdings.Holds other tip := by
    intro other hother
    have := hw.new other tip hother
    omega
  cases holder with
  | shell =>
    have := hold .shell
    simp only [Holdings.Holds] at this
    simp [StartedWith, Holdings.Holds, hends, this]
  | child process =>
    simp only [StartedWith, Holdings.Holds, hchildren, List.mem_append, List.mem_reverse,
      mem_startedOf]
    constructor
    · rintro ⟨ends, ⟨i, plan, hplan, hresult, rfl⟩ | hbefore, htip⟩
      · exact ⟨process, i, plan, rfl, hplan, hresult, htip⟩
      · exact absurd ⟨ends, hbefore, htip⟩ (hold (.child process))
    · rintro ⟨child, i, plan, hchild, hplan, hresult, htip⟩
      cases hchild
      exact ⟨plan.ends, Or.inl ⟨i, plan, hplan, hresult, rfl⟩, htip⟩

/-- The only plan that an end may belong to is known by its position. -/
theorem startedWith_iff {tip : PipeEnd} {k : Nat} {takes : Stage → Prop} {holder : Holder}
    (htip : ∀ {i plan stage}, pipeline.plans[i]? = some plan → pipeline.stages[i]? = some stage →
      (tip ∈ plan.ends ↔ i = k ∧ takes stage)) :
    StartedWith pipeline.plans results tip holder ↔
      ∃ child stage, holder = .child child ∧ results[k]? = some (.ok child) ∧
        pipeline.stages[k]? = some stage ∧ takes stage := by
  constructor
  · rintro ⟨child, i, plan, hholder, hplan, hresult, hmem⟩
    obtain ⟨stage, hstage⟩ := Pipeline.exists_stage hplan
    obtain ⟨rfl, htakes⟩ := (htip hplan hstage).mp hmem
    exact ⟨child, stage, hholder, hresult, hstage, htakes⟩
  · rintro ⟨child, stage, hholder, hresult, hstage, htakes⟩
    obtain ⟨plan, hplan⟩ := Pipeline.exists_plan hstage
    exact ⟨child, k, plan, hholder, hplan, hresult, (htip hplan hstage).mpr ⟨rfl, htakes⟩⟩

/-- What the shell and its children have once every plan is launched or given up. -/
theorem endsAtWait (hw : w.Ready pipeline.pipeCount) (hends : h.ends = w.holdings.ends)
    (hchildren : h.children = (startedOf pipeline.plans results).reverse ++ w.holdings.children) :
    EndsAtWait pipeline w results h where
  shell := hends
  write k hk holder := by
    rw [holds_iff_of_launched hw hends hchildren hk]
    refine startedWith_iff fun hplan hstage => ?_
    simp [Pipeline.write_mem_ends_iff hplan hstage k, hk]
  read k hk holder := by
    rw [holds_iff_of_launched hw hends hchildren hk]
    refine startedWith_iff fun hplan hstage => ?_
    simp [Pipeline.read_mem_ends_iff hplan hstage k, hk]

end EndsAtWait

/-- Who has which end while a pipeline is launched and until the shell waits. -/
structure EndsOwned (pipeline : Pipeline) (w after : World σ) (results : List LaunchResult) :
    Prop where
  /-- The stages are launched in order, up to the first refusal. -/
  course : IsCourse pipeline.length results
  /-- The journal shows these launches. -/
  launches : (w.since after).filterMap Moment.launched? = pipeline.plans.zip results
  /-- Right after a launch, the shell has the ends in the plans of the later stages,
  beside what it had before. -/
  after_launch : ∀ m ∈ w.since after, ∀ plan result, m.launched? = some (plan, result) →
    ∀ tip, tip ∈ m.holdings.ends ↔ tip ∈ w.holdings.ends ∨
      ∃ later ∈ pipeline.plans, plan.index < later.index ∧ tip ∈ later.ends
  /-- When the shell goes over to reaping, every end is where it belongs. -/
  reaping : ∀ m ∈ w.since after, ∀ source, m.advance? = some (source, .reaping) →
    EndsAtWait pipeline w results m.holdings
  /-- So it is when the first wait begins. -/
  first_wait : ∀ m, (w.since after).find? Moment.isWait = some m →
    EndsAtWait pipeline w results m.holdings

/-! ### An execution -/

/-- Every child that was started has an entry. -/
theorem exists_entry_of_mem_startedOf {plans : List Plan} {results : List LaunchResult}
    {child : ProcessId} {ends : List PipeEnd} (h : (child, ends) ∈ startedOf plans results) :
    ∃ e ∈ entriesOf plans results, e.child = .ok child := by
  rw [startedOf, List.mem_filterMap] at h
  obtain ⟨⟨plan, result⟩, hmem, hstarted⟩ := h
  rcases result with failure | process
  · simp [Plan.started?] at hstarted
  · simp only [Plan.started?, Option.some.injEq, Prod.mk.injEq] at hstarted
    obtain ⟨rfl, -⟩ := hstarted
    exact ⟨⟨plan.index, plan.program, .ok process⟩,
      List.mem_filterMap.mpr ⟨(plan, .ok process), hmem, rfl⟩, rfl⟩

/-- Without its pipes an execution launches nothing and leaves all as it was. -/
theorem execute_of_openPipes_error {p : Platform σ} {pipeline : Pipeline} {w w₀ : World σ}
    {abort : Abort} (hw : w.Ready pipeline.pipeCount)
    (h : w.openPipes pipeline.pipeCount = (.error abort, w₀)) :
    execute p pipeline w = (.error abort, w₀) ∧ w₀.holdings = w.holdings ∧
      descriptorWork (w.since w₀) := by
  have hnew : ∀ tip ∈ w.holdings.ends, tip.pipe < 0 ∨ 0 + pipeline.pipeCount ≤ tip.pipe := by
    intro tip htip
    have := hw.new .shell tip htip
    omega
  obtain ⟨⟨moments, hnotes, hwork⟩, hholdings⟩ := openPipesFrom_error hnew h
  refine ⟨execute_eq_of_openPipes_error h, hholdings, ?_⟩
  rw [World.since_eq hnotes]
  exact hwork

namespace Launches

variable {p : Platform σ} {pipeline : Pipeline} {w w₀ w₁ : World σ}
  {results : List LaunchResult} {new : List PipeEnd}
  (hp : p.HonoursContract) (hw : w.Ready pipeline.pipeCount)
  (hnew : ∀ tip : PipeEnd, tip ∈ new ↔ tip.pipe < pipeline.pipeCount)
  (hopened : w₀.holdings = { w.holdings with ends := new ++ w.holdings.ends })
  (h : Launches p pipeline.plans (w₀.readyToLaunch pipeline) results w₁)

include hp hw hnew hopened h

/-- After the launch loop the shell is left with what it had before the pipes. -/
theorem ends_of_opened : w₁.holdings.ends = w.holdings.ends := by
  rw [h.ends hp]
  simp only [World.readyToLaunch, World.holdings_advance, World.ends_close, hopened]
  rw [filter_notMem_filter]
  refine filter_notMem_append (fun tip htip => ?_) (fun tip htip hgone => ?_)
  · exact pipeline.mem_ends_iff.mpr ((hnew tip).mp htip)
  · have := hw.new .shell tip htip
    have := pipeline.mem_ends_iff.mp hgone
    omega

/-- When the launch of a stage returns, the shell has the ends of the later stages. -/
theorem ends_after_launch {m : Moment} {plan : Plan} {result : LaunchResult}
    (hm : m ∈ (w₀.readyToLaunch pipeline).since w₁) (hlaunched : m.launched? = some (plan, result))
    (tip : PipeEnd) : tip ∈ m.holdings.ends ↔ tip ∈ w.holdings.ends ∨
      ∃ later ∈ pipeline.plans, plan.index < later.index ∧ tip ∈ later.ends := by
  obtain ⟨earlier, later, hsplit, hends⟩ := h.endsTaken hp m hm plan result hlaunched
  rw [hends, ← pipeline.mem_left_iff hsplit]
  simp only [World.readyToLaunch, World.holdings_advance, World.ends_close, hopened]
  rw [filter_notMem_filter, List.mem_filter, List.mem_append, hnew, decide_eq_true_iff]
  -- an end that was open before is none of those that are given away
  have hold : tip ∈ w.holdings.ends →
      tip ∉ pipeline.wiring.displaced ++ (earlier ++ [plan]).flatMap Plan.ends := by
    intro htip hgone
    have hall : tip ∈ pipeline.wiring.displaced ++ pipeline.plans.flatMap Plan.ends := by
      rw [Pipeline.ends_split hsplit]
      exact List.mem_append_left _ hgone
    have := hw.new .shell tip htip
    have := pipeline.mem_ends_iff.mp hall
    omega
  constructor
  · rintro ⟨hlt | htip, hleft⟩
    · exact Or.inr ⟨hlt, hleft⟩
    · exact Or.inl htip
  · rintro (htip | ⟨hlt, hleft⟩)
    · exact ⟨Or.inr htip, hold htip⟩
    · exact ⟨Or.inl hlt, hleft⟩

end Launches

/-- Once its pipes are created, an execution hands all ends over or closes them. -/
theorem endsOwned_of_openPipes_ok {p : Platform σ} (hp : p.HonoursContract)
    {pipeline : Pipeline} {w w₀ : World σ} {pipes : List Pipe} (hw : w.Ready pipeline.pipeCount)
    (hopen : w.openPipes pipeline.pipeCount = (.ok pipes, w₀)) :
    let after := (execute p pipeline w).2
    after.holdings.ends = w.holdings.ends ∧ after.holdings.files = w.holdings.files ∧
      after.holdings.children ⊆ w.holdings.children ∧
      ∃ results, EndsOwned pipeline w after results := by
  obtain ⟨rfl, hopening, new, hnew, hopened⟩ := openPipes_ok hopen
  obtain ⟨results, w₁, hlaunches, hexecute⟩ := execute_of_openPipes_ok (p := p) hopen
  simp only [hexecute]
  have hends := hlaunches.ends_of_opened hp hw hnew hopened
  have hchildren : w₁.holdings.children =
      (startedOf pipeline.plans results).reverse ++ w.holdings.children := by
    rw [hlaunches.children hp]
    simp [World.readyToLaunch, hopened]
  have hfiles : w₁.holdings.files = [] := by
    refine hlaunches.files hp ?_
    simp [World.readyToLaunch, hopened, hw.files]
  have hshows := showsExecution hp.keepsJournal hopening hlaunches
    (entriesOf pipeline.plans results) (refusalOf pipeline.plans results)
  have hatWait : ∀ m : Moment, m.holdings = w₁.holdings →
      EndsAtWait pipeline w results m.holdings := fun m hm =>
    endsAtWait hw (by rw [hm, hends]) (by rw [hm, hchildren])
  refine ⟨?_, ?_, ?_, results, ?_, hshows.launches, ?_, ?_, ?_⟩
  · rw [World.holdings_advance, ends_reap, World.readyToReap, World.holdings_advance,
      World.holdings_advance, hends]
  · rw [World.holdings_advance, files_reap, World.readyToReap, World.holdings_advance,
      World.holdings_advance, hfiles, hw.files]
  · intro child hchild
    rw [World.holdings_advance, mem_children_reap, World.readyToReap, World.holdings_advance,
      World.holdings_advance, hchildren, List.mem_append, List.mem_reverse] at hchild
    -- a child that this execution started has been waited for
    obtain ⟨hstarted | hold, hkept⟩ := hchild
    · obtain ⟨e, he, hchild⟩ := exists_entry_of_mem_startedOf hstarted
      exact absurd hchild (hkept e he)
    · exact hold
  · exact hlaunches.isCourse_plans
  · intro m hm plan result hmoment
    exact hlaunches.ends_after_launch hp hw hnew hopened (hshows.within m hm _ hmoment) hmoment
  · intro m hm source hmoment
    exact hatWait m (hshows.reaping m hm source hmoment)
  · intro m hm
    exact hatWait m (hshows.first_wait m hm)

/-- Who has which pipe end during an execution and after it, on all three ways out:
the pipes are not created, a process is refused, or all launches go through. -/
theorem execute_pipe_ends {p : Platform σ} (hp : p.HonoursContract) (pipeline : Pipeline)
    {w : World σ} (hw : w.Ready pipeline.pipeCount) :
    let after := (execute p pipeline w).2
    after.holdings.ends = w.holdings.ends ∧ after.holdings.files = w.holdings.files ∧
      after.holdings.children ⊆ w.holdings.children ∧
      ((∃ abort, (w.openPipes pipeline.pipeCount).1 = .error abort) ∧
          descriptorWork (w.since after) ∨
        (∃ pipes, (w.openPipes pipeline.pipeCount).1 = .ok pipes) ∧
          ∃ results, EndsOwned pipeline w after results) := by
  rcases hopen : w.openPipes pipeline.pipeCount with ⟨abort | pipes, w₀⟩
  · obtain ⟨hexecute, hholdings, hwork⟩ := execute_of_openPipes_error (p := p) hw hopen
    rw [hexecute]
    exact ⟨by rw [hholdings], by rw [hholdings], by rw [hholdings]; exact List.Subset.refl _,
      Or.inl ⟨⟨abort, rfl⟩, hwork⟩⟩
  · obtain ⟨hends, hfiles, hchildren, howned⟩ := endsOwned_of_openPipes_ok hp hw hopen
    exact ⟨hends, hfiles, hchildren, Or.inr ⟨⟨pipes, rfl⟩, howned⟩⟩

/-- The first stage runs, the second has no command, the third reads from a file, and
the system refuses a process for the fourth; the fifth is never launched. -/
theorem execute_pipe_ends_mixed :
    let pipeline : Pipeline :=
      ⟨[⟨["a"], none, none⟩, ⟨[], none, none⟩, ⟨["b"], some "f", none⟩, ⟨["c"], none, none⟩,
        ⟨["d"], none, none⟩], by simp⟩
    let w : World Rehearsal := { state := { script := [.child (.known (.exited 0)),
      .fails (.stage .emptyCommand), .child .lost, .fails (.refused (.os ⟨11⟩))] } }
    let after := (execute Rehearsal.platform pipeline w).2
    Rehearsal.platform.HonoursContract ∧ w.Ready pipeline.pipeCount ∧
      after.holdings.ends = [] ∧ ∃ results, EndsOwned pipeline w after results := by
  intro pipeline w after
  have hw : w.Ready pipeline.pipeCount := World.Idle.ready ⟨rfl, rfl, rfl⟩ _
  obtain ⟨hends, -, -, ⟨⟨abort, habort⟩, -⟩ | ⟨-, howned⟩⟩ :=
    execute_pipe_ends Rehearsal.honoursContract pipeline hw
  · cases habort
  · exact ⟨Rehearsal.honoursContract, hw, hends, howned⟩

/-- Between two executions the shell is idle again. -/
theorem World.Idle.execute {p : Platform σ} (hp : p.HonoursContract) (pipeline : Pipeline)
    {w : World σ} (hw : w.Idle) : (LineShell.execute p pipeline w).2.Idle := by
  rcases hopen : w.openPipes pipeline.pipeCount with ⟨abort | pipes, w₀⟩
  · obtain ⟨hexecute, hholdings, -⟩ := execute_of_openPipes_error (p := p) (hw.ready _) hopen
    rw [hexecute]
    exact ⟨by rw [hholdings, hw.ends], by rw [hholdings, hw.files], by rw [hholdings, hw.children]⟩
  · obtain ⟨hends, hfiles, hchildren, -⟩ := endsOwned_of_openPipes_ok hp (hw.ready _) hopen
    refine ⟨hends.trans hw.ends, hfiles.trans hw.files, ?_⟩
    rw [hw.children] at hchildren
    exact List.subset_nil.mp hchildren

end LineShell
