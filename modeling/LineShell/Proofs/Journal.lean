import LineShell.Rehearsal

/-!
# What the journal says

The journal of a world only grows, and each operation adds a few moments to it.
`World.Notes` says which moments were added on the way from one world to another,
earliest first; `World.since` reads them off the two journals.

A platform comes from outside, so what its launches may do is a contract.  They
note only work on descriptors.  When a launch returns, the shell holds none of the
plan's pipe ends and no redirection file, and the ends are left to the new child
and to nobody else.

## Main definitions

* `World.Notes`, `World.since` — the moments between two worlds.
* `Moment.launched?`, `Moment.advance?`, `Moment.isWait` — what a moment is about.
* `Platform.KeepsJournal` — launches note only work on descriptors.
* `Platform.HonoursContract` — launches keep no descriptor of their plan.

## Main results

* `World.since_eq` — the moments between two worlds can be read off.
* `Kernel.honoursContract`, `Rehearsal.honoursContract` — a platform built from
  system calls honours the contract, and so does a rehearsal.
-/

namespace LineShell

variable {σ : Type}

/-! ### Frame lemmas -/

namespace World

variable (w : World σ) (p : Platform σ)

@[simp] theorem holdings_warn (text : String) : (w.warn p text).holdings = w.holdings := rfl

theorem holdings_close (ends : List PipeEnd) : (w.close ends).holdings =
    { w.holdings with ends := w.holdings.ends.filter (· ∉ ends) } := rfl

@[simp] theorem ends_close (ends : List PipeEnd) :
    (w.close ends).holdings.ends = w.holdings.ends.filter (· ∉ ends) := rfl

@[simp] theorem files_close (ends : List PipeEnd) :
    (w.close ends).holdings.files = w.holdings.files := rfl

@[simp] theorem children_close (ends : List PipeEnd) :
    (w.close ends).holdings.children = w.holdings.children := rfl

theorem holdings_closeFiles (files : List FileHandle) : (w.closeFiles files).holdings =
    { w.holdings with files := w.holdings.files.filter (· ∉ files) } := rfl

@[simp] theorem ends_closeFiles (files : List FileHandle) :
    (w.closeFiles files).holdings.ends = w.holdings.ends := rfl

@[simp] theorem files_closeFiles (files : List FileHandle) :
    (w.closeFiles files).holdings.files = w.holdings.files.filter (· ∉ files) := rfl

@[simp] theorem children_closeFiles (files : List FileHandle) :
    (w.closeFiles files).holdings.children = w.holdings.children := rfl

@[simp] theorem ends_handOver (child : ProcessId) (ends : List PipeEnd) :
    (w.handOver child ends).holdings.ends = w.holdings.ends.filter (· ∉ ends) := rfl

@[simp] theorem files_handOver (child : ProcessId) (ends : List PipeEnd) :
    (w.handOver child ends).holdings.files = w.holdings.files := rfl

@[simp] theorem children_handOver (child : ProcessId) (ends : List PipeEnd) :
    (w.handOver child ends).holdings.children = (child, ends) :: w.holdings.children := rfl

@[simp] theorem ends_await (child : ProcessId) :
    (w.await p child).2.holdings.ends = w.holdings.ends := rfl

@[simp] theorem files_await (child : ProcessId) :
    (w.await p child).2.holdings.files = w.holdings.files := rfl

@[simp] theorem children_await (child : ProcessId) :
    (w.await p child).2.holdings.children =
      w.holdings.children.filter (·.1 != child) := rfl

end World

/-! ### The moments between two worlds -/

namespace World

/-- The moments that were noted on the way from one world to another, the earliest
first. -/
def Notes (before : World σ) (moments : List Moment) (after : World σ) : Prop :=
  after.journal = moments.reverse ++ before.journal

/-- The part of the journal that came after another world, the earliest first. -/
def since (before after : World σ) : List Moment :=
  (after.journal.take (after.journal.length - before.journal.length)).reverse

theorem since_eq {before after : World σ} {moments : List Moment}
    (h : before.Notes moments after) : before.since after = moments := by
  -- a journal has its latest moment first, so the new ones stand before the old ones
  simp only [Notes] at h
  simp [since, h]

theorem Notes.trans {before middle after : World σ} {first second : List Moment}
    (h₁ : before.Notes first middle) (h₂ : middle.Notes second after) :
    before.Notes (first ++ second) after := by
  simp only [Notes] at h₁ h₂ ⊢
  rw [h₂, h₁]
  simp

variable (w : World σ)

theorem notes_self : w.Notes [] w := rfl

theorem notes_note (action : Action) : w.Notes [⟨action, w.holdings⟩] (w.note action) := rfl

theorem notes_advance (source target : Phase) :
    w.Notes [⟨.advanced source target, w.holdings⟩] (w.advance source target) := rfl

theorem notes_close (ends : List PipeEnd) :
    w.Notes [⟨.closed ends, (w.close ends).holdings⟩] (w.close ends) := rfl

theorem notes_closeFiles (files : List FileHandle) :
    w.Notes [⟨.closedFiles files, (w.closeFiles files).holdings⟩] (w.closeFiles files) := rfl

theorem notes_handOver (child : ProcessId) (ends : List PipeEnd) :
    w.Notes [⟨.handedOver child ends, (w.handOver child ends).holdings⟩]
      (w.handOver child ends) := rfl

theorem notes_warn (p : Platform σ) (text : String) :
    w.Notes [⟨.warned ("pipesh: " ++ text ++ "\n"), w.holdings⟩] (w.warn p text) := rfl

theorem notes_await (p : Platform σ) (child : ProcessId) :
    w.Notes [⟨.awaited child, w.holdings⟩] (w.await p child).2 := rfl

end World

/-! ### What a moment is about -/

/-- The launch that returned in a moment. -/
def Moment.launched? (m : Moment) : Option (Plan × LaunchResult) :=
  match m.action with
  | .launched plan result => some (plan, result)
  | _ => none

/-- The two phases of a step from one phase to the next. -/
def Moment.advance? (m : Moment) : Option (Phase × Phase) :=
  match m.action with
  | .advanced source target => some (source, target)
  | _ => none

/-- Whether a wait for a child begins in a moment. -/
def Moment.isWait (m : Moment) : Bool :=
  match m.action with
  | .awaited _ => true
  | _ => false

/-- Whether an action is work on descriptors. -/
def Action.isDescriptorWork : Action → Bool
  | .openedPipe _ | .closed _ | .openedFile _ | .closedFiles _ | .handedOver _ _ => true
  | .advanced _ _ | .launched _ _ | .warned _ | .awaited _ => false

section OneMoment

variable {m : Moment}

theorem Moment.launched?_of_work (h : m.action.isDescriptorWork = true) : m.launched? = none := by
  cases haction : m.action <;> simp_all [launched?, Action.isDescriptorWork]

theorem Moment.advance?_of_work (h : m.action.isDescriptorWork = true) : m.advance? = none := by
  cases haction : m.action <;> simp_all [advance?, Action.isDescriptorWork]

theorem Moment.isWait_of_work (h : m.action.isDescriptorWork = true) : m.isWait = false := by
  cases haction : m.action <;> simp_all [isWait, Action.isDescriptorWork]

theorem Moment.launched?_of_isWait (h : m.isWait = true) : m.launched? = none := by
  cases haction : m.action <;> simp_all [launched?, isWait]

theorem Moment.advance?_of_isWait (h : m.isWait = true) : m.advance? = none := by
  cases haction : m.action <;> simp_all [advance?, isWait]

end OneMoment

/-- Whether each of a list of moments is work on descriptors. -/
def descriptorWork (moments : List Moment) : Prop :=
  ∀ m ∈ moments, m.action.isDescriptorWork = true

theorem descriptorWork_append {first second : List Moment}
    (h₁ : descriptorWork first) (h₂ : descriptorWork second) :
    descriptorWork (first ++ second) := by
  intro m hm
  rcases List.mem_append.mp hm with h | h
  · exact h₁ m h
  · exact h₂ m h

section DescriptorWork

variable {moments : List Moment} (h : descriptorWork moments)

include h

theorem filterMap_launched?_of_descriptorWork : moments.filterMap Moment.launched? = [] :=
  List.filterMap_eq_nil_iff.mpr fun m hm => m.launched?_of_work (h m hm)

theorem filterMap_advance?_of_descriptorWork : moments.filterMap Moment.advance? = [] :=
  List.filterMap_eq_nil_iff.mpr fun m hm => m.advance?_of_work (h m hm)

theorem filter_isWait_of_descriptorWork : moments.filter Moment.isWait = [] := by
  rw [List.filter_eq_nil_iff]
  intro m hm
  simp [m.isWait_of_work (h m hm)]

end DescriptorWork

section Waits

variable {moments : List Moment} (h : ∀ m ∈ moments, m.isWait = true)

include h

theorem filterMap_launched?_of_waits : moments.filterMap Moment.launched? = [] :=
  List.filterMap_eq_nil_iff.mpr fun m hm => m.launched?_of_isWait (h m hm)

theorem filterMap_advance?_of_waits : moments.filterMap Moment.advance? = [] :=
  List.filterMap_eq_nil_iff.mpr fun m hm => m.advance?_of_isWait (h m hm)

end Waits

/-! ### The contract of a launch -/

/-- On the way from one world to another, the journal shows only work on
descriptors. -/
def World.DescriptorWork (before after : World σ) : Prop :=
  ∃ moments, before.Notes moments after ∧ descriptorWork moments

namespace World

theorem descriptorWork_self (w : World σ) : w.DescriptorWork w :=
  ⟨[], w.notes_self, by simp [LineShell.descriptorWork]⟩

theorem descriptorWork_of_note {before after : World σ} {m : Moment}
    (h : before.Notes [m] after) (hm : m.action.isDescriptorWork = true) :
    before.DescriptorWork after :=
  ⟨[m], h, by simpa [LineShell.descriptorWork] using hm⟩

theorem DescriptorWork.trans {before middle after : World σ}
    (h₁ : before.DescriptorWork middle) (h₂ : middle.DescriptorWork after) :
    before.DescriptorWork after := by
  obtain ⟨first, hnotes₁, hwork₁⟩ := h₁
  obtain ⟨second, hnotes₂, hwork₂⟩ := h₂
  exact ⟨first ++ second, hnotes₁.trans hnotes₂, descriptorWork_append hwork₁ hwork₂⟩

end World

/-- A platform whose launches write nothing but work on descriptors into the
journal. -/
def Platform.KeepsJournal (p : Platform σ) : Prop :=
  ∀ (plan : Plan) (w : World σ), w.DescriptorWork (p.launch plan w).2

/-- The contract of one launch: when it returns, the shell holds none of the plan's
descriptors, and a child that was started is the only one to have them. -/
structure World.Honours (before : World σ) (plan : Plan) (result : LaunchResult)
    (after : World σ) : Prop where
  /-- The journal shows only work on descriptors. -/
  work : before.DescriptorWork after
  /-- The shell has parted with the plan's pipe ends and with no others. -/
  ends : after.holdings.ends = before.holdings.ends.filter (· ∉ plan.ends)
  /-- The redirection files of the plan are closed again. -/
  files : before.holdings.files = [] → after.holdings.files = []
  /-- A child that was started has the plan's ends, and no other child has. -/
  started : ∀ child, result = .ok child →
    after.holdings.children = (child, plan.ends) :: before.holdings.children
  /-- A launch that failed leaves no child behind. -/
  failed : ∀ failure, result = .error failure →
    after.holdings.children = before.holdings.children

/-- A platform all of whose launches honour their contract. -/
def Platform.HonoursContract (p : Platform σ) : Prop :=
  ∀ (plan : Plan) (w : World σ), w.Honours plan (p.launch plan w).1 (p.launch plan w).2

theorem Platform.HonoursContract.of_launch {p : Platform σ} (hp : p.HonoursContract)
    {plan : Plan} {w w' : World σ} {result : LaunchResult}
    (h : p.launch plan w = (result, w')) : w.Honours plan result w' := by
  have := hp plan w
  rwa [h] at this

theorem Platform.HonoursContract.keepsJournal {p : Platform σ} (hp : p.HonoursContract) :
    p.KeepsJournal :=
  fun plan w => (hp plan w).work

/-! ### Platforms of system calls -/

/-- On the way from one world to another, redirection files were opened and nothing
else changed hands. -/
structure World.Opens (before : World σ) (files : List FileHandle) (after : World σ) :
    Prop where
  /-- The shell holds the same pipe ends. -/
  ends : after.holdings.ends = before.holdings.ends
  /-- The children hold the same pipe ends. -/
  children : after.holdings.children = before.holdings.children
  /-- The new files stand before the old ones. -/
  files : after.holdings.files = files ++ before.holdings.files
  /-- The journal shows only work on descriptors. -/
  work : before.DescriptorWork after

theorem World.opens_self (w : World σ) : w.Opens [] w :=
  ⟨rfl, rfl, rfl, w.descriptorWork_self⟩

theorem World.opens_openFile {call : σ → Except SystemError FileHandle × σ} {path : String}
    {w w' : World σ} {file : FileHandle} (h : w.openFile call path = (.ok file, w')) :
    w.Opens [file] w' := by
  unfold World.openFile at h
  split at h
  · rcases hcall : call w.state with ⟨e | opened, state⟩
    · simp [hcall] at h
    · simp only [hcall, Prod.mk.injEq, Except.ok.injEq] at h
      obtain ⟨rfl, rfl⟩ := h
      exact ⟨rfl, rfl, rfl, World.descriptorWork_of_note (World.notes_note _ _) rfl⟩
  · simp at h

theorem World.opens_of_openFile_error {call : σ → Except SystemError FileHandle × σ}
    {path : String} {w w' : World σ} {e : SystemError}
    (h : w.openFile call path = (.error e, w')) : w.Opens [] w' := by
  unfold World.openFile at h
  split at h
  · rcases hcall : call w.state with ⟨e | opened, state⟩
    · simp only [hcall, Prod.mk.injEq] at h
      obtain ⟨-, rfl⟩ := h
      exact ⟨rfl, rfl, rfl, [], rfl, by simp [LineShell.descriptorWork]⟩
    · simp [hcall] at h
  · simp only [Prod.mk.injEq] at h
    obtain ⟨-, rfl⟩ := h
    exact w.opens_self

namespace Kernel

variable {call : String → σ → Except SystemError FileHandle × σ} {w w' : World σ}

theorem opens_openChannel {channel : Channel String} {opened : Channel FileHandle}
    (h : openChannel call channel w = (.ok opened, w')) :
    w.Opens opened.files w' ∧ opened.ends = channel.ends := by
  cases channel with
  | inherit =>
    obtain ⟨rfl, rfl⟩ : Channel.inherit = opened ∧ w = w' := by simpa [openChannel] using h
    exact ⟨w.opens_self, rfl⟩
  | pipe tip =>
    obtain ⟨rfl, rfl⟩ : Channel.pipe tip = opened ∧ w = w' := by simpa [openChannel] using h
    exact ⟨w.opens_self, rfl⟩
  | file path =>
    simp only [openChannel, openRedirection] at h
    cases hpath : pathError? path with
    | some e => simp [hpath] at h
    | none =>
      rcases hopen : w.openFile (call path) path with ⟨e | file, w₁⟩
      · simp [hpath, hopen] at h
      · simp only [hpath, hopen, Prod.mk.injEq, Except.ok.injEq] at h
        obtain ⟨rfl, rfl⟩ := h
        exact ⟨World.opens_openFile hopen, rfl⟩

/-- The file of a channel is one descriptor more. -/
theorem count_of_openChannel {channel : Channel String} {opened : Channel FileHandle}
    (h : openChannel call channel w = (.ok opened, w')) :
    w'.holdings.count = w.holdings.count + channel.files.length := by
  have hfiles : opened.files.length = channel.files.length := by
    cases channel with
    | inherit =>
      cases h
      rfl
    | pipe tip =>
      cases h
      rfl
    | file path =>
      simp only [openChannel] at h
      rcases hopen : openRedirection call path w with ⟨e | file, w₁⟩
      · simp [hopen] at h
      · simp only [hopen, Prod.mk.injEq, Except.ok.injEq] at h
        obtain ⟨rfl, -⟩ := h
        rfl
  obtain ⟨hopens, -⟩ := opens_openChannel h
  simp only [Holdings.count, hopens.ends, hopens.files, List.length_append, hfiles]
  omega

theorem opens_of_openChannel_error {channel : Channel String} {failure : LaunchFailure}
    (h : openChannel call channel w = (.error failure, w')) : w.Opens [] w' := by
  cases channel with
  | inherit => simp [openChannel] at h
  | pipe tip => simp [openChannel] at h
  | file path =>
    simp only [openChannel, openRedirection] at h
    cases hpath : pathError? path with
    | some e =>
      simp only [hpath, Prod.mk.injEq] at h
      obtain ⟨-, rfl⟩ := h
      exact w.opens_self
    | none =>
      rcases hopen : w.openFile (call path) path with ⟨e | file, w₁⟩
      · simp only [hpath, hopen, Prod.mk.injEq] at h
        obtain ⟨-, rfl⟩ := h
        exact World.opens_of_openFile_error hopen
      · simp [hpath, hopen] at h

/-- A process that is started takes the ends of its two streams with it. -/
theorem startStage_ok {k : Kernel σ} {arguments : List String} {stdin stdout : Channel FileHandle}
    {child : ProcessId} (h : k.startStage arguments stdin stdout w = (.ok child, w')) :
    ∃ state, w' = { w with state }.handOver child (stdin.ends ++ stdout.ends) := by
  cases arguments with
  | nil => simp [startStage] at h
  | cons program operands =>
    simp only [startStage, start] at h
    cases hcommand : commandError? { program, operands, stdin, stdout } with
    | some e => simp [hcommand] at h
    | none =>
      rcases hspawn : k.spawn { program, operands, stdin, stdout } w.state with ⟨e | pid, state⟩
      · simp [hcommand, hspawn] at h
      · simp only [hcommand, hspawn, Prod.mk.injEq, Except.ok.injEq] at h
        obtain ⟨rfl, rfl⟩ := h
        exact ⟨state, rfl⟩

/-- A process that is not started leaves everything as it is, up to the state of
the system. -/
theorem startStage_error {k : Kernel σ} {arguments : List String}
    {stdin stdout : Channel FileHandle} {failure : LaunchFailure}
    (h : k.startStage arguments stdin stdout w = (.error failure, w')) :
    ∃ state, w' = { w with state } := by
  cases arguments with
  | nil =>
    simp only [startStage, Prod.mk.injEq] at h
    exact ⟨w.state, h.2.symm⟩
  | cons program operands =>
    simp only [startStage, start] at h
    cases hcommand : commandError? { program, operands, stdin, stdout } with
    | some e =>
      simp only [hcommand, Prod.mk.injEq] at h
      exact ⟨w.state, h.2.symm⟩
    | none =>
      rcases hspawn : k.spawn { program, operands, stdin, stdout } w.state with ⟨e | pid, state⟩
      · simp only [hcommand, hspawn, Prod.mk.injEq] at h
        exact ⟨state, h.2.symm⟩
      · simp [hcommand, hspawn] at h

end Kernel

namespace Kernel

variable (k : Kernel σ) (plan : Plan) (w : World σ)

/-- Up to the pipe ends of a stage that was not started, the contract is kept before
the shell closes them. -/
theorem openAndStart_error {w' : World σ} {failure : LaunchFailure}
    (h : k.openAndStart plan w = (.error failure, w')) :
    w.DescriptorWork w' ∧ w'.holdings.ends = w.holdings.ends ∧
      w'.holdings.children = w.holdings.children ∧
      (w.holdings.files = [] → w'.holdings.files = []) := by
  unfold openAndStart at h
  rcases hin : openChannel k.openInput plan.stdin w with ⟨e | stdin, w₁⟩
  · -- the input file cannot be opened
    have h₁ := opens_of_openChannel_error hin
    simp only [hin, Prod.mk.injEq] at h
    obtain ⟨-, rfl⟩ := h
    exact ⟨h₁.work, h₁.ends, h₁.children, fun hfiles => by simpa [hfiles] using h₁.files⟩
  obtain ⟨h₁, -⟩ := opens_openChannel hin
  rcases hout : openChannel k.openOutput plan.stdout w₁ with ⟨e | stdout, w₂⟩
  · -- the output file cannot be opened, and the input file is closed again
    have h₂ := opens_of_openChannel_error hout
    simp only [hin, hout, Prod.mk.injEq] at h
    obtain ⟨-, rfl⟩ := h
    refine ⟨(h₁.work.trans h₂.work).trans
      (World.descriptorWork_of_note (w₂.notes_closeFiles stdin.files) rfl), ?_, ?_, ?_⟩
    · simp [h₂.ends, h₁.ends]
    · simp [h₂.children, h₁.children]
    · intro hfiles
      simp [h₂.files, h₁.files, hfiles]
  obtain ⟨h₂, -⟩ := opens_openChannel hout
  rcases hstart : k.startStage plan.arguments stdin stdout w₂ with ⟨e | child, w₃⟩
  · -- the process cannot be started, and both files are closed again
    obtain ⟨state, rfl⟩ := startStage_error hstart
    simp only [hin, hout, hstart, Prod.mk.injEq] at h
    obtain ⟨-, rfl⟩ := h
    refine ⟨(h₁.work.trans h₂.work).trans
      (World.descriptorWork_of_note
        (World.notes_closeFiles { w₂ with state } (stdin.files ++ stdout.files)) rfl), ?_, ?_, ?_⟩
    · simp [h₂.ends, h₁.ends]
    · simp [h₂.children, h₁.children]
    · intro hfiles
      simp +contextual [h₂.files, h₁.files, hfiles]
  · simp [hin, hout, hstart] at h

/-- A child that is started takes the plan's pipe ends with it, and the redirection
files are closed behind it. -/
theorem openAndStart_ok {w' : World σ} {child : ProcessId}
    (h : k.openAndStart plan w = (.ok child, w')) : w.Honours plan (.ok child) w' := by
  unfold openAndStart at h
  rcases hin : openChannel k.openInput plan.stdin w with ⟨e | stdin, w₁⟩
  · simp [hin] at h
  obtain ⟨h₁, hstdin⟩ := opens_openChannel hin
  rcases hout : openChannel k.openOutput plan.stdout w₁ with ⟨e | stdout, w₂⟩
  · simp [hin, hout] at h
  obtain ⟨h₂, hstdout⟩ := opens_openChannel hout
  rcases hstart : k.startStage plan.arguments stdin stdout w₂ with ⟨e | pid, w₃⟩
  · simp [hin, hout, hstart] at h
  obtain ⟨state, rfl⟩ := startStage_ok hstart
  have hends : stdin.ends ++ stdout.ends = plan.ends := by rw [hstdin, hstdout, Plan.ends]
  rw [hends] at hstart
  simp only [hin, hout, hstart, Prod.mk.injEq, Except.ok.injEq] at h
  obtain ⟨rfl, rfl⟩ := h
  -- the child takes the ends over before the shell closes the files
  refine ⟨?_, ?_, ?_, ?_, by simp⟩
  · exact ((h₁.work.trans h₂.work).trans (World.descriptorWork_of_note
      (World.notes_handOver { w₂ with state } pid plan.ends) rfl)).trans
        (World.descriptorWork_of_note
          (World.notes_closeFiles _ (stdin.files ++ stdout.files)) rfl)
  · simp [h₂.ends, h₁.ends]
  · intro hfiles
    simp +contextual [h₂.files, h₁.files, hfiles]
  · intro child hchild
    cases hchild
    simp [h₂.children, h₁.children]

/-- A platform that is built from system calls honours the contract of a launch,
whatever the calls answer. -/
theorem honoursContract : k.platform.HonoursContract := by
  intro plan w
  simp only [platform, launch]
  rcases h : k.openAndStart plan w with ⟨failure | child, w'⟩
  · obtain ⟨hwork, hends, hchildren, hfiles⟩ := k.openAndStart_error plan w h
    refine ⟨hwork.trans (World.descriptorWork_of_note (w'.notes_close plan.ends) rfl), ?_, ?_,
      by simp, ?_⟩
    · simp [hends]
    · simpa using hfiles
    · intro _ _
      simpa using hchildren
  · exact k.openAndStart_ok plan w h

end Kernel

/-! ### Rehearsals -/

/-- A rehearsal honours the contract of a launch. -/
theorem Rehearsal.honoursContract : Rehearsal.platform.HonoursContract := by
  intro plan w
  simp only [platform, launch]
  rcases h : answer plan w.state with ⟨failure | child, state⟩
  · exact ⟨World.descriptorWork_of_note (World.notes_close _ _) rfl, by simp, by simp, by simp,
      by simp⟩
  · exact ⟨World.descriptorWork_of_note (World.notes_handOver _ _ _) rfl, by simp, by simp,
      by simp, by simp⟩

end LineShell
