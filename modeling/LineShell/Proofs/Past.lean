import LineShell.Proofs.Journal
import LineShell.Proofs.Recording

/-!
# Executions and their past

The journal is written for a reader and not for the shell: no operation depends on
what stands in it.  So a world may have any past, and what an execution does and what
it adds to the journal stays the same.

A platform comes from outside and is handed the world, so that it does not read the
journal is a property of its own.  Every platform of system calls has it.

## Main definitions

* `World.after` — a world with a longer past.
* `Platform.IgnoresJournal` — launches do not read the journal.
* `World.Alike` — two worlds differ in their past only.
* `SameCourse` — two executions do the same.

## Main results

* `Kernel.ignoresJournal`, `Rehearsal.ignoresJournal` — platforms of system calls and
  rehearsals do not read it.
* `sameCourse_of_alike` — an execution does not depend on the past.
-/

namespace LineShell

variable {σ : Type}

/-! ### Longer pasts -/

/-- The same world, with a past before its own. -/
def World.after (past : List Moment) (w : World σ) : World σ :=
  { w with journal := w.journal ++ past }

section After

variable (past : List Moment) (w : World σ)

@[simp] theorem World.state_after : (w.after past).state = w.state := rfl

@[simp] theorem World.holdings_after : (w.after past).holdings = w.holdings := rfl

/-- A longer past goes along with what the shell does by itself. -/
theorem World.after_commutes : World.Commutes fun w : World σ => w.after past where
  note _ _ := rfl
  close _ _ := rfl
  openPipe number w := by
    unfold World.openPipe
    rw [World.holdings_after]
    split <;> rfl

end After

/-! ### Platforms that do not read the journal -/

/-- A platform whose launches do not depend on the past, and add to the journal what they
would add to an empty one. -/
def Platform.IgnoresJournal (p : Platform σ) : Prop :=
  ∀ past plan w, p.launch plan (w.after past) =
    ((p.launch plan w).1, (p.launch plan w).2.after past)

theorem Platform.IgnoresJournal.commutes {p : Platform σ} (hp : p.IgnoresJournal)
    (past : List Moment) : Platform.Commutes (World.after past) p p where
  toCommutes := World.after_commutes past
  launch := hp past
  warn _ _ := rfl
  await _ _ := rfl

/-- Writing the calls down does not make a platform read the journal. -/
theorem Platform.IgnoresJournal.recorded {p : Platform σ} (hp : p.IgnoresJournal) :
    p.recorded.IgnoresJournal := by
  intro past plan w
  have hmap : (w.after past).map Recorded.inner = (w.map Recorded.inner).after past := rfl
  simp only [Platform.recorded, hmap, hp past plan]
  rfl

namespace Kernel

variable (past : List Moment) (w : World σ)

section Opening

variable (call : String → σ → Except SystemError FileHandle × σ)

theorem openRedirection_after (path : String) : openRedirection call path (w.after past) =
    ((openRedirection call path w).1, (openRedirection call path w).2.after past) := by
  unfold openRedirection
  cases pathError? path with
  | some e => rfl
  | none =>
    by_cases hroom : w.holdings.hasRoomFor 1 = true
    · simp only [World.openFile, World.holdings_after, World.state_after, hroom]
      rcases call path w.state with ⟨e | file, state⟩ <;> rfl
    · simp only [World.openFile, World.holdings_after, hroom]
      rfl

theorem openChannel_after (channel : Channel String) :
    openChannel call channel (w.after past) =
      ((openChannel call channel w).1, (openChannel call channel w).2.after past) := by
  cases channel with
  | inherit => rfl
  | pipe tip => rfl
  | file path =>
    simp only [openChannel, openRedirection_after]
    rcases openRedirection call path w with ⟨e | file, w₁⟩ <;> rfl

end Opening

variable (k : Kernel σ)

theorem startStage_after (arguments : List String) (stdin stdout : Channel FileHandle) :
    k.startStage arguments stdin stdout (w.after past) =
      ((k.startStage arguments stdin stdout w).1,
        (k.startStage arguments stdin stdout w).2.after past) := by
  cases arguments with
  | nil => rfl
  | cons program operands =>
    simp only [startStage, start, World.state_after]
    cases commandError? { program, operands, stdin, stdout } with
    | some e => rfl
    | none =>
      rcases k.spawn { program, operands, stdin, stdout } w.state with ⟨e | child, s⟩ <;> rfl

theorem openAndStart_after (plan : Plan) : k.openAndStart plan (w.after past) =
    ((k.openAndStart plan w).1, (k.openAndStart plan w).2.after past) := by
  simp only [openAndStart, openChannel_after]
  rcases openChannel k.openInput plan.stdin w with ⟨e | stdin, w₁⟩
  · rfl
  simp only [openChannel_after]
  rcases openChannel k.openOutput plan.stdout w₁ with ⟨e | stdout, w₂⟩
  · rfl
  simp only [startStage_after]
  rfl

/-- A platform that is built from system calls does not read the journal, since the
calls have no part in it. -/
theorem ignoresJournal : k.platform.IgnoresJournal := by
  intro past plan w
  simp only [platform, launch, openAndStart_after]
  rcases k.openAndStart plan w with ⟨failure | child, w₁⟩ <;> rfl

end Kernel

/-- Neither does a rehearsal. -/
theorem Rehearsal.ignoresJournal : Rehearsal.platform.IgnoresJournal := by
  intro past plan w
  simp only [platform, launch, World.state_after]
  rcases answer plan w.state with ⟨failure | child, state⟩ <;> rfl

/-! ### Executions do not depend on the past -/

/-- Two worlds are in the same state, and the same descriptors are held in them. -/
structure World.Alike (w w' : World σ) : Prop where
  /-- The platforms are in the same state. -/
  state : w.state = w'.state
  /-- The same descriptors are held by the same processes. -/
  holdings : w.holdings = w'.holdings

/-- The execution of a pipeline does the same in two worlds: it makes the same calls and has
the same result, it leads to the same state and the same holdings, and the journal shows the
same moments. -/
structure SameCourse (p : Platform σ) (pipeline : Pipeline) (w w' : World σ) : Prop where
  /-- The results are the same. -/
  result : (execute p pipeline w).1 = (execute p pipeline w').1
  /-- The platform is asked for the same. -/
  calls : callsOf p pipeline w = callsOf p pipeline w'
  /-- The worlds afterwards are alike. -/
  alike : (execute p pipeline w).2.Alike (execute p pipeline w').2
  /-- The same was done on the way. -/
  since : w.since (execute p pipeline w).2 = w'.since (execute p pipeline w').2

/-- An execution with a past does what it does without one. -/
theorem execute_after {p : Platform σ} (hp : p.IgnoresJournal) (pipeline : Pipeline)
    (past : List Moment) {w : World σ} (hw : w.journal = []) :
    (w.after past).since (execute p pipeline (w.after past)).2 =
      (execute p pipeline w).2.journal.reverse := by
  refine World.since_eq ?_
  rw [(hp.commutes past).execute]
  simp only [World.Notes, World.after, hw, List.reverse_reverse, List.nil_append]

/-- An execution does not depend on the past. -/
theorem sameCourse_of_alike {p : Platform σ} (hp : p.IgnoresJournal) (pipeline : Pipeline)
    {w w' : World σ} (h : w.Alike w') : SameCourse p pipeline w w' := by
  -- both worlds are the same world without a past, with their own past put before it
  obtain ⟨state, holdings, past⟩ := w
  obtain ⟨state', holdings', past'⟩ := w'
  obtain rfl : state = state' := h.state
  obtain rfl : holdings = holdings' := h.holdings
  let start : World σ := { state, holdings }
  have hfirst := (hp.commutes past).execute pipeline start
  have hsecond := (hp.commutes past').execute pipeline start
  refine ⟨?_, ?_, ⟨?_, ?_⟩, ?_⟩
  · exact (congrArg Prod.fst hfirst).trans (congrArg Prod.fst hsecond).symm
  · have hcalls := fun past : List Moment =>
      congrArg (·.2.state.calls) ((hp.recorded.commutes past).execute pipeline start.unrecorded)
    exact (hcalls past).trans (hcalls past').symm
  · exact (congrArg (·.2.state) hfirst).trans (congrArg (·.2.state) hsecond).symm
  · exact (congrArg (·.2.holdings) hfirst).trans (congrArg (·.2.holdings) hsecond).symm
  · exact (execute_after hp pipeline past (w := start) rfl).trans
      (execute_after hp pipeline past' (w := start) rfl).symm

end LineShell
