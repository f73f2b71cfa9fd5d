import LineShell.Proofs.ProcessTable
import LineShell.Proofs.Reaping
import Mathlib.Data.List.Forall2

/-!
# Whose end it is that the shell is told

The shell waits for its children in the order of their stages, and they end in an order of
their own.  A child that has ended early is kept by the system until its turn comes, and
for a child that still runs the shell waits while others end.  So the outcome of a stage is
the end of its own child, in whatever order the children end.

## Main definitions

* `Platform.Tracks` — the waits of a platform are those of a process table.
* `Reaps` — the ends of children and the waits of the shell, entry by entry.
* `Attributed` — an outcome tells the end of the child of its own entry.
* `Reaping` — what reaping comes to.
* `Timeline` — a process table with the events that are still to come.

## Main results

* `Reaps.attributed` — each outcome belongs to its own entry.
* `Attributed.outcome_unique` — an outcome depends on the end of the child only.
* `reap_own_ends` — reaping tells the end of each child, in any order of the ends.
* `exists_timeline` — every order of the ends is possible.
-/

namespace LineShell

variable {σ : Type}

/-! ### Platforms with a process table -/

/-- The waits of a platform are those of a process table. While the shell waits for one
child, others end; the wait returns when the child itself has ended. -/
def Platform.Tracks (p : Platform σ) (table : σ → ProcessTable) : Prop :=
  ∀ (child : ProcessId) (s : σ), ∃ (endings : List ProcessEvent) (fate : Fate),
    awaitedIn endings = [] ∧ (p.wait child s).1 = fate.answer ∧
      (table s).Steps (endings ++ [.waited child fate]) (table (p.wait child s).2)

/-- The children of some entries, in order. -/
def childrenOf (entries : List Entry) : List ProcessId :=
  entries.filterMap fun e => e.child.toOption

@[simp] theorem childrenOf_nil : childrenOf [] = [] := rfl

section ChildrenOf

variable {e : Entry} {child : ProcessId} {fault : StageFault} (entries : List Entry)

theorem childrenOf_cons_ok (h : e.child = .ok child) :
    childrenOf (e :: entries) = child :: childrenOf entries :=
  List.filterMap_cons_some (by rw [h, Except.toOption])

theorem childrenOf_cons_error (h : e.child = .error fault) :
    childrenOf (e :: entries) = childrenOf entries :=
  List.filterMap_cons_none (by rw [h, Except.toOption])

end ChildrenOf

/-! ### Entry by entry -/

/-- Reaping some entries in a world goes with these events. -/
inductive Reaps (p : Platform σ) (table : σ → ProcessTable) :
    List Entry → World σ → List ProcessEvent → Prop
  /-- No entry is left. -/
  | done (w : World σ) : Reaps p table [] w []
  /-- There is no child to wait for. -/
  | failed {e : Entry} {entries : List Entry} {w : World σ} {trace : List ProcessEvent}
      {fault : StageFault} (fails : e.child = .error fault)
      (rest : Reaps p table entries w trace) : Reaps p table (e :: entries) w trace
  /-- Children end, and then the wait for the child returns. -/
  | running {e : Entry} {entries : List Entry} {w : World σ}
      {endings trace : List ProcessEvent} {child : ProcessId} {fate : Fate}
      (runs : e.child = .ok child) (quiet : awaitedIn endings = [])
      (answer : (w.await p child).1 = fate.answer)
      (steps : (table w.state).Steps (endings ++ [.waited child fate])
        (table (w.await p child).2.state))
      (rest : Reaps p table entries (w.await p child).2 trace) :
      Reaps p table (e :: entries) w (endings ++ [.waited child fate] ++ trace)

theorem exists_reaps {p : Platform σ} {table : σ → ProcessTable} (hp : p.Tracks table)
    (entries : List Entry) (w : World σ) : ∃ trace, Reaps p table entries w trace := by
  induction entries generalizing w with
  | nil => exact ⟨[], .done w⟩
  | cons e entries ih =>
    rcases hchild : e.child with fault | child
    · obtain ⟨trace, hrest⟩ := ih w
      exact ⟨trace, .failed hchild hrest⟩
    · obtain ⟨trace, hrest⟩ := ih (w.await p child).2
      obtain ⟨endings, fate, hquiet, hanswer, hsteps⟩ := hp child w.state
      exact ⟨_, .running hchild hquiet hanswer hsteps hrest⟩

/-- An outcome tells the end of the child of its own entry, or the fault of the entry. -/
inductive Attributed (t : ProcessTable) (trace : List ProcessEvent) (e : Entry) : Outcome → Prop
  /-- The child has exited with a code. -/
  | exited {child : ProcessId} {s : Termination} {code : Nat} (runs : e.child = .ok child)
      (meets : t.Meets trace child (.known s)) (waited : .waited child (.known s) ∈ trace)
      (exits : s.word.exitCode? = some code) :
      Attributed t trace e ⟨e.index, e.program, .exited (Int32.ofNat code)⟩
  /-- The child was killed by a signal. -/
  | signaled {child : ProcessId} {s : Termination} {signal : Nat} (runs : e.child = .ok child)
      (meets : t.Meets trace child (.known s)) (waited : .waited child (.known s) ∈ trace)
      (killed : s.word.signal? = some signal) :
      Attributed t trace e ⟨e.index, e.program, .signaled (Int32.ofNat signal)⟩
  /-- The wait for the child has failed. -/
  | lost {child : ProcessId} {cause : SystemError} (runs : e.child = .ok child)
      (meets : t.Meets trace child (.lost cause)) (waited : .waited child (.lost cause) ∈ trace) :
      Attributed t trace e ⟨e.index, e.program, .lost cause⟩
  /-- The stage never ran. -/
  | failed {fault : StageFault} (fails : e.child = .error fault) :
      Attributed t trace e ⟨e.index, e.program, .failed fault⟩

/-- A word with a signal holds no exit code. -/
theorem WaitStatus.exitCode?_of_signal? {s : WaitStatus} {signal : Nat}
    (h : s.signal? = some signal) : s.exitCode? = none := by
  have hword : s.word % 128 ≠ 0 := fun hzero => by simp [signal?, hzero] at h
  exact if_neg hword

section Attributed

variable {t : ProcessTable} {trace : List ProcessEvent} {e : Entry} {child : ProcessId}

theorem attributed_of_meets {fate : Fate} (runs : e.child = .ok child)
    (meets : t.Meets trace child fate) (waited : .waited child fate ∈ trace) :
    Attributed t trace e ⟨e.index, e.program, .ofWait fate.answer⟩ := by
  cases fate with
  | lost cause => exact .lost runs meets waited
  | known s =>
    cases hcode : s.word.exitCode? with
    | some code =>
      have hstatus : StageStatus.ofWait (Fate.known s).answer = .exited (Int32.ofNat code) := by
        simp [Fate.answer, StageStatus.ofWait, StageStatus.ofWaitStatus, hcode]
      rw [hstatus]
      exact .exited runs meets waited hcode
    | none =>
      -- a word that is no exit code holds a signal
      obtain ⟨signal, hsignal⟩ : ∃ signal, s.word.signal? = some signal := by
        have hended := s.ended
        rw [hcode] at hended
        exact Option.isSome_iff_exists.mp (hended.resolve_left (by simp))
      have hstatus : StageStatus.ofWait (Fate.known s).answer =
          .signaled (Int32.ofNat signal) := by
        simp [Fate.answer, StageStatus.ofWait, StageStatus.ofWaitStatus, hcode, hsignal]
      rw [hstatus]
      exact .signaled runs meets waited hsignal

/-- Read the other way: the outcome is that of the end of the child. -/
theorem Attributed.exists_meets {o : Outcome} (h : Attributed t trace e o)
    (runs : e.child = .ok child) : ∃ fate, t.Meets trace child fate ∧
      o = ⟨e.index, e.program, .ofWait fate.answer⟩ := by
  cases h with
  | exited runs' meets _ hcode =>
    cases runs.symm.trans runs'
    exact ⟨_, meets, by simp [Fate.answer, StageStatus.ofWait, StageStatus.ofWaitStatus, hcode]⟩
  | signaled runs' meets _ hsignal =>
    cases runs.symm.trans runs'
    have hcode := WaitStatus.exitCode?_of_signal? hsignal
    exact ⟨_, meets,
      by simp [Fate.answer, StageStatus.ofWait, StageStatus.ofWaitStatus, hcode, hsignal]⟩
  | lost runs' meets _ =>
    cases runs.symm.trans runs'
    exact ⟨_, meets, rfl⟩
  | failed fails => simp [runs] at fails

/-- An outcome depends on nothing but the end of the child, so wherever the child ends in
the same way it is the same. -/
theorem Attributed.outcome_unique {t' t₂' : ProcessTable} {trace' : List ProcessEvent}
    {o o' : Outcome} (h : Attributed t trace e o) (h' : Attributed t' trace' e o')
    (steps : t'.Steps trace' t₂')
    (hsame : ∀ child, e.child = .ok child →
      ∀ fate, t.Meets trace child fate ↔ t'.Meets trace' child fate) : o' = o := by
  rcases hchild : e.child with fault | child
  · cases h <;> cases h' <;> simp_all
  · obtain ⟨fate, hmeets, rfl⟩ := h.exists_meets hchild
    obtain ⟨fate', hmeets', rfl⟩ := h'.exists_meets hchild
    rw [steps.meets_unique hmeets' ((hsame child hchild fate).mp hmeets)]

end Attributed

namespace Reaps

variable {p : Platform σ} {table : σ → ProcessTable} {entries : List Entry} {w : World σ}
  {trace : List ProcessEvent}

/-- The events lead from the table before to the table after. -/
theorem steps (h : Reaps p table entries w trace) :
    (table w.state).Steps trace (table (reap p entries w).2.state) := by
  induction h with
  | done w => exact .nil _
  | failed fails rest ih =>
    rw [reap_cons, Entry.reap_failed p fails]
    exact ih
  | running runs quiet answer steps rest ih =>
    rw [reap_cons, Entry.reap_running p runs]
    exact steps.append ih

/-- There is one wait for each child, in the order of the entries. -/
theorem awaited (h : Reaps p table entries w trace) : awaitedIn trace = childrenOf entries := by
  induction h with
  | done w => rfl
  | failed fails rest ih => rw [childrenOf_cons_error _ fails, ih]
  | running runs quiet answer steps rest ih =>
    rw [childrenOf_cons_ok _ runs, awaitedIn_append, awaitedIn_append, quiet, ih]
    rfl

/-- Each outcome tells the end of its own child, seen from any earlier table since which
nobody has waited for the children. -/
theorem attributed (h : Reaps p table entries w trace) (hdistinct : (childrenOf entries).Nodup)
    {t : ProcessTable} {earlier : List ProcessEvent} (hearlier : t.Steps earlier (table w.state))
    (hnew : ∀ child ∈ childrenOf entries, child ∉ awaitedIn earlier) :
    List.Forall₂ (Attributed t (earlier ++ trace)) entries (reap p entries w).1 := by
  induction h generalizing earlier with
  | done w => exact .nil
  | failed fails rest ih =>
    rw [reap_cons, Entry.reap_failed p fails]
    rw [childrenOf_cons_error _ fails] at hdistinct hnew
    exact .cons (.failed fails) (ih hdistinct hearlier hnew)
  | @running e entries w endings trace child fate runs quiet answer steps rest ih =>
    rw [childrenOf_cons_ok _ runs] at hdistinct hnew
    obtain ⟨hfresh, hdistinct⟩ := List.nodup_cons.mp hdistinct
    have hsteps := hearlier.append steps
    rw [← List.append_assoc] at hsteps
    have hquiet : awaitedIn (earlier ++ endings) = awaitedIn earlier := by simp [quiet]
    -- nobody has waited for the child, so the wait tells how it ended
    have hfirst : child ∉ awaitedIn (earlier ++ endings) := by
      rw [hquiet]
      exact hnew child List.mem_cons_self
    have hmeets := hsteps.meets_of_waited hfirst (.waited child fate :: trace)
    -- nor has anybody waited for the children that are left
    have hnew' : ∀ other ∈ childrenOf entries,
        other ∉ awaitedIn (earlier ++ endings ++ [.waited child fate]) := by
      intro other hother
      rw [awaitedIn_append, hquiet, List.mem_append, not_or]
      refine ⟨hnew other (List.mem_cons_of_mem _ hother), ?_⟩
      simp only [awaitedIn_cons_waited, awaitedIn_nil, List.mem_singleton]
      rintro rfl
      exact hfresh hother
    have hrest := ih hdistinct hsteps hnew'
    have htrace : earlier ++ (endings ++ [.waited child fate] ++ trace) =
        earlier ++ endings ++ [.waited child fate] ++ trace := by simp
    rw [reap_cons, Entry.reap_running p runs, answer, htrace]
    refine .cons (attributed_of_meets runs ?_ (by simp)) hrest
    simpa using hmeets

/-- Nothing is left of the children. -/
theorem unreaped (h : Reaps p table entries w trace) (hdistinct : (childrenOf entries).Nodup)
    {child : ProcessId} (hchild : child ∈ childrenOf entries) :
    ∃ fate : Fate, table (reap p entries w).2.state child = .ended fate.spent := by
  induction h with
  | done w => simp at hchild
  | failed fails rest ih =>
    rw [reap_cons, Entry.reap_failed p fails]
    rw [childrenOf_cons_error _ fails] at hdistinct hchild
    exact ih hdistinct hchild
  | running runs quiet answer steps rest ih =>
    rw [childrenOf_cons_ok _ runs] at hdistinct hchild
    obtain ⟨hfresh, hdistinct⟩ := List.nodup_cons.mp hdistinct
    rw [reap_cons, Entry.reap_running p runs]
    rcases List.mem_cons.mp hchild with rfl | hchild
    · refine ⟨_, rest.steps.eq_of_ended ?_ steps.ended_of_waited⟩
      rwa [rest.awaited]
    · exact ih hdistinct hchild

end Reaps

/-- The journal shows the waits for the children and nothing else. -/
theorem actions_reap (p : Platform σ) (entries : List Entry) (w : World σ) :
    ∃ moments, w.Notes moments (reap p entries w).2 ∧
      moments.map Moment.action = (childrenOf entries).map Action.awaited := by
  induction entries generalizing w with
  | nil => exact ⟨[], w.notes_self, rfl⟩
  | cons e entries ih =>
    obtain ⟨moments, hnotes, hactions⟩ := ih (e.reap p w).2
    rcases hchild : e.child with fault | child
    · rw [e.reap_failed p hchild] at hnotes
      refine ⟨moments, ?_, ?_⟩
      · rw [reap_cons, e.reap_failed p hchild]
        exact hnotes
      · rw [childrenOf_cons_error _ hchild, hactions]
    · rw [e.reap_running p hchild] at hnotes
      refine ⟨⟨.awaited child, w.holdings⟩ :: moments, ?_, ?_⟩
      · rw [reap_cons, e.reap_running p hchild]
        exact (w.notes_await p child).trans hnotes
      · rw [childrenOf_cons_ok _ hchild, List.map_cons, List.map_cons, hactions]

/-- What reaping some entries comes to, in a world where these events happen meanwhile. -/
structure Reaping (p : Platform σ) (table : σ → ProcessTable) (entries : List Entry)
    (w : World σ) (trace : List ProcessEvent) : Prop where
  /-- The events are those of the process table. -/
  steps : (table w.state).Steps trace (table (reap p entries w).2.state)
  /-- There is one wait for each child, in the order of the entries, and no other one. -/
  awaited : awaitedIn trace = childrenOf entries
  /-- The shell has begun these waits and has done nothing else. -/
  actions : (w.since (reap p entries w).2).map Moment.action =
    (childrenOf entries).map Action.awaited
  /-- There is one outcome for each entry, which tells the end of its own child. -/
  outcomes : List.Forall₂ (Attributed (table w.state) trace) entries (reap p entries w).1
  /-- The children have ended, and no word of them is kept. -/
  table_left : ∀ child ∈ childrenOf entries,
    (table (reap p entries w).2.state child).isLeft = false
  /-- The shell knows of none of them any more. -/
  children_left : ∀ child ∈ (reap p entries w).2.holdings.children,
    child.1 ∉ childrenOf entries

theorem Reaps.reaping {p : Platform σ} {table : σ → ProcessTable} {entries : List Entry}
    {w : World σ} {trace : List ProcessEvent} (h : Reaps p table entries w trace)
    (hdistinct : (childrenOf entries).Nodup) : Reaping p table entries w trace where
  steps := h.steps
  awaited := h.awaited
  actions := by
    obtain ⟨moments, hnotes, hactions⟩ := actions_reap p entries w
    rw [World.since_eq hnotes, hactions]
  outcomes := h.attributed hdistinct (.nil _) (by simp)
  table_left child hchild := by
    obtain ⟨fate, hended⟩ := h.unreaped hdistinct hchild
    rw [hended, Standing.isLeft_spent]
  children_left child hmem hchild := by
    obtain ⟨e, he, hrunning⟩ := List.mem_filterMap.mp hchild
    obtain ⟨-, hnone⟩ := (mem_children_reap p).mp hmem
    rcases hchild' : e.child with fault | other
    · simp [hchild', Except.toOption] at hrunning
    · obtain rfl : other = child.1 := by simpa [hchild', Except.toOption] using hrunning
      exact hnone e he hchild'

/-- Outcomes that tell the ends of the same children are the same wherever these end in the
same ways. -/
theorem outcomes_unique {t t' t₂' : ProcessTable} {trace trace' : List ProcessEvent}
    {entries : List Entry} {outcomes outcomes' : List Outcome}
    (h : List.Forall₂ (Attributed t trace) entries outcomes)
    (h' : List.Forall₂ (Attributed t' trace') entries outcomes') (steps : t'.Steps trace' t₂')
    (hsame : ∀ child ∈ childrenOf entries,
      ∀ fate, t.Meets trace child fate ↔ t'.Meets trace' child fate) : outcomes' = outcomes := by
  induction h generalizing outcomes' with
  | nil => cases h'; rfl
  | @cons e o entries outcomes hfirst hrest ih =>
    cases h' with
    | @cons _ o' _ outcomes' hfirst' hrest' =>
      have hown : ∀ child, e.child = .ok child →
          ∀ fate, t.Meets trace child fate ↔ t'.Meets trace' child fate := by
        intro child hchild
        refine hsame child ?_
        rw [childrenOf_cons_ok _ hchild]
        exact List.mem_cons_self
      have hothers : ∀ child ∈ childrenOf entries,
          ∀ fate, t.Meets trace child fate ↔ t'.Meets trace' child fate := by
        intro child hchild
        refine hsame child ?_
        rcases he : e.child with fault | other
        · rwa [childrenOf_cons_error _ he]
        · rw [childrenOf_cons_ok _ he]
          exact List.mem_cons_of_mem _ hchild
      rw [hfirst.outcome_unique hfirst' steps hown, ih hrest' hothers]

/-! ### Every order of the ends -/

/-- A process table with the events that are still to come. -/
structure Timeline where
  /-- The process table. -/
  table : ProcessTable
  /-- The ends of processes, and a wait wherever one returns. -/
  future : List ProcessEvent

namespace Timeline

/-- Lets processes end until a wait is to return. -/
def advance : ProcessTable → List ProcessEvent → Timeline
  | t, [] => ⟨t, []⟩
  | t, .waited _ _ :: future => ⟨t, future⟩
  | t, .ended child fate :: future =>
    match t child with
    | .running => advance (Function.update t child (.ended fate)) future
    | .ended _ => advance t future

/-- Returns from the wait for a process. If it has not ended by now, it ends unnoticed. -/
def finish (child : ProcessId) (l : Timeline) : Except SystemError WaitStatus × Timeline :=
  let fate : Fate := match l.table child with
    | .running => .lost (.os .ECHILD)
    | .ended fate => fate
  (fate.answer, { l with table := Function.update l.table child (.ended fate.spent) })

/-- Waits for a process, while others end. -/
def wait (child : ProcessId) (l : Timeline) : Except SystemError WaitStatus × Timeline :=
  finish child (advance l.table l.future)

/-- The platform on which processes end as it is written, and none is started. -/
def platform : Platform Timeline where
  launch plan w := (.error (.refused (.plain .other)), w.close plan.ends)
  wait := wait
  print _ _ l := l

/-- On the way to the next wait, processes end and nothing else happens. -/
theorem steps_advance (t : ProcessTable) (future : List ProcessEvent) :
    ∃ endings, awaitedIn endings = [] ∧ t.Steps endings (advance t future).table := by
  induction future generalizing t with
  | nil => exact ⟨[], rfl, .nil t⟩
  | cons event future ih =>
    cases event with
    | waited child fate => exact ⟨[], rfl, .nil t⟩
    | ended child fate =>
      cases hstanding : t child with
      | running =>
        obtain ⟨endings, hquiet, hsteps⟩ := ih (Function.update t child (.ended fate))
        refine ⟨.ended child fate :: endings, hquiet, ?_⟩
        rw [advance, hstanding]
        exact .cons (.ended fate hstanding) hsteps
      | ended fate' =>
        obtain ⟨endings, hquiet, hsteps⟩ := ih t
        refine ⟨endings, hquiet, ?_⟩
        rw [advance, hstanding]
        exact hsteps

theorem tracks : platform.Tracks table := by
  intro child l
  obtain ⟨endings, hquiet, hsteps⟩ := steps_advance l.table l.future
  cases hstanding : (advance l.table l.future).table child with
  | ended fate =>
    refine ⟨endings, fate, hquiet, ?_, hsteps.append ?_⟩
    · simp [platform, wait, finish, hstanding]
    · simp only [platform, wait, finish, hstanding]
      exact .cons (.waited hstanding) (.nil _)
  | running =>
    -- the process ends last, and its end leaves no word
    refine ⟨endings ++ [.ended child (.lost (.os .ECHILD))], .lost (.os .ECHILD), ?_, ?_, ?_⟩
    · simp [hquiet]
    · simp [platform, wait, finish, hstanding]
    · have hend : ProcessTable.Step _ (.ended child (.lost (.os .ECHILD))) _ :=
        .ended (.lost (.os .ECHILD)) hstanding
      have hwait := ProcessTable.Step.waited (t := Function.update
        (advance l.table l.future).table child (.ended (.lost (.os .ECHILD))))
        (Function.update_self child _ _)
      rw [Function.update_idem] at hwait
      simp only [platform, wait, finish, hstanding]
      rw [List.append_assoc]
      exact hsteps.append (.cons hend (.cons hwait (.nil _)))

/-- The next wait returns where it is written. -/
theorem advance_of_steps {t t₁ : ProcessTable} {endings : List ProcessEvent}
    (h : t.Steps endings t₁) (hquiet : awaitedIn endings = []) (child : ProcessId) (fate : Fate)
    (future : List ProcessEvent) :
    advance t (endings ++ .waited child fate :: future) = ⟨t₁, future⟩ := by
  induction h with
  | nil => rfl
  | cons step rest ih =>
    cases step with
    | ended fate' running =>
      rw [List.cons_append, advance, running]
      exact ih hquiet
    | waited _ => simp at hquiet

end Timeline

/-- The events up to the first wait. -/
theorem exists_of_awaitedIn {trace : List ProcessEvent} {child : ProcessId}
    {children : List ProcessId} (h : awaitedIn trace = child :: children) :
    ∃ endings fate later, trace = endings ++ .waited child fate :: later ∧
      awaitedIn endings = [] ∧ awaitedIn later = children := by
  induction trace with
  | nil => simp at h
  | cons event trace ih =>
    cases event with
    | ended other fate =>
      obtain ⟨endings, fate', later, rfl, hquiet, hlater⟩ := ih h
      exact ⟨.ended other fate :: endings, fate', later, rfl, hquiet, hlater⟩
    | waited other fate =>
      obtain ⟨rfl, rfl⟩ := List.cons.inj h
      exact ⟨[], fate, trace, rfl, rfl, rfl⟩

theorem Timeline.exists_reaps {entries : List Entry} {t t₂ : ProcessTable}
    {trace : List ProcessEvent} (h : t.Steps trace t₂)
    (hawaited : awaitedIn trace = childrenOf entries) {w : World Timeline}
    (hw : w.state = ⟨t, trace⟩) : ∃ earlier later, trace = earlier ++ later ∧
      awaitedIn later = [] ∧ Reaps platform table entries w earlier := by
  induction entries generalizing t trace w with
  | nil => exact ⟨[], trace, rfl, hawaited, .done w⟩
  | cons e entries ih =>
    rcases hchild : e.child with fault | child
    · rw [childrenOf_cons_error _ hchild] at hawaited
      obtain ⟨earlier, later, htrace, hlater, hrest⟩ := ih h hawaited hw
      exact ⟨earlier, later, htrace, hlater, .failed hchild hrest⟩
    · rw [childrenOf_cons_ok _ hchild] at hawaited
      obtain ⟨endings, fate, trace', rfl, hquiet, hawaited'⟩ := exists_of_awaitedIn hawaited
      obtain ⟨t₁, hendings, hwaited⟩ := h.exists_middle
      cases hwaited with
      | cons step hrest =>
        cases step with
        | waited ended =>
          have hwait : w.await platform child = (fate.answer, (w.await platform child).2) ∧
              (w.await platform child).2.state =
                ⟨Function.update t₁ child (.ended fate.spent), trace'⟩ := by
            have hadvance := advance_of_steps hendings hquiet child fate trace'
            simp [World.await, World.note, World.forget, platform, wait, finish, hw, hadvance,
              ended]
          obtain ⟨earlier, later, rfl, hlater, hreaps⟩ := ih hrest hawaited' hwait.2
          refine ⟨endings ++ [.waited child fate] ++ earlier, later, by simp, hlater,
            .running hchild hquiet (congrArg Prod.fst hwait.1) ?_ hreaps⟩
          rw [hwait.2, hw]
          exact hendings.append (.cons (.waited ended) (.nil _))

/-- Every order of the ends, before and between the waits, is that of some reaping. -/
theorem exists_timeline {entries : List Entry} (hdistinct : (childrenOf entries).Nodup)
    {t t₂ : ProcessTable} {trace : List ProcessEvent} (h : t.Steps trace t₂)
    (hawaited : awaitedIn trace = childrenOf entries) :
    ∃ earlier later, trace = earlier ++ later ∧ awaitedIn later = [] ∧
      Reaping Timeline.platform Timeline.table entries { state := ⟨t, trace⟩ } earlier := by
  obtain ⟨earlier, later, htrace, hlater, hreaps⟩ :=
    Timeline.exists_reaps h hawaited (w := { state := ⟨t, trace⟩ }) rfl
  exact ⟨earlier, later, htrace, hlater, hreaps.reaping hdistinct⟩

/-! ### Reaping in any order -/

/-- **Reaping tells the end of each child.** On a platform with a process table there is one
wait for each child and one outcome for each entry, which tells the end of its own child, and
no child is left. The children may end in any order, before and between the waits. As long as
each child ends in the same way, in another order or on another platform, the outcomes are
the same. -/
theorem reap_own_ends {entries : List Entry} (hdistinct : (childrenOf entries).Nodup) :
    (∀ {σ : Type} {p : Platform σ} {table : σ → ProcessTable}, p.Tracks table →
      ∀ w : World σ, ∃ trace, Reaping p table entries w trace) ∧
    (∀ {t t₂ : ProcessTable} {trace : List ProcessEvent}, t.Steps trace t₂ →
      awaitedIn trace = childrenOf entries →
      ∃ earlier later, trace = earlier ++ later ∧ awaitedIn later = [] ∧
        Reaping Timeline.platform Timeline.table entries { state := ⟨t, trace⟩ } earlier) ∧
    ∀ {σ τ : Type} {p : Platform σ} {q : Platform τ} {table : σ → ProcessTable}
      {table' : τ → ProcessTable} {w : World σ} {w' : World τ} {trace trace' : List ProcessEvent},
      Reaping p table entries w trace → Reaping q table' entries w' trace' →
      (∀ child ∈ childrenOf entries, ∀ fate,
        (table w.state).Meets trace child fate ↔ (table' w'.state).Meets trace' child fate) →
      (reap q entries w').1 = (reap p entries w).1 := by
  refine ⟨?_, exists_timeline hdistinct, ?_⟩
  · intro σ p table hp w
    obtain ⟨trace, hreaps⟩ := exists_reaps hp entries w
    exact ⟨trace, hreaps.reaping hdistinct⟩
  · intro σ τ p q table table' w w' trace trace' h h' hsame
    exact outcomes_unique h.outcomes h'.outcomes h'.steps hsame

/-- Three children of which the last one ends first, killed by a signal, and the second one
leaves no word. -/
theorem reap_own_ends_mixed :
    ∃ trace, Reaping Timeline.platform Timeline.table
      [⟨0, "a", .ok 7⟩, ⟨1, "b", .error .emptyCommand⟩, ⟨2, "c", .ok 5⟩, ⟨3, "d", .ok 9⟩]
      { state := {
          table := fun _ => .running
          future := [.ended 9 (.known ⟨.killed 15, by decide⟩), .ended 5 (.lost (.os .ECHILD)),
            .ended 7 (.known ⟨.exited 3, by decide⟩)] } } trace :=
  (reap_own_ends (by decide)).1 Timeline.tracks _

end LineShell
