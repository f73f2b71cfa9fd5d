import LineShell.Process
import Mathlib.Data.List.Basic

/-!
# The table of the processes

The system keeps a process that has ended until someone waits for it.  Children end
whenever they like, so what happens to them is a sequence of events in which the ends of
children and the waits of the shell are mixed.  Whatever the order is, the first thing
that is learnt of a child is how it ended: its end happens once, and it is forgotten only
by the wait that tells it.

## Main definitions

* `Fate` — what a wait for a child tells of it.
* `Standing`, `ProcessTable` — which processes have ended.
* `ProcessEvent`, `ProcessTable.Steps` — the ends and the waits, in any order.
* `ProcessTable.Meets` — how a child ends.

## Main results

* `Steps.eq_or` — a process that nobody waits for stays as it is, or it ends.
* `Steps.meets_of_waited` — the first wait for a process tells how it ended.
* `Steps.meets_unique` — a process ends in one way.
-/

namespace LineShell

/-! ### How a child ends -/

/-- The word of a process that has ended. The word of a stopped one is none. -/
structure Termination where
  /-- The word. -/
  word : WaitStatus
  /-- It holds an exit code or a signal. -/
  ended : word.exitCode?.isSome ∨ word.signal?.isSome

/-- What a wait tells of a child. -/
inductive Fate where
  /-- The child has ended, and the word says how. -/
  | known (status : Termination)
  /-- There is no word of the child, and a wait for it fails. -/
  | lost (cause : SystemError)

namespace Fate

/-- The answer to a wait. -/
def answer : Fate → Except SystemError WaitStatus
  | .known t => .ok t.word
  | .lost cause => .error cause

/-- What the next wait tells: no word is told twice. -/
def spent : Fate → Fate
  | .known _ => .lost (.os .ECHILD)
  | .lost cause => .lost cause

end Fate

/-- How a process stands with the system. -/
inductive Standing where
  /-- It has not ended. -/
  | running
  /-- It has ended. Its word, if there is one, is kept for the first one who waits. -/
  | ended (fate : Fate)

/-- Whether a process runs or its word is kept. -/
def Standing.isLeft : Standing → Bool
  | .running | .ended (.known _) => true
  | .ended (.lost _) => false

@[simp] theorem Standing.isLeft_spent (fate : Fate) :
    (Standing.ended fate.spent).isLeft = false := by
  cases fate <;> rfl

/-- How each process stands. -/
abbrev ProcessTable := ProcessId → Standing

/-! ### Ends and waits -/

/-- Something that happens to a process. -/
inductive ProcessEvent where
  /-- It ends. -/
  | ended (child : ProcessId) (fate : Fate)
  /-- A wait for it returns. -/
  | waited (child : ProcessId) (fate : Fate)

/-- The process that is waited for in an event. -/
def ProcessEvent.awaited? : ProcessEvent → Option ProcessId
  | .ended _ _ => none
  | .waited child _ => some child

/-- The processes that are waited for, in order. -/
def awaitedIn (trace : List ProcessEvent) : List ProcessId :=
  trace.filterMap ProcessEvent.awaited?

section AwaitedIn

variable (child : ProcessId) (fate : Fate) (trace : List ProcessEvent)

@[simp] theorem awaitedIn_nil : awaitedIn [] = [] := rfl

@[simp] theorem awaitedIn_cons_ended :
    awaitedIn (.ended child fate :: trace) = awaitedIn trace := rfl

@[simp] theorem awaitedIn_cons_waited :
    awaitedIn (.waited child fate :: trace) = child :: awaitedIn trace := rfl

@[simp] theorem awaitedIn_append (later : List ProcessEvent) :
    awaitedIn (trace ++ later) = awaitedIn trace ++ awaitedIn later :=
  List.filterMap_append

end AwaitedIn

namespace ProcessTable

/-- What an event makes of the table. Only a running process ends, and a wait returns only
when the process has ended. -/
inductive Step : ProcessTable → ProcessEvent → ProcessTable → Prop
  | ended {t : ProcessTable} {child : ProcessId} (fate : Fate) (running : t child = .running) :
      Step t (.ended child fate) (Function.update t child (.ended fate))
  | waited {t : ProcessTable} {child : ProcessId} {fate : Fate} (ended : t child = .ended fate) :
      Step t (.waited child fate) (Function.update t child (.ended fate.spent))

/-- What one event after the other makes of the table. -/
inductive Steps : ProcessTable → List ProcessEvent → ProcessTable → Prop
  | nil (t : ProcessTable) : Steps t [] t
  | cons {t t₁ t₂ : ProcessTable} {event : ProcessEvent} {trace : List ProcessEvent}
      (step : Step t event t₁) (rest : Steps t₁ trace t₂) : Steps t (event :: trace) t₂

/-- A child has ended in some way already, or it is running and ends so in the events. -/
def Meets (t : ProcessTable) (trace : List ProcessEvent) (child : ProcessId) (fate : Fate) :
    Prop :=
  t child = .ended fate ∨ t child = .running ∧ .ended child fate ∈ trace

variable {t t₁ t₂ : ProcessTable} {trace later : List ProcessEvent} {event : ProcessEvent}
  {child : ProcessId} {fate : Fate}

theorem Steps.append (h₁ : Steps t trace t₁) (h₂ : Steps t₁ later t₂) :
    Steps t (trace ++ later) t₂ := by
  induction h₁ with
  | nil => exact h₂
  | cons step _ ih => exact .cons step (ih h₂)

/-- What was appended can be taken apart. -/
theorem Steps.exists_middle (h : Steps t (trace ++ later) t₂) :
    ∃ t₁, Steps t trace t₁ ∧ Steps t₁ later t₂ := by
  induction trace generalizing t with
  | nil => exact ⟨t, .nil t, h⟩
  | cons event trace ih =>
    cases h with
    | cons step rest =>
      obtain ⟨t₁, hfirst, hlater⟩ := ih rest
      exact ⟨t₁, .cons step hfirst, hlater⟩

/-! ### One process among the others -/

/-- An event that is not about a process leaves it alone. -/
theorem Step.eq_or (h : Step t event t₁) (hwait : event.awaited? ≠ some child) :
    t₁ child = t child ∨
      ∃ fate, event = .ended child fate ∧ t child = .running ∧ t₁ child = .ended fate := by
  cases h with
  | @ended other fate running =>
    by_cases hother : child = other
    · subst hother
      exact Or.inr ⟨fate, rfl, running, Function.update_self ..⟩
    · exact Or.inl (Function.update_of_ne hother ..)
  | @waited other fate ended =>
    have hother : child ≠ other := fun heq => hwait (congrArg some heq.symm)
    exact Or.inl (Function.update_of_ne hother ..)

/-- A process that has ended never runs again. -/
theorem Step.ended_of_ended (h : Step t event t₁) (hended : t child = .ended fate) :
    ∃ fate', t₁ child = .ended fate' := by
  cases h with
  | @ended other fate' running =>
    have hother : child ≠ other := fun heq => by
      rw [heq, running] at hended
      cases hended
    exact ⟨fate, (Function.update_of_ne hother ..).trans hended⟩
  | @waited other fate' ended =>
    by_cases hother : child = other
    · exact ⟨fate'.spent, by rw [hother, Function.update_self]⟩
    · exact ⟨fate, (Function.update_of_ne hother ..).trans hended⟩

/-- A process that has ended does not end again. -/
theorem Steps.ended_notMem (h : Steps t trace t₂) (hended : t child = .ended fate) (fate' : Fate) :
    .ended child fate' ∉ trace := by
  induction h generalizing fate with
  | nil => exact List.not_mem_nil
  | cons step rest ih =>
    obtain ⟨fate₁, hended₁⟩ := step.ended_of_ended hended
    rw [List.mem_cons, not_or]
    refine ⟨?_, ih hended₁⟩
    rintro rfl
    cases step with
    | ended _ running =>
      rw [hended] at running
      cases running

/-- A process that nobody waits for stays as it is, or it runs and then ends. -/
theorem Steps.eq_or (h : Steps t trace t₂) (hwait : child ∉ awaitedIn trace) :
    t₂ child = t child ∨
      ∃ fate, t child = .running ∧ .ended child fate ∈ trace ∧ t₂ child = .ended fate := by
  induction h with
  | nil => exact Or.inl rfl
  | @cons t t₁ t₂ event trace step rest ih =>
    have hfirst : event.awaited? ≠ some child := by
      intro heq
      refine hwait ?_
      rw [awaitedIn, List.filterMap_cons_some heq]
      exact List.mem_cons_self
    have hrest : child ∉ awaitedIn trace := by
      intro hmem
      refine hwait ?_
      cases event with
      | ended other fate => exact hmem
      | waited other fate => exact List.mem_cons_of_mem _ hmem
    rcases step.eq_or hfirst with hsame | ⟨fate, rfl, hrunning, hended⟩
    · rw [← hsame]
      rcases ih hrest with hsame' | ⟨fate, hrunning, hmem, hended⟩
      · exact Or.inl hsame'
      · exact Or.inr ⟨fate, hrunning, List.mem_cons_of_mem _ hmem, hended⟩
    · -- from now on the process has ended, so it does not end again
      rcases ih hrest with hsame' | ⟨fate', hrunning', -, -⟩
      · exact Or.inr ⟨fate, hrunning, List.mem_cons_self, hsame'.trans hended⟩
      · rw [hended] at hrunning'
        cases hrunning'

/-- A process that has ended, and that nobody waits for, stays as it is. -/
theorem Steps.eq_of_ended (h : Steps t trace t₂) (hwait : child ∉ awaitedIn trace)
    (hended : t child = .ended fate) : t₂ child = .ended fate := by
  rcases h.eq_or hwait with hsame | ⟨_, hrunning, -, -⟩
  · exact hsame.trans hended
  · rw [hended] at hrunning
    cases hrunning

/-! ### The end of a process -/

/-- A process that has ended before anyone waited for it met its end. -/
theorem Steps.meets_of_ended (h : Steps t trace t₂) (hwait : child ∉ awaitedIn trace)
    (hended : t₂ child = .ended fate) (later : List ProcessEvent) :
    Meets t (trace ++ later) child fate := by
  rcases h.eq_or hwait with hsame | ⟨fate', hrunning, hmem, hended'⟩
  · exact Or.inl (hsame.symm.trans hended)
  · obtain rfl : fate' = fate := by simpa using hended'.symm.trans hended
    exact Or.inr ⟨hrunning, List.mem_append_left _ hmem⟩

/-- The first wait for a process tells how it ended. -/
theorem Steps.meets_of_waited (h : Steps t (trace ++ [.waited child fate]) t₂)
    (hwait : child ∉ awaitedIn trace) (later : List ProcessEvent) :
    Meets t (trace ++ later) child fate := by
  obtain ⟨t₁, hbefore, hwaited⟩ := h.exists_middle
  cases hwaited with
  | cons step _ =>
    cases step with
    | waited ended => exact hbefore.meets_of_ended hwait ended later

/-- After a wait nothing is left of a process. -/
theorem Steps.ended_of_waited (h : Steps t (trace ++ [.waited child fate]) t₂) :
    t₂ child = .ended fate.spent := by
  obtain ⟨t₁, -, hwaited⟩ := h.exists_middle
  cases hwaited with
  | cons step rest =>
    cases rest
    cases step
    exact Function.update_self ..

/-- A process that runs ends at most once. -/
theorem Steps.ended_unique (h : Steps t trace t₂) {fate₁ fate₂ : Fate}
    (h₁ : .ended child fate₁ ∈ trace) (h₂ : .ended child fate₂ ∈ trace) : fate₁ = fate₂ := by
  induction h with
  | nil => exact absurd h₁ List.not_mem_nil
  | @cons t t₁ t₂ event trace step rest ih =>
    -- after the event that is its end, there is no other one
    have hlater : ∀ fate, event = .ended child fate → ∀ fate', .ended child fate' ∉ trace := by
      rintro fate rfl
      cases step with
      | ended _ running => exact rest.ended_notMem (Function.update_self ..)
    rcases List.mem_cons.mp h₁ with hfirst₁ | hrest₁ <;>
      rcases List.mem_cons.mp h₂ with hfirst₂ | hrest₂
    · rw [← hfirst₁] at hfirst₂
      cases hfirst₂
      rfl
    · exact absurd hrest₂ (hlater _ hfirst₁.symm _)
    · exact absurd hrest₁ (hlater _ hfirst₂.symm _)
    · exact ih hrest₁ hrest₂

/-- A process ends in one way. -/
theorem Steps.meets_unique (h : Steps t trace t₂) {fate₁ fate₂ : Fate}
    (h₁ : Meets t trace child fate₁) (h₂ : Meets t trace child fate₂) : fate₁ = fate₂ := by
  rcases h₁ with h₁ | ⟨hrunning₁, h₁⟩ <;> rcases h₂ with h₂ | ⟨hrunning₂, h₂⟩
  · simpa using h₁.symm.trans h₂
  · simp [h₁] at hrunning₂
  · simp [h₂] at hrunning₁
  · exact h.ended_unique h₁ h₂

end ProcessTable

end LineShell
