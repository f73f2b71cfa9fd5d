import Mathlib.Data.List.Nodup
import LineShell.Proofs.Layout
import LineShell.Proofs.Meaning
import LineShell.Proofs.Status

/-!
# The numbers of stages in reports

Where the launch of a stage fails, a report names the stage by a number. The number can be
read back from the text, whatever else the report says. A stage at fault goes by its position
counted from 1, and a stage for which the system refuses a process by its position counted
from 0, the number of the stage before it. So the reports of a line tell its failed stages
exactly if no process was refused, and a refusal looks like a failure of the stage before it,
which may have failed as well.

## Main definitions

* `stageNumber?` — the number in a report.
* `callsHandling` — the calls that a session makes to handle a line.
* `reportsIn`, `failedIn` — the reports among calls, and the stages whose launch failed.
* `NumbersStages` — the reports tell which stages failed.
* `Numbered` — which numbers the reports have.

## Main results

* `stageNumber?_faultReport`, `stageNumber?_spawn` — the numbers of the two kinds of reports.
* `handle_recorded` — writing the calls down changes nothing else.
* `exists_numbered` — the numbers in the reports of a line.
* `numbersStages_iff` — the reports tell which stages failed unless a process was refused.
-/

namespace LineShell

/-! ### Reading reports -/

/-- What follows in a text after the words that it begins with, if it begins with them. -/
def textAfter? (lead text : List Char) : Option (List Char) :=
  if lead <+: text then some (text.drop lead.length) else none

theorem textAfter?_append (lead rest : List Char) :
    textAfter? lead (lead ++ rest) = some rest := by
  simp [textAfter?]

/-- The number that a text begins with. -/
def leadingNumber (text : List Char) : Nat :=
  Nat.ofDigitChars 10 (text.takeWhile Char.isDigit) 0

/-- A number is read back if no further digit follows it. -/
theorem leadingNumber_append (n : Nat) {c : Char} (hc : c.isDigit = false) (rest : List Char) :
    leadingNumber ((toString n).toList ++ c :: rest) = n := by
  have hdigits : ∀ d ∈ Nat.toDigits 10 n, d.isDigit = true := fun d hd =>
    Nat.isDigit_of_mem_toDigits (by decide) (by decide) hd
  have hlist : (toString n).toList = Nat.toDigits 10 n := Nat.toList_repr
  rw [leadingNumber, hlist, List.takeWhile_append_of_pos hdigits, List.takeWhile_cons_of_neg,
    List.append_nil, Nat.ofDigitChars_toDigits (by decide) (by decide)]
  simp [hc]

/-- The number by which a report names a stage. It stands at the beginning, or in brackets
after the name of the program, in which there is no space. -/
def stageNumber? (report : String) : Option Nat :=
  match textAfter? "pipesh: stage ".toList report.toList with
  | some rest => some (leadingNumber rest)
  | none =>
    ((textAfter? "pipesh: cannot spawn ".toList report.toList).bind fun rest =>
      textAfter? " (stage ".toList (rest.dropWhile (· ≠ ' '))).map leadingNumber

/-- A fault is reported under the position of its stage counted from 1. -/
theorem stageNumber?_faultReport (index : Nat) (fault : StageFault) :
    stageNumber? ("pipesh: " ++ faultReport index fault ++ "\n") = some (index + 1) := by
  have htext : ("pipesh: " ++ faultReport index fault ++ "\n").toList =
      "pipesh: stage ".toList ++ ((toString (index + 1)).toList ++
        ':' :: ' ' :: (fault.message ++ "\n").toList) := by
    simp [faultReport]
  rw [stageNumber?, htext, textAfter?_append]
  exact congrArg some (leadingNumber_append _ (by decide) _)

theorem Abort.message_spawn (stage : Nat) (program : String) (cause : SystemError) :
    (Abort.spawn stage program cause).message =
      "cannot spawn `" ++ program ++ "` (stage " ++ toString stage ++ "): " ++ cause.message := rfl

/-- A refusal is reported under the position of its stage counted from 0. -/
theorem stageNumber?_spawn {program : String} (h : ' ' ∉ program.toList) (stage : Nat)
    (cause : SystemError) : stageNumber? ("pipesh: " ++
      (Abort.spawn stage program cause).message ++ "\n") = some stage := by
  have htext : ("pipesh: " ++ (Abort.spawn stage program cause).message ++ "\n").toList =
      "pipesh: cannot spawn ".toList ++ ('`' :: program.toList ++ ['`'] ++ (" (stage ".toList ++
        ((toString stage).toList ++ ')' :: (": " ++ cause.message ++ "\n").toList))) := by
    rw [Abort.message_spawn]
    simp
  have hfault (rest : List Char) : textAfter? "pipesh: stage ".toList
      ("pipesh: cannot spawn ".toList ++ rest) = none := by
    simp [textAfter?]
  -- the first space after the name of the program is the one before the brackets
  have hname : ∀ c ∈ '`' :: program.toList ++ ['`'], decide (c ≠ ' ') = true := by
    intro c hc
    rw [decide_eq_true_eq]
    rintro rfl
    simp [h] at hc
  have hspace (rest : List Char) : (" (stage ".toList ++ rest).dropWhile (· ≠ ' ') =
      " (stage ".toList ++ rest := by
    simp
  rw [stageNumber?, htext, hfault]
  simp only []
  rw [textAfter?_append, Option.bind_some, List.dropWhile_append_of_pos hname, hspace,
    textAfter?_append]
  exact congrArg some (leadingNumber_append _ (by decide) _)

/-- There is no space in the name of a program that stands on a line. -/
theorem space_notMem_program {line : List Char} {pipeline : Pipeline}
    (h : Pipeline.ofLine? line = some pipeline) {stage : Stage} (hstage : stage ∈ pipeline.stages) :
    ' ' ∉ (stage.program?.getD "").toList := by
  rcases hprogram : stage.program? with - | program
  · simp
  · have hword := (Pipeline.wellFormed_of_ofLine? h stage hstage).arguments program
      (List.mem_of_head? hprogram)
    intro hspace
    exact absurd (hword.2 ' ' hspace).1 (by decide)

/-! ### The calls of a line -/

section Calls

variable {σ τ : Type}

/-- A session sees its world through the operations only. -/
theorem Platform.Commutes.handle {F : World τ → World σ} {p : Platform τ} {q : Platform σ}
    (h : Platform.Commutes F p q) (line : String) (s : Session) (w : World τ) :
    s.handle q line (F w) =
      ((s.handle p line w).1, (s.handle p line w).2.1, F (s.handle p line w).2.2) := by
  simp only [Session.handle, Session.execute, h.warn]
  split
  · rfl
  split
  · rfl
  rcases Pipeline.ofLine? line.toList with - | pipeline
  · rfl
  · rcases hexecute : LineShell.execute p pipeline w with ⟨abort | report, after⟩ <;>
      simp only [h.execute, hexecute, h.warn]

/-- The calls that a session makes to its platform to handle a line, in order. They are read
off the same on the recorded platform, which by `handle_recorded` makes no other difference. -/
def callsHandling (p : Platform σ) (line : String) (s : Session) (w : World σ) :
    List PlatformCall :=
  (s.handle p.recorded line w.unrecorded).2.2.state.calls

/-- Writing the calls down changes nothing else. -/
theorem handle_recorded (p : Platform σ) (line : String) (s : Session) (w : World σ) :
    s.handle p line w =
      ((s.handle p.recorded line w.unrecorded).1, (s.handle p.recorded line w.unrecorded).2.1,
        (s.handle p.recorded line w.unrecorded).2.2.map Recorded.inner) :=
  p.recorded_mapsTo.commutes.handle line s w.unrecorded

/-- The call by which a pipeline is reported that was given up. -/
def abortCalls : Except Abort Report → List PlatformCall
  | .ok _ => []
  | .error abort => [.print .diagnostic ("pipesh: " ++ abort.message ++ "\n")]

/-- A line that is executed makes the calls of its pipeline, and one more if this is given
up. -/
theorem callsHandling_eq (p : Platform σ) {line : String} {pipeline : Pipeline} {s : Session}
    (w : World σ) (hother : ¬ isExit line = true) (hfits : line.utf8ByteSize ≤ s.maxLine)
    (hparses : Pipeline.ofLine? line.toList = some pipeline) :
    callsHandling p line s w =
      callsOf p pipeline w ++ abortCalls (execute p pipeline w).1 := by
  rw [callsHandling, s.handle_of_le p.recorded line w.unrecorded hother hfits, Session.execute,
    hparses, callsOf, execute_recorded p pipeline w]
  rcases hexecute : execute p.recorded pipeline w.unrecorded with ⟨abort | report, after⟩
  · simp only [hexecute, calls_warn, abortCalls]
  · simp only [hexecute, abortCalls, List.append_nil]

end Calls

/-! ### Reports and failures -/

/-- The text of a report. -/
def PlatformCall.report? : PlatformCall → Option String
  | .print .diagnostic text => some text
  | .print .standard _ | .launch _ _ | .wait _ _ => none

/-- The position of a stage whose launch fails. -/
def PlatformCall.failed? : PlatformCall → Option Nat
  | .launch plan (.error _) => some plan.index
  | .launch _ (.ok _) | .wait _ _ | .print _ _ => none

/-- The reports among calls. -/
def reportsIn (calls : List PlatformCall) : List String :=
  calls.filterMap PlatformCall.report?

/-- The positions of the stages whose launch fails, counted from 0. -/
def failedIn (calls : List PlatformCall) : List Nat :=
  calls.filterMap PlatformCall.failed?

/-- The reports among calls tell which stages failed. -/
structure NumbersStages (calls : List PlatformCall) : Prop where
  /-- There is one report for each launch that fails, in order, and its number is the position
  of the stage counted from 1. -/
  numbers : (reportsIn calls).map stageNumber? = (failedIn calls).map fun i => some (i + 1)
  /-- No number is given twice. -/
  distinct : ((reportsIn calls).map stageNumber?).Nodup

/-- Which numbers the reports among calls have: those of the stages at fault, and the one of the
stage for which a process was refused. -/
structure Numbered (calls : List PlatformCall) (faults : List Nat) (refused : Option Nat) :
    Prop where
  /-- The refusal is the last failure. -/
  failed : failedIn calls = faults ++ refused.toList
  /-- Only the stages at fault are counted from 1. -/
  numbers : (reportsIn calls).map stageNumber? =
    faults.map (fun i => some (i + 1)) ++ refused.toList.map some
  /-- No stage is at fault twice. -/
  nodup : faults.Nodup
  /-- These are the stages at fault. -/
  mem_faults : ∀ i, i ∈ faults ↔
    ∃ plan fault, plan.index = i ∧ .launch plan (.error (.stage fault)) ∈ calls
  /-- This is the stage whose process was refused. -/
  mem_refused : ∀ i, refused = some i ↔
    ∃ plan cause, plan.index = i ∧ .launch plan (.error (.refused cause)) ∈ calls

namespace Numbered

variable {calls : List PlatformCall} {faults : List Nat} {refused : Option Nat}
  (h : Numbered calls faults refused)

include h

theorem length_reportsIn : (reportsIn calls).length = (failedIn calls).length := by
  have hlength := congrArg List.length h.numbers
  simpa [h.failed] using hlength

theorem nodup_numbers : (faults.map fun i => some (i + 1)).Nodup := by
  refine List.Nodup.map (fun i j heq => ?_) h.nodup
  simpa using heq

/-- Without a refusal the reports tell which stages failed. -/
theorem numbersStages (hnone : refused = none) : NumbersStages calls := by
  have hnumbers : (reportsIn calls).map stageNumber? = faults.map fun i => some (i + 1) := by
    simp [h.numbers, hnone]
  refine ⟨by simp [hnumbers, h.failed, hnone], ?_⟩
  rw [hnumbers]
  exact h.nodup_numbers

/-- With a refusal they do not. -/
theorem not_numbersStages {k : Nat} (hsome : refused = some k) : ¬ NumbersStages calls := by
  intro hstages
  have hnumbers := hstages.numbers
  rw [h.numbers, h.failed, hsome] at hnumbers
  -- the last number should be one more
  simp at hnumbers

/-- A refusal is reported last, under the number of the stage before it. -/
theorem getLast?_reportsIn {k : Nat} (hsome : refused = some k) :
    (reportsIn calls).getLast?.bind stageNumber? = some k := by
  have hlast := congrArg List.getLast? h.numbers
  rw [List.getLast?_map, hsome] at hlast
  exact Option.bind_eq_some_iff.mpr (by simpa using hlast)

/-- Two reports have the same number exactly if the stage before a refusal is at fault. -/
theorem nodup_iff {k : Nat} (hsome : refused = some k) :
    ((reportsIn calls).map stageNumber?).Nodup ↔ ∀ i ∈ faults, i + 1 ≠ k := by
  rw [h.numbers, hsome, List.nodup_append]
  simp [h.nodup_numbers]

end Numbered

/-! ### The numbers in the reports of a line -/

/-- The position of the stage of a launch, if that came to a fault. -/
def faultAt? : Plan × LaunchResult → Option Nat
  | (plan, .error (.stage _)) => some plan.index
  | (_, .ok _) | (_, .error (.refused _)) => none

/-- The position of the stage of a launch, if it was refused. -/
def refusalAt? : Plan × LaunchResult → Option Nat
  | (plan, .error (.refused _)) => some plan.index
  | (_, .ok _) | (_, .error (.stage _)) => none

theorem mem_filterMap_faultAt? {launches : List (Plan × LaunchResult)} {i : Nat} :
    i ∈ launches.filterMap faultAt? ↔
      ∃ plan fault, plan.index = i ∧ (plan, .error (.stage fault)) ∈ launches := by
  rw [List.mem_filterMap]
  constructor
  · rintro ⟨⟨plan, (fault | cause) | child⟩, hmem, h⟩
    · exact ⟨plan, fault, Option.some.inj h, hmem⟩
    · cases h
    · cases h
  · rintro ⟨plan, fault, rfl, hmem⟩
    exact ⟨_, hmem, rfl⟩

theorem mem_filterMap_refusalAt? {launches : List (Plan × LaunchResult)} {i : Nat} :
    i ∈ launches.filterMap refusalAt? ↔
      ∃ plan cause, plan.index = i ∧ (plan, .error (.refused cause)) ∈ launches := by
  rw [List.mem_filterMap]
  constructor
  · rintro ⟨⟨plan, (fault | cause) | child⟩, hmem, h⟩
    · cases h
    · exact ⟨plan, cause, Option.some.inj h, hmem⟩
    · cases h
  · rintro ⟨plan, cause, rfl, hmem⟩
    exact ⟨_, hmem, rfl⟩

/-- The stages at fault are among those of the plans, in their order. -/
theorem filterMap_faultAt?_sublist (plans : List Plan) (results : List LaunchResult) :
    ((plans.zip results).filterMap faultAt?).Sublist (plans.map Plan.index) := by
  induction plans generalizing results with
  | nil => simp
  | cons plan plans ih =>
    rcases results with - | ⟨(fault | cause) | child, results⟩
    · simp
    · simpa [faultAt?] using ih results
    · simpa [List.filterMap_cons, faultAt?] using (ih results).cons plan.index
    · simpa [List.filterMap_cons, faultAt?] using (ih results).cons plan.index

section Equations

variable (plan : Plan) (fault : StageFault) (cause : SystemError) (child : ProcessId)

theorem launchCalls_stage : launchCalls plan (.error (.stage fault)) =
    [.launch plan (.error (.stage fault)),
      .print .diagnostic ("pipesh: " ++ faultReport plan.index fault ++ "\n")] := rfl

theorem launchCalls_refused : launchCalls plan (.error (.refused cause)) =
    [.launch plan (.error (.refused cause))] := rfl

theorem launchCalls_ok : launchCalls plan (.ok child) = [.launch plan (.ok child)] := rfl

end Equations

theorem launch_mem_launchCalls {plan other : Plan} {result answer : LaunchResult} :
    .launch plan result ∈ launchCalls other answer ↔ plan = other ∧ result = answer := by
  rcases answer with (fault | cause) | child
  · simp [launchCalls_stage]
  · simp [launchCalls_refused]
  · simp [launchCalls_ok]

/-- The numbers in the reports of a launch loop are those of the stages at fault. -/
theorem numbers_launchCalls (launches : List (Plan × LaunchResult)) :
    (reportsIn (launches.flatMap fun x => launchCalls x.1 x.2)).map stageNumber? =
      (launches.filterMap faultAt?).map fun i => some (i + 1) := by
  induction launches with
  | nil => rfl
  | cons x launches ih =>
    rw [List.flatMap_cons, reportsIn, List.filterMap_append, List.map_append]
    rw [reportsIn] at ih
    rw [ih]
    rcases x with ⟨plan, (fault | cause) | child⟩
    · simp [launchCalls_stage, List.filterMap_cons, PlatformCall.report?, faultAt?,
        stageNumber?_faultReport]
    · simp [launchCalls_refused, List.filterMap_cons, PlatformCall.report?, faultAt?]
    · simp [launchCalls_ok, List.filterMap_cons, PlatformCall.report?, faultAt?]

section LastRefusal

variable {launches : List (Plan × LaunchResult)}
  (hlast : ∀ i plan cause, launches[i]? = some (plan, .error (.refused cause)) →
    launches.length = i + 1)

include hlast

/-- If a refusal ends the loop, it is the last failure. -/
theorem failedIn_launchCalls : failedIn (launches.flatMap fun x => launchCalls x.1 x.2) =
    launches.filterMap faultAt? ++ launches.filterMap refusalAt? := by
  induction launches with
  | nil => rfl
  | cons x launches ih =>
    have hrest := ih fun i plan cause h => Nat.succ.inj (hlast (i + 1) plan cause h)
    rw [List.flatMap_cons, failedIn, List.filterMap_append]
    rw [failedIn] at hrest
    rw [hrest]
    rcases x with ⟨plan, (fault | cause) | child⟩
    · simp [launchCalls_stage, PlatformCall.failed?, List.filterMap_cons, faultAt?, refusalAt?]
    · obtain rfl : launches = [] :=
        List.length_eq_zero_iff.mp (Nat.succ.inj (hlast 0 plan cause rfl))
      rfl
    · simp [launchCalls_ok, PlatformCall.failed?, List.filterMap_cons, faultAt?, refusalAt?]

/-- There is no other refusal. -/
theorem filterMap_refusalAt? {k : Nat} {plan : Plan} {cause : SystemError}
    (h : launches[k]? = some (plan, .error (.refused cause))) :
    launches.filterMap refusalAt? = [plan.index] := by
  induction launches generalizing k with
  | nil => simp at h
  | cons x launches ih =>
    cases k with
    | zero =>
      obtain rfl : x = (plan, .error (.refused cause)) := by simpa using h
      obtain rfl : launches = [] :=
        List.length_eq_zero_iff.mp (Nat.succ.inj (hlast 0 plan cause rfl))
      rfl
    | succ k =>
      have hrest := ih (fun i plan cause h => Nat.succ.inj (hlast (i + 1) plan cause h)) h
      rcases x with ⟨first, (fault | other) | child⟩
      · simpa [List.filterMap_cons, refusalAt?] using hrest
      · -- a refusal at the first position would be the last one
        have hlength := hlast 0 first other rfl
        have hk := (List.getElem?_eq_some_iff.mp h).1
        simp at hlength hk
        simp [hlength] at hk
      · simpa [List.filterMap_cons, refusalAt?] using hrest

end LastRefusal

section CallsFor

variable (plans : List Plan) (results : List LaunchResult)
  (ended : Nat → Except SystemError WaitStatus)

/-- Waits are neither reports nor failures. -/
theorem filterMap_callsFor {α : Type} {f : PlatformCall → Option α}
    (hf : ∀ child answer, f (.wait child answer) = none) :
    (callsFor plans results ended).filterMap f =
      ((plans.zip results).flatMap fun x => launchCalls x.1 x.2).filterMap f := by
  have hwaits : ((plans.zip results).filterMap fun x =>
      waitCall? (ended x.1.index) x.2).filterMap f = [] := by
    rw [List.filterMap_eq_nil_iff]
    intro call hcall
    obtain ⟨⟨plan, failure | child⟩, -, h⟩ := List.mem_filterMap.mp hcall
    · cases h
    · cases h
      exact hf _ _
  rw [callsFor, List.filterMap_append, hwaits, List.append_nil]

variable {plans results ended}

theorem launch_mem_callsFor {plan : Plan} {result : LaunchResult} :
    .launch plan result ∈ callsFor plans results ended ↔ (plan, result) ∈ plans.zip results := by
  simp only [callsFor, List.mem_append, List.mem_flatMap, launch_mem_launchCalls,
    List.mem_filterMap]
  constructor
  · rintro (⟨⟨other, answer⟩, hmem, rfl, rfl⟩ | ⟨⟨other, failure | child⟩, -, hcall⟩)
    · exact hmem
    · cases hcall
    · cases hcall
  · intro hmem
    exact .inl ⟨(plan, result), hmem, rfl, rfl⟩

end CallsFor

/-- In a course of launches nothing comes after a refusal. -/
theorem length_zip_of_refused {pipeline : Pipeline} {results : List LaunchResult}
    (hcourse : IsCourse pipeline.length results) (i : Nat) (plan : Plan) (cause : SystemError)
    (h : (pipeline.plans.zip results)[i]? = some (plan, .error (.refused cause))) :
    (pipeline.plans.zip results).length = i + 1 := by
  have hresult := (List.getElem?_zip_eq_some.mp h).2
  rw [List.length_zip, Pipeline.length_plans, Nat.min_eq_right hcourse.length_le]
  exact hcourse.refused_last i cause hresult

/-- That a pipeline is given up is a report and no launch. -/
theorem failedIn_append_abortCalls (calls : List PlatformCall) (outcome : Except Abort Report) :
    failedIn (calls ++ abortCalls outcome) = failedIn calls := by
  cases outcome <;> simp [failedIn, abortCalls, List.filterMap_cons, PlatformCall.failed?]

theorem launch_mem_append_abortCalls {calls : List PlatformCall} {outcome : Except Abort Report}
    {plan : Plan} {result : LaunchResult} :
    .launch plan result ∈ calls ++ abortCalls outcome ↔ .launch plan result ∈ calls := by
  cases outcome <;> simp [abortCalls]

/-- The numbers in the reports of a pipeline are those of its stages at fault, and then the one
that is given to a refusal. -/
theorem numbered_of_course {pipeline : Pipeline} {results : List LaunchResult}
    {ended : Nat → Except SystemError WaitStatus} {outcome : Except Abort Report}
    {refused : Option Nat} (hcourse : IsCourse pipeline.length results)
    (hrefused : (pipeline.plans.zip results).filterMap refusalAt? = refused.toList)
    (habort : (reportsIn (abortCalls outcome)).map stageNumber? = refused.toList.map some) :
    Numbered (callsFor pipeline.plans results ended ++ abortCalls outcome)
      ((pipeline.plans.zip results).filterMap faultAt?) refused where
  failed := by
    rw [failedIn_append_abortCalls, ← hrefused, failedIn,
      filterMap_callsFor _ _ _ fun _ _ => rfl, ← failedIn,
      failedIn_launchCalls (length_zip_of_refused hcourse)]
  numbers := by
    -- the report of a refusal comes after those of the launch loop
    rw [reportsIn, List.filterMap_append, List.map_append, ← reportsIn, ← reportsIn, habort,
      ← numbers_launchCalls, reportsIn, reportsIn, filterMap_callsFor _ _ _ fun _ _ => rfl]
  nodup := (filterMap_faultAt?_sublist _ _).nodup pipeline.nodup_index_plans
  mem_faults i := by
    simp only [launch_mem_append_abortCalls, launch_mem_callsFor]
    exact mem_filterMap_faultAt?
  mem_refused i := by
    simp only [launch_mem_append_abortCalls, launch_mem_callsFor]
    rw [← mem_filterMap_refusalAt?, hrefused, Option.mem_toList]

section Handling

variable {σ : Type} (p : Platform σ) {line : String} {pipeline : Pipeline} {s : Session}
  {w : World σ} {pipes : List Pipe} (hother : ¬ isExit line = true)
  (hfits : line.utf8ByteSize ≤ s.maxLine) (hparses : Pipeline.ofLine? line.toList = some pipeline)
  (hpipes : (w.openPipes pipeline.pipeCount).1 = .ok pipes)

include hother hfits hparses hpipes

/-- The stages at fault and the refusal give the reports of a line their numbers. -/
theorem exists_numbered :
    ∃ faults refused, Numbered (callsHandling p line s w) faults refused := by
  obtain ⟨results, ended, hcourse, hcalls, hmeant⟩ := exists_called p pipeline hpipes
  rw [callsHandling_eq p w hother hfits hparses, hcalls]
  generalize (execute p pipeline w).1 = outcome at hmeant ⊢
  cases hmeant with
  | reported hnone =>
    refine ⟨_, none, numbered_of_course hcourse ?_ rfl⟩
    rw [Option.toList_none, List.filterMap_eq_nil_iff]
    rintro ⟨plan, (fault | cause) | child⟩ hmem
    · rfl
    · exact absurd (List.of_mem_zip hmem).2 (hnone cause)
    · rfl
  | @refused k stage cause hstage hresult =>
    obtain ⟨plan, hplan⟩ := Pipeline.exists_plan hstage
    have hlaunch : (pipeline.plans.zip results)[k]? = some (plan, .error (.refused cause)) :=
      List.getElem?_zip_eq_some.mpr ⟨hplan, hresult⟩
    refine ⟨_, some k, numbered_of_course hcourse ?_ ?_⟩
    · rw [filterMap_refusalAt? (length_zip_of_refused hcourse) hlaunch,
        Pipeline.index_of_getElem? hplan, Option.toList_some]
    · have hname := space_notMem_program hparses (List.mem_of_getElem? hstage)
      simp [reportsIn, abortCalls, PlatformCall.report?, stageNumber?_spawn hname]

/-- **The reports of a line tell which of its stages failed**, by their positions counted from
1, exactly if the system refused none of them a process. A refusal is reported under the
number of the stage before it, and is taken for another failure of that stage if it failed,
too. -/
theorem numbersStages_iff :
    (reportsIn (callsHandling p line s w)).length =
        (failedIn (callsHandling p line s w)).length ∧
      (NumbersStages (callsHandling p line s w) ↔
        ∀ plan cause, .launch plan (.error (.refused cause)) ∉ callsHandling p line s w) ∧
      ∀ plan cause, .launch plan (.error (.refused cause)) ∈ callsHandling p line s w →
        (reportsIn (callsHandling p line s w)).getLast?.bind stageNumber? = some plan.index ∧
          (((reportsIn (callsHandling p line s w)).map stageNumber?).Nodup ↔
            ∀ other fault, .launch other (.error (.stage fault)) ∈ callsHandling p line s w →
              other.index + 1 ≠ plan.index) := by
  obtain ⟨faults, refused, h⟩ := exists_numbered p hother hfits hparses hpipes
  refine ⟨h.length_reportsIn, ⟨fun hstages plan cause hmem => ?_, fun hnone => ?_⟩,
    fun plan cause hmem => ?_⟩
  · exact h.not_numbersStages ((h.mem_refused _).mpr ⟨plan, cause, rfl, hmem⟩) hstages
  · refine h.numbersStages (Option.eq_none_iff_forall_ne_some.mpr fun i hsome => ?_)
    obtain ⟨plan, cause, -, hmem⟩ := (h.mem_refused i).mp hsome
    exact hnone plan cause hmem
  · have hsome := (h.mem_refused plan.index).mpr ⟨plan, cause, rfl, hmem⟩
    refine ⟨h.getLast?_reportsIn hsome, (h.nodup_iff hsome).trans ⟨?_, ?_⟩⟩
    · intro hfaults other fault hfault
      exact hfaults other.index ((h.mem_faults _).mpr ⟨other, fault, rfl, hfault⟩)
    · intro hother i hi
      obtain ⟨other, fault, rfl, hfault⟩ := (h.mem_faults i).mp hi
      exact hother other fault hfault

end Handling

/-- Two of three stages are at fault, and no process is refused. -/
theorem numbersStages_iff_faults :
    let w : World Rehearsal := { state := { script := [.fails (.stage (.notFound "a")),
      .child (.known (.exited 0)), .fails (.stage .emptyCommand)] } }
    let calls := callsHandling Rehearsal.platform "a | b | " {} w
    ∃ pipeline pipes, ¬ isExit "a | b | " = true ∧
      "a | b | ".utf8ByteSize ≤ ({} : Session).maxLine ∧
      Pipeline.ofLine? "a | b | ".toList = some pipeline ∧
      (w.openPipes pipeline.pipeCount).1 = .ok pipes ∧
      (reportsIn calls).map stageNumber? = [some 1, some 3] ∧ NumbersStages calls ∧
      ∀ plan cause, .launch plan (.error (.refused cause)) ∉ calls := by
  intro w calls
  have hother : ¬ isExit "a | b | " = true := by decide +kernel
  have hfits : "a | b | ".utf8ByteSize ≤ ({} : Session).maxLine := by decide +kernel
  obtain ⟨pipeline, hparses, hcount⟩ : ∃ pipeline, Pipeline.ofLine? "a | b | ".toList =
      some pipeline ∧ pipeline.pipeCount = 2 := ⟨_, rfl, rfl⟩
  have hpipes : (w.openPipes pipeline.pipeCount).1 = .ok (numberedPipes 2) := by
    rw [hcount]
    rfl
  have hstages : NumbersStages calls := ⟨by decide +kernel, by decide +kernel⟩
  obtain ⟨-, hiff, -⟩ := numbersStages_iff Rehearsal.platform hother hfits hparses hpipes
  exact ⟨pipeline, _, hother, hfits, hparses, hpipes, by decide +kernel, hstages, hiff.mp hstages⟩

/-- The first of two stages is at fault, and for the second one there is no process. Both are
reported as the first. -/
theorem not_numbersStages_refused :
    let w : World Rehearsal := { state := { script := [.fails (.stage (.notFound "a")),
      .fails (.refused (.os ⟨11⟩))] } }
    reportsIn (callsHandling Rehearsal.platform "a | b" {} w) =
        ["pipesh: stage 1: a: command not found\n",
          "pipesh: cannot spawn `b` (stage 1): " ++
            "Resource temporarily unavailable (os error 11)\n"] ∧
      failedIn (callsHandling Rehearsal.platform "a | b" {} w) = [0, 1] ∧
      ¬ NumbersStages (callsHandling Rehearsal.platform "a | b" {} w) := by
  intro w
  have hreports : reportsIn (callsHandling Rehearsal.platform "a | b" {} w) =
      ["pipesh: stage 1: a: command not found\n", "pipesh: cannot spawn `b` (stage 1): " ++
        "Resource temporarily unavailable (os error 11)\n"] := by
    decide +kernel
  refine ⟨hreports, by decide +kernel, fun h => ?_⟩
  have hdistinct := h.distinct
  rw [hreports] at hdistinct
  exact absurd hdistinct (by decide +kernel)

end LineShell
