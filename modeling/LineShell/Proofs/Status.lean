import LineShell.Proofs.Ownership
import LineShell.Session

/-!
# The status of a session

A session is handed lines in two ways: as the read loop does, or to be executed
whatever they say.  The two differ in what they make of `exit`, of a line that is too
long and of a pipeline that is given up, but both set the status of the session or
leave it alone, and so after any calls it is the one that was set last.

## Main definitions

* `Handled`, `Executed` — what one call does, by the kind of its line.
* `LineCall`, `runCalls` — calls in any order.
* `LineCall.sets?`, `setsAlong` — the statuses that are set.

## Main results

* `isExit_iff` — which lines say `exit`.
* `Session.handled`, `Session.executed` — the laws of one call.
* `session_status` — the laws of one call, and the status after any calls.
* `runCalls_keeps` — what executions and diagnostics keep, any calls keep.
* `idle_runCalls` — no descriptor and no child is left after any calls.
-/

namespace LineShell

variable {σ : Type}

/-! ### Lines that are not executed -/

/-- What is left of a text without the spaces at its ends is the word `exit` when there
are spaces only around it. -/
theorem trimSpace_eq_exit_iff {text : List Char} : trimSpace text = ['e', 'x', 'i', 't'] ↔
    ∃ before after : List Char, (∀ c ∈ before, isSpace c = true) ∧
      (∀ c ∈ after, isSpace c = true) ∧ text = before ++ (['e', 'x', 'i', 't'] ++ after) := by
  rw [trimSpace]
  constructor
  · intro h
    let core := text.dropWhile isSpace
    -- the spaces at the end are those that the reversed text begins with
    have hcore : core = ['e', 'x', 'i', 't'] ++ (core.reverse.takeWhile isSpace).reverse := by
      rw [← h, ← List.reverse_append, List.takeWhile_append_dropWhile, List.reverse_reverse]
    refine ⟨text.takeWhile isSpace, (core.reverse.takeWhile isSpace).reverse, ?_, ?_, ?_⟩
    · exact List.all_eq_true.mp List.all_takeWhile
    · intro c hc
      exact List.all_eq_true.mp List.all_takeWhile c (List.mem_reverse.mp hc)
    · rw [← hcore, List.takeWhile_append_dropWhile]
  · rintro ⟨before, after, hbefore, hafter, rfl⟩
    have hfirst : isSpace 'e' = false := by decide
    have hlast : isSpace 't' = false := by decide
    have hreverse : ∀ c ∈ after.reverse, isSpace c = true := fun c hc =>
      hafter c (List.mem_reverse.mp hc)
    have hleft : (before ++ (['e', 'x', 'i', 't'] ++ after)).dropWhile isSpace =
        ['e', 'x', 'i', 't'] ++ after := by
      rw [List.dropWhile_append_of_pos hbefore]
      simp [hfirst]
    rw [hleft, List.reverse_append, List.dropWhile_append_of_pos hreverse]
    simp [hlast]

/-- A line says `exit` when nothing but spaces stand around that word. -/
theorem isExit_iff {line : String} : isExit line = true ↔ ∃ before after : List Char,
    (∀ c ∈ before, isSpace c = true) ∧ (∀ c ∈ after, isSpace c = true) ∧
      line.toList = before ++ (['e', 'x', 'i', 't'] ++ after) := by
  rw [isExit, decide_eq_true_eq, trimSpace_eq_exit_iff]

/-- A line without pipeline is one of blanks only. -/
theorem Pipeline.ofLine?_eq_none_iff {line : List Char} :
    ofLine? line = none ↔ line.all isBlank = true := by
  rw [ofLine?, Reading.ofLine, ofStages?]
  split
  · next h => simp [h]
  · next h =>
    have hne := segments_ne_nil line
    simp [h, hne]

/-- Every other line has a pipeline. -/
theorem Pipeline.exists_ofLine? {line : List Char} (h : ¬ line.all isBlank = true) :
    ∃ pipeline, ofLine? line = some pipeline :=
  Option.ne_none_iff_exists'.mp fun hnone => h (ofLine?_eq_none_iff.mp hnone)

/-! ### One call -/

/-- What handling a line does, by the kind of the line. -/
structure Handled (p : Platform σ) (line : String) (s : Session) (w : World σ) : Prop where
  /-- The session ends exactly at `exit`, whatever the length of the line. -/
  leave_iff : (s.handle p line w).1 = .leave ↔ ∃ before after : List Char,
    (∀ c ∈ before, isSpace c = true) ∧ (∀ c ∈ after, isSpace c = true) ∧
      line.toList = before ++ (['e', 'x', 'i', 't'] ++ after)
  /-- Then nothing happens. -/
  leave : (s.handle p line w).1 = .leave → s.handle p line w = (.leave, s, w)
  /-- A line of too many bytes sets 1, and only that is reported. -/
  overlong : (s.handle p line w).1 ≠ .leave → s.maxLine < line.utf8ByteSize →
    s.handle p line w = (.proceed, { s with lastStatus := 1 },
      w.warn p (Session.overlongReport line.utf8ByteSize s.maxLine))
  /-- At any other line of blanks nothing happens. -/
  blank : (s.handle p line w).1 ≠ .leave → line.utf8ByteSize ≤ s.maxLine →
    line.toList.all isBlank = true → s.handle p line w = (.proceed, s, w)
  /-- Every other line is executed, and its report or its failure sets the status. -/
  executed : (s.handle p line w).1 ≠ .leave → line.utf8ByteSize ≤ s.maxLine →
    ¬ line.toList.all isBlank = true →
    ∃ pipeline, Pipeline.ofLine? line.toList = some pipeline ∧
      (∀ report after, execute p pipeline w = (.ok report, after) →
        s.handle p line w = (.proceed, { s with lastStatus := report.lastStatus }, after)) ∧
      ∀ abort after, execute p pipeline w = (.error abort, after) →
        s.handle p line w = (.proceed, { s with lastStatus := 1 }, after.warn p abort.message)

/-- What executing a line does, by the kind of the line. -/
structure Executed (p : Platform σ) (line : String) (s : Session) (w : World σ) : Prop where
  /-- At a line of blanks nothing happens. -/
  blank : line.toList.all isBlank = true → s.execute p line w = (.ok none, s, w)
  /-- Every other line is executed, whatever it says and however long it is, and only
  a report sets the status. -/
  executed : ¬ line.toList.all isBlank = true →
    ∃ pipeline, Pipeline.ofLine? line.toList = some pipeline ∧
      (∀ report after, execute p pipeline w = (.ok report, after) →
        s.execute p line w =
          (.ok (some report), { s with lastStatus := report.lastStatus }, after)) ∧
      ∀ abort after, execute p pipeline w = (.error abort, after) →
        s.execute p line w = (.error abort, s, after)

namespace Session

variable (p : Platform σ) (line : String) (s : Session) (w : World σ)

theorem executed : Executed p line s w := by
  refine ⟨fun hblank => ?_, fun hblank => ?_⟩
  · rw [execute, Pipeline.ofLine?_eq_none_iff.mpr hblank]
  · obtain ⟨pipeline, hpipeline⟩ := Pipeline.exists_ofLine? hblank
    refine ⟨pipeline, hpipeline, fun report after h => ?_, fun abort after h => ?_⟩
    · simp only [execute, hpipeline, h]
    · simp only [execute, hpipeline, h]

/-- The session ends at a line that says `exit`. -/
theorem handle_eq_leave_iff : (s.handle p line w).1 = .leave ↔ isExit line = true := by
  rw [handle]
  split
  · next h => simp [h]
  · next h =>
    split
    · simp [h]
    · split <;> simp [h]

/-- Where a line neither says `exit` nor is too long, it is executed. -/
theorem handle_of_le (hexit : ¬ isExit line = true) (hlength : line.utf8ByteSize ≤ s.maxLine) :
    s.handle p line w =
      match s.execute p line w with
      | (.ok _, s, w) => (.proceed, s, w)
      | (.error abort, s, w) => (.proceed, { s with lastStatus := 1 }, w.warn p abort.message) :=
  (if_neg hexit).trans (if_neg (Nat.not_lt.mpr hlength))

theorem handled : Handled p line s w := by
  have hleave := handle_eq_leave_iff p line s w
  refine ⟨hleave.trans isExit_iff, ?_, ?_, ?_, ?_⟩
  · intro h
    rw [handle, if_pos (hleave.mp h)]
  · intro h hlength
    rw [handle, if_neg (mt hleave.mpr h), if_pos hlength]
  · intro h hlength hblank
    rw [handle_of_le p line s w (mt hleave.mpr h) hlength, (s.executed p line w).blank hblank]
  · intro h hlength hblank
    obtain ⟨pipeline, hpipeline, hreport, habort⟩ := (s.executed p line w).executed hblank
    refine ⟨pipeline, hpipeline, fun report after hexec => ?_, fun abort after hexec => ?_⟩
    · rw [handle_of_le p line s w (mt hleave.mpr h) hlength, hreport report after hexec]
    · rw [handle_of_le p line s w (mt hleave.mpr h) hlength, habort abort after hexec]

end Session

/-! ### Runs of calls -/

/-- A line that is handed to a session. -/
inductive LineCall where
  /-- It is handled as the read loop does. -/
  | handle (line : String)
  /-- It is executed, whatever it says. -/
  | execute (line : String)
deriving DecidableEq, Repr

/-- What is left of a session and its world after a call. -/
def LineCall.run (p : Platform σ) (call : LineCall) (s : Session) (w : World σ) :
    Session × World σ :=
  match call with
  | .handle line => (s.handle p line w).2
  | .execute line => (s.execute p line w).2

/-- What is left of a session and its world after calls in a given order. -/
def runCalls (p : Platform σ) : List LineCall → Session → World σ → Session × World σ
  | [], s, w => (s, w)
  | call :: calls, s, w => runCalls p calls (call.run p s w).1 (call.run p s w).2

/-- The status that the execution of a line ends with, where it has a pipeline. -/
def statusOf? (p : Platform σ) (line : String) (w : World σ) : Option (Except Abort Int32) :=
  (Pipeline.ofLine? line.toList).map fun pipeline =>
    (execute p pipeline w).1.map Report.lastStatus

/-- The status that a call sets, if it sets one. -/
def LineCall.sets? (p : Platform σ) (limit : Nat) (w : World σ) : LineCall → Option Int32
  | .handle line =>
    if isExit line then none
    else if limit < line.utf8ByteSize then some 1
    else match statusOf? p line w with
      | some (.ok status) => some status
      | some (.error _) => some 1
      | none => none
  | .execute line =>
    match statusOf? p line w with
    | some (.ok status) => some status
    | some (.error _) | none => none

/-- The statuses that are set by calls, in order. -/
def setsAlong (p : Platform σ) : List LineCall → Session → World σ → List Int32
  | [], _, _ => []
  | call :: calls, s, w =>
    (call.sets? p s.maxLine w).toList ++ setsAlong p calls (call.run p s w).1 (call.run p s w).2

/-- Executing a line changes nothing of a session but the status. -/
theorem session_execute (p : Platform σ) (line : String) (s : Session) (w : World σ) :
    (s.execute p line w).2.1 = { s with lastStatus :=
      ((LineCall.execute line).sets? p s.maxLine w).getD s.lastStatus } := by
  simp only [Session.execute, LineCall.sets?, statusOf?]
  rcases Pipeline.ofLine? line.toList with - | pipeline
  · rfl
  · rcases h : execute p pipeline w with ⟨abort | report, after⟩ <;> simp [h, Except.map]

/-- A call changes nothing of a session but the status, and that if it sets one. -/
theorem LineCall.run_eq (p : Platform σ) (call : LineCall) (s : Session) (w : World σ) :
    (call.run p s w).1 =
      { s with lastStatus := (call.sets? p s.maxLine w).getD s.lastStatus } := by
  cases call with
  | execute line => exact session_execute p line s w
  | handle line =>
    simp only [run, sets?]
    -- a line says `exit`, or it is too long, or it is executed
    by_cases hexit : isExit line = true
    · rw [Session.handle, if_pos hexit, if_pos hexit]
      rfl
    by_cases hlength : s.maxLine < line.utf8ByteSize
    · rw [Session.handle, if_neg hexit, if_pos hlength, if_neg hexit, if_pos hlength]
      rfl
    rw [Session.handle_of_le p line s w hexit (Nat.not_lt.mp hlength), if_neg hexit,
      if_neg hlength]
    simp only [Session.execute, statusOf?]
    rcases Pipeline.ofLine? line.toList with - | pipeline
    · rfl
    · rcases h : LineShell.execute p pipeline w with ⟨abort | report, after⟩ <;>
        simp [h, Except.map]

/-- After any calls the status is the one that was set last. -/
theorem lastStatus_runCalls (p : Platform σ) (calls : List LineCall) (s : Session)
    (w : World σ) : (runCalls p calls s w).1 =
      { s with lastStatus := (setsAlong p calls s w).getLastD s.lastStatus } := by
  induction calls generalizing s w with
  | nil => rfl
  | cons call calls ih =>
    rw [runCalls, ih, setsAlong, call.run_eq]
    rcases call.sets? p s.maxLine w with - | status
    · rfl
    · simp only [Option.getD_some, Option.toList_some, List.cons_append, List.nil_append,
        List.getLastD_cons]

/-- **The status law of sessions**: what each call does by the kind of its line, and
that after any calls the status of a new session is the one that was set last, and 0
if none was set. -/
theorem session_status (p : Platform σ) :
    (∀ line s w, Handled p line s w) ∧ (∀ line s w, Executed p line s w) ∧
      ∀ (limit : Nat) (calls : List LineCall) (w : World σ),
        (runCalls p calls { maxLine := limit } w).1 =
          { maxLine := limit,
            lastStatus := (setsAlong p calls { maxLine := limit } w).getLastD 0 } :=
  ⟨Session.handled p, Session.executed p, fun limit calls w =>
    lastStatus_runCalls p calls { maxLine := limit } w⟩

/-! ### What calls keep -/

section Keeping

variable {p : Platform σ} {P : World σ → Prop}
  (hexecute : ∀ (pipeline : Pipeline) (w : World σ), P w → P (LineShell.execute p pipeline w).2)

include hexecute

/-- What executions keep, executing a line keeps. -/
theorem Session.execute_keeps (line : String) (s : Session) {w : World σ} (hw : P w) :
    P (s.execute p line w).2.2 := by
  rw [Session.execute]
  rcases Pipeline.ofLine? line.toList with - | pipeline
  · exact hw
  · have hkept := hexecute pipeline w hw
    rcases h : LineShell.execute p pipeline w with ⟨abort | report, after⟩
    · rw [h] at hkept
      simpa only [h] using hkept
    · rw [h] at hkept
      simpa only [h] using hkept

variable (hwarn : ∀ (text : String) (w : World σ), P w → P (w.warn p text))

include hwarn

/-- What diagnostics keep as well, a call keeps. -/
theorem LineCall.run_keeps (call : LineCall) (s : Session) {w : World σ} (hw : P w) :
    P (call.run p s w).2 := by
  cases call with
  | execute line => exact s.execute_keeps hexecute line hw
  | handle line =>
    by_cases hexit : isExit line = true
    · rw [run, Session.handle, if_pos hexit]
      exact hw
    by_cases hlength : s.maxLine < line.utf8ByteSize
    · rw [run, Session.handle, if_neg hexit, if_pos hlength]
      exact hwarn _ w hw
    have hkept := s.execute_keeps hexecute line hw
    rw [run, Session.handle_of_le p line s w hexit (Nat.not_lt.mp hlength)]
    rcases h : s.execute p line w with ⟨abort | report, s', after⟩
    · rw [h] at hkept
      exact hwarn _ after hkept
    · rwa [h] at hkept

/-- So do any calls. -/
theorem runCalls_keeps (calls : List LineCall) (s : Session) {w : World σ} (hw : P w) :
    P (runCalls p calls s w).2 := by
  induction calls generalizing s w with
  | nil => exact hw
  | cons call calls ih => exact ih _ (call.run_keeps hexecute hwarn s hw)

end Keeping

/-- No descriptor and no child is left after any calls, so that each execution starts
from a shell that is idle. -/
theorem idle_runCalls {p : Platform σ} (hp : p.HonoursContract) (calls : List LineCall)
    (s : Session) {w : World σ} (hw : w.Idle) : (runCalls p calls s w).2.Idle :=
  runCalls_keeps (fun pipeline _ hidle => hidle.execute hp pipeline)
    (fun _ _ hidle => ⟨hidle.ends, hidle.files, hidle.children⟩) calls s hw

end LineShell
