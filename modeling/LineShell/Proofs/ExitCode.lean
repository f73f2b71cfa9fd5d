import LineShell.CommandLine
import LineShell.Proofs.Keeping
import LineShell.Proofs.Meaning

/-!
# Exit codes

An exit code is a byte. The shell keeps a status in 32 bits with a sign, adds 128 to the
number of a signal, has a status of its own for a word of the system that says nothing,
and only at the end of a call makes a byte of the status again. Processes that have ended
leave an exit code or one of the signals 1 to 126; then every status on the way is a byte
already, and nothing is lost at the end.

## Main definitions

* `IsExitCode` — a status that is a byte.
* `WaitStatus.IsFinal` — the words of processes that have ended.
* `StageStatus.InRange`, `StageStatus.Proper` — the statuses that are made of them, and what
  is true of these.
* `Platform.ReportsEnds` — a platform on which waiting for a child gives such a word.
* `CommandExit` — the exit code of a call with one line, by the kind of the line.
* `CodesInRange`, `CommandReports` — what is true of a session, and of such a call.

## Main results

* `StageStatus.inRange_ofWaitStatus` — the word of an ended process has a status in range.
* `Platform.ReportsEnds.execute` — so has every stage of a pipeline.
* `Platform.ReportsEnds.runCalls` — the status of a session is an exit code after any lines.
* `Rehearsal.reportsEnds`, `Kernel.reportsEnds` — platforms that report ends.
* `toNat_exitCodeOf` — narrowing an exit code to a byte changes nothing.
* `exit_codes` — statuses are exit codes, and a call with one line reports its status.
-/

namespace LineShell

/-! ### Bytes -/

/-- A status that is an exit code. -/
def IsExitCode (status : Int32) : Prop := 0 ≤ status.toInt ∧ status.toInt ≤ 255

instance (status : Int32) : Decidable (IsExitCode status) :=
  inferInstanceAs (Decidable (_ ∧ _))

theorem isExitCode_zero : IsExitCode 0 := by decide

theorem isExitCode_one : IsExitCode 1 := by decide

/-- So is the status of a stage that could not start. -/
theorem StageFault.isExitCode_status (fault : StageFault) : IsExitCode fault.status := by
  cases fault <;> simp only [status] <;> decide

/-- Narrowing an exit code to a byte changes nothing. -/
theorem toNat_exitCodeOf {status : Int32} (h : IsExitCode status) :
    ((exitCodeOf status).toNat : Int) = status.toInt := by
  obtain ⟨hlow, hhigh⟩ := h
  have hzero : ¬ status < 0 := by
    rw [Int32.lt_iff_toInt_lt]
    exact Int.not_lt.mpr hlow
  have hbyte : ¬ status > 255 := by
    rw [gt_iff_lt, Int32.lt_iff_toInt_lt]
    exact Int.not_lt.mpr hhigh
  rw [exitCodeOf, if_neg hzero, if_neg hbyte, UInt8.toNat_ofNat', ← Int32.toNat_toInt]
  omega

/-! ### The ends of processes -/

/-- The words of processes that have ended: by themselves with an exit code, or by a signal,
with a mark if the memory of the process was written to a file. -/
inductive WaitStatus.IsFinal : WaitStatus → Prop
  /-- A process ended by itself. -/
  | exited {code : Nat} (byte : code ≤ 255) : IsFinal ⟨code * 256⟩
  /-- A signal ended it. -/
  | killed {signal : Nat} (dumped : Bool) (first : 1 ≤ signal) (last : signal ≤ 126) :
      IsFinal ⟨signal + 128 * dumped.toNat⟩

theorem WaitStatus.isFinal_exited (code : Nat) : (WaitStatus.exited code).IsFinal :=
  .exited (by omega)

theorem WaitStatus.isFinal_killed {signal : Nat} (first : 1 ≤ signal) (last : signal ≤ 126) :
    (WaitStatus.killed signal).IsFinal := by
  have hword : WaitStatus.killed signal = ⟨signal + 128 * Bool.toNat false⟩ := by
    simp only [WaitStatus.killed, Bool.toNat_false, WaitStatus.mk.injEq]
    omega
  rw [hword]
  exact .killed false first last

namespace StageStatus

/-- The statuses of stages whose processes ended by an exit code or a signal. -/
def InRange : StageStatus → Prop
  | .exited code => IsExitCode code
  | .signaled signal => 1 ≤ signal.toInt ∧ signal.toInt ≤ 126
  | .failed _ | .lost _ => True

/-- What is true of such a status. -/
structure Proper (s : StageStatus) : Prop where
  /-- It is not the one for a word that says nothing. -/
  known : s ≠ .exited (-1)
  /-- The number of its signal and 128 are added without overflow. -/
  exact : ∀ signal, s = .signaled signal → (128 + signal).toInt = 128 + signal.toInt
  /-- Its code is an exit code. -/
  code : IsExitCode s.code

/-- The word of an ended process has a status in range. -/
theorem inRange_ofWaitStatus {s : WaitStatus} (h : s.IsFinal) : (ofWaitStatus s).InRange := by
  cases h with
  | @exited code byte =>
    have hcode : WaitStatus.exitCode? ⟨code * 256⟩ = some code := by
      have hsignal : code * 256 % 128 = 0 := by omega
      have hbyte : code * 256 / 256 % 256 = code := by omega
      rw [WaitStatus.exitCode?, if_pos hsignal, hbyte]
    have hint : (Int32.ofNat code).toInt = code := Int32.toInt_ofNat_of_lt (by omega)
    simp only [ofWaitStatus, hcode, InRange, IsExitCode, hint]
    omega
  | @killed signal dumped first last =>
    have hmod : (signal + 128 * dumped.toNat) % 128 = signal := by omega
    have hcode : WaitStatus.exitCode? ⟨signal + 128 * dumped.toNat⟩ = none := by
      have hne : signal ≠ 0 := by omega
      simp [WaitStatus.exitCode?, hmod, hne]
    have hsignal : WaitStatus.signal? ⟨signal + 128 * dumped.toNat⟩ = some signal := by
      have hne : ¬ (signal = 0 ∨ signal = 127) := by omega
      simp [WaitStatus.signal?, hmod, hne]
    have hint : (Int32.ofNat signal).toInt = signal := Int32.toInt_ofNat_of_lt (by omega)
    simp only [ofWaitStatus, hcode, hsignal, InRange, hint]
    omega

/-- So has the answer to a wait. -/
theorem inRange_ofWait {ended : Except SystemError WaitStatus}
    (h : ∀ status, ended = .ok status → status.IsFinal) : (ofWait ended).InRange := by
  cases ended with
  | ok status => exact inRange_ofWaitStatus (h status rfl)
  | error cause => trivial

/-- The number of a signal and 128 are added without overflow. -/
theorem InRange.toInt_add {signal : Int32} (h : (signaled signal).InRange) :
    (128 + signal).toInt = 128 + signal.toInt := by
  obtain ⟨hlow, hhigh⟩ := h
  have h128 : (128 : Int32).toInt = 128 := by decide
  rw [Int32.toInt_add, h128, Int.bmod_eq_of_le (by omega) (by omega)]

theorem InRange.proper {s : StageStatus} (h : s.InRange) : s.Proper := by
  refine ⟨?_, ?_, ?_⟩
  · rintro rfl
    exact absurd h.1 (by decide)
  · rintro signal rfl
    exact h.toInt_add
  · cases s with
    | exited code => exact h
    | signaled signal =>
      have hadd := h.toInt_add
      obtain ⟨hlow, hhigh⟩ := h
      simp only [code, IsExitCode, hadd]
      omega
    | failed fault => exact fault.isExitCode_status
    | lost cause => exact isExitCode_one

end StageStatus

/-- The status of a report in range is an exit code. -/
theorem Report.isExitCode_lastStatus {report : Report}
    (h : ∀ o ∈ report.outcomes, o.status.InRange) : IsExitCode report.lastStatus := by
  rw [lastStatus]
  rcases hlast : report.outcomes.getLast? with - | last
  · exact isExitCode_zero
  · exact (h last (List.mem_of_getLast? hlast)).proper.code

/-! ### Platforms that report ends -/

section Ends

variable {σ : Type}

/-- A platform on which waiting for a child gives the word of an ended process, or fails,
as long as its state has a property that all operations keep. -/
structure Platform.ReportsEnds (p : Platform σ) (valid : σ → Prop) : Prop where
  /-- Launches keep the property. -/
  launch : ∀ plan w, valid w.state → valid (p.launch plan w).2.state
  /-- So does printing. -/
  print : ∀ stream text s, valid s → valid (p.print stream text s)
  /-- So do waits. -/
  wait : ∀ child s, valid s → valid (p.wait child s).2
  /-- A wait gives the word of an ended process. -/
  final : ∀ child s status, valid s → (p.wait child s).1 = .ok status → status.IsFinal

namespace Platform.ReportsEnds

variable {p : Platform σ} {valid : σ → Prop} (hp : p.ReportsEnds valid) {w : World σ}

include hp

/-- All operations keep the property. -/
theorem keeps : p.Keeps valid := ⟨hp.launch, hp.print, hp.wait⟩

/-- The outcomes of reaping are in range. -/
theorem reap (entries : List Entry) (hw : valid w.state) :
    ∀ o ∈ (LineShell.reap p entries w).1, o.status.InRange := by
  induction entries generalizing w with
  | nil => simp [LineShell.reap]
  | cons e entries ih =>
    rw [reap_cons]
    rcases hchild : e.child with fault | child
    · rw [e.reap_failed p hchild]
      exact List.forall_mem_cons.mpr ⟨trivial, ih hw⟩
    · have hfinal : (StageStatus.ofWait (w.await p child).1).InRange :=
        StageStatus.inRange_ofWait fun status h => hp.final child w.state status hw h
      rw [e.reap_running p hchild]
      exact List.forall_mem_cons.mpr
        ⟨hfinal, ih (w := (w.await p child).2) (hp.wait child w.state hw)⟩

/-- The outcomes of an execution are in range. -/
theorem execute (pipeline : Pipeline) (hw : valid w.state) {report : Report}
    (hreport : (LineShell.execute p pipeline w).1 = .ok report) :
    ∀ o ∈ report.outcomes, o.status.InRange := by
  obtain ⟨pipes, w₀, hopen⟩ := exists_openPipes_of_report hreport
  obtain ⟨rfl, -, -⟩ := openPipes_ok hopen
  obtain ⟨results, w₁, hlaunches, hexecute⟩ := execute_of_openPipes_ok (p := p) hopen
  -- creating the pipes is no matter of the platform
  have hready : valid (w₀.readyToLaunch pipeline).state := by
    rw [← World.state_openPipes hopen] at hw
    exact hw
  have hlaunched : valid w₁.state := hp.keeps.launches hlaunches hready
  have hrange := hp.reap (entriesOf pipeline.plans results)
    (w := w₁.readyToReap (refusalOf pipeline.plans results)) hlaunched
  rw [hexecute] at hreport
  -- all children are reaped, but only a launch without refusal has a report of it
  rcases hrefusal : refusalOf pipeline.plans results with - | abort
  · rw [hrefusal] at hrange hreport
    cases hreport
    exact hrange
  · rw [hrefusal] at hreport
    cases hreport

/-- The outcomes of a line are in range. -/
theorem session {line : String} {s : Session} {report : Report} (hw : valid w.state)
    (h : (s.execute p line w).1 = .ok (some report)) : ∀ o ∈ report.outcomes, o.status.InRange := by
  rw [Session.execute] at h
  rcases hparses : Pipeline.ofLine? line.toList with - | pipeline
  · simp [hparses] at h
  rcases hexecute : LineShell.execute p pipeline w with ⟨abort | reported, after⟩
  · simp [hparses, hexecute] at h
  · simp only [hparses, hexecute, Except.ok.injEq, Option.some.injEq] at h
    exact hp.execute pipeline hw (by rw [hexecute, h])

/-- A status that a line ends with is an exit code. -/
theorem isExitCode_of_statusOf? {line : String} {status : Int32} (hw : valid w.state)
    (h : statusOf? p line w = some (.ok status)) : IsExitCode status := by
  simp only [statusOf?, Option.map_eq_some_iff] at h
  obtain ⟨pipeline, -, hstatus⟩ := h
  rcases hreport : (LineShell.execute p pipeline w).1 with abort | report
  · rw [hreport] at hstatus
    cases hstatus
  · rw [hreport] at hstatus
    cases hstatus
    exact Report.isExitCode_lastStatus (hp.execute pipeline hw hreport)

/-- A status that a call sets is an exit code. -/
theorem isExitCode_of_sets? {call : LineCall} {limit : Nat} {status : Int32}
    (hw : valid w.state) (h : call.sets? p limit w = some status) : IsExitCode status := by
  cases call with
  | execute line =>
    simp only [LineCall.sets?] at h
    rcases hstatus : statusOf? p line w with - | (abort | reported)
    · simp [hstatus] at h
    · simp [hstatus] at h
    · simp only [hstatus, Option.some.injEq] at h
      subst h
      exact hp.isExitCode_of_statusOf? hw hstatus
  | handle line =>
    simp only [LineCall.sets?] at h
    split at h
    · cases h
    split at h
    · cases h
      exact isExitCode_one
    rcases hstatus : statusOf? p line w with - | (abort | reported)
    · simp [hstatus] at h
    · simp only [hstatus, Option.some.injEq] at h
      subst h
      exact isExitCode_one
    · simp only [hstatus, Option.some.injEq] at h
      subst h
      exact hp.isExitCode_of_statusOf? hw hstatus

/-- After any calls the status of a session is an exit code. -/
theorem runCalls (calls : List LineCall) {s : Session} (hs : IsExitCode s.lastStatus)
    (hw : valid w.state) : IsExitCode (LineShell.runCalls p calls s w).1.lastStatus ∧
      valid (LineShell.runCalls p calls s w).2.state := by
  induction calls generalizing s w with
  | nil => exact ⟨hs, hw⟩
  | cons call calls ih =>
    refine ih ?_ (hp.keeps.run call s hw)
    rw [call.run_eq]
    rcases hset : call.sets? p s.maxLine w with - | status
    · exact hs
    · exact hp.isExitCode_of_sets? hw hset

end Platform.ReportsEnds

/-! ### A call with one line -/

/-- The exit code of a call with one line. Whether the line is too long is asked before
whether it is blank. -/
inductive CommandExit (p : Platform σ) (limit : Nat) (line : String) (w : World σ) : Int → Prop
  /-- The line says `exit`. -/
  | exit (leaves : isExit line = true) : CommandExit p limit line w 0
  /-- The line is too long. -/
  | overlong (other : ¬ isExit line = true) (long : limit < line.utf8ByteSize) :
      CommandExit p limit line w 1
  /-- The line is blank. -/
  | blank (fits : line.utf8ByteSize ≤ limit) (blank : line.toList.all isBlank = true) :
      CommandExit p limit line w 0
  /-- The pipeline is given up. -/
  | aborted {pipeline : Pipeline} {abort : Abort} (other : ¬ isExit line = true)
      (fits : line.utf8ByteSize ≤ limit) (parses : Pipeline.ofLine? line.toList = some pipeline)
      (aborts : (execute p pipeline w).1 = .error abort) : CommandExit p limit line w 1
  /-- There is a report, and its last outcome is that of the last stage. -/
  | reported {pipeline : Pipeline} {report : Report} {last : Outcome}
      (other : ¬ isExit line = true) (fits : line.utf8ByteSize ≤ limit)
      (parses : Pipeline.ofLine? line.toList = some pipeline)
      (reports : (execute p pipeline w).1 = .ok report)
      (outcomes : report.outcomes.getLast? = some last) (stage : last.index = pipeline.length - 1) :
      CommandExit p limit line w last.status.code.toInt

/-- The status after the line is the one for its kind. -/
theorem commandExit_handle (p : Platform σ) (limit : Nat) (line : String) (w : World σ) :
    CommandExit p limit line w
      (({ maxLine := limit } : Session).handle p line w).2.1.lastStatus.toInt := by
  have hhandled := Session.handled p line { maxLine := limit } w
  have hleave := Session.handle_eq_leave_iff p line { maxLine := limit } w
  -- the questions in the order in which a session asks them
  by_cases hexit : isExit line = true
  · rw [hhandled.leave (hleave.mpr hexit)]
    exact .exit hexit
  have hstay := mt hleave.mp hexit
  rcases Nat.lt_or_ge limit line.utf8ByteSize with hlong | hfits
  · rw [hhandled.overlong hstay hlong]
    exact .overlong hexit hlong
  by_cases hblank : line.toList.all isBlank = true
  · rw [hhandled.blank hstay hfits hblank]
    exact .blank hfits hblank
  obtain ⟨pipeline, hparses, hreport, habort⟩ := hhandled.executed hstay hfits hblank
  rcases hexecute : execute p pipeline w with ⟨abort | report, after⟩
  · rw [habort abort after hexecute]
    exact .aborted hexit hfits hparses (congrArg Prod.fst hexecute)
  · rw [hreport report after hexecute]
    have hreports : (execute p pipeline w).1 = .ok report := congrArg Prod.fst hexecute
    obtain ⟨results, ended, hcourse, hnone, -, hreported⟩ := exists_reported hreports
    obtain ⟨last, hlast, hindex, hstatus⟩ := hreported.exists_last hcourse hnone
    rw [hstatus]
    exact .reported hexit hfits hparses hreports hlast hindex

/-- A call with one line exits with the status of its session. -/
structure CommandReports (p : Platform σ) (e : Editor σ) (call : ProgramCall) (limit : Nat)
    (line : String) (w : World σ) : Prop where
  /-- Nothing is lost where the status becomes a byte. -/
  faithful : ((run p e call w).1.toNat : Int) =
    (({ maxLine := limit } : Session).handle p line w).2.1.lastStatus.toInt
  /-- The exit code is the one for the line. -/
  code : CommandExit p limit line w (run p e call w).1.toNat

/-- The statuses of a session are exit codes, before and after the next line. -/
structure CodesInRange (p : Platform σ) (s : Session) (w : World σ) : Prop where
  /-- The status of the session is an exit code. -/
  status : IsExitCode s.lastStatus
  /-- The status of each stage of the next line is a proper one. -/
  outcomes : ∀ line report, (s.execute p line w).1 = .ok (some report) →
    ∀ o ∈ report.outcomes, o.status.Proper

/-- The option for one line takes any line. -/
theorem Request.ofArguments_command (line : String) :
    ofArguments ["-c", line] = .ok (.run { command := some line }) := by
  rfl

/-- **No status leaves the exit codes**: where processes end by an exit code or a signal, no
word is left without a meaning, nothing overflows, after any lines the status of the
session and the codes of all stages are bytes, and a call with one line exits with the
status of its session. -/
theorem exit_codes {p : Platform σ} {valid : σ → Prop} (hp : p.ReportsEnds valid) (e : Editor σ)
    {w : World σ} (hw : valid w.state) :
    (∀ entries, ∀ o ∈ (reap p entries w).1, o.status.Proper) ∧
      (∀ limit calls, CodesInRange p (runCalls p calls { maxLine := limit } w).1
        (runCalls p calls { maxLine := limit } w).2) ∧
      (∀ line, Request.ofArguments ["-c", line] = .ok (.run { command := some line })) ∧
      ∀ call options line, Request.ofArguments call.arguments = .ok (.run options) →
        options.command = some line →
          CommandReports p e call (options.maxLine.getD defaultMaxLine) line w := by
  refine ⟨fun entries o ho => (hp.reap entries hw o ho).proper, fun limit calls => ?_,
    Request.ofArguments_command, fun call options line harguments hcommand => ?_⟩
  · obtain ⟨hstatus, hstate⟩ := hp.runCalls calls (s := { maxLine := limit }) isExitCode_zero hw
    exact ⟨hstatus, fun line report hreport o ho => (hp.session hstate hreport o ho).proper⟩
  · -- the status after the line is that after a run of one call
    let s : Session := { maxLine := options.maxLine.getD defaultMaxLine }
    have hrun : (run p e call w).1 = exitCodeOf (s.handle p line w).2.1.lastStatus := by
      simp only [run, harguments, hcommand, runCommand]
      rfl
    have hstatus := (hp.runCalls [.handle line] (s := s) isExitCode_zero hw).1
    have hfaithful : ((run p e call w).1.toNat : Int) =
        (s.handle p line w).2.1.lastStatus.toInt := by
      rw [hrun]
      exact toNat_exitCodeOf hstatus
    refine ⟨hfaithful, ?_⟩
    rw [hfaithful]
    exact commandExit_handle p s.maxLine line w

end Ends

/-! ### Rehearsals -/

namespace Rehearsal

/-- A rehearsal whose children all have ended. -/
structure AllFinal (r : Rehearsal) : Prop where
  /-- Those still to be started will. -/
  script : ∀ status, .child (.known status) ∈ r.script → status.IsFinal
  /-- Those that were started have. -/
  children : ∀ status, .known status ∈ r.children → status.IsFinal

/-- A rehearsal whose children all have ended reports their ends. -/
theorem reportsEnds : platform.ReportsEnds AllFinal := by
  refine ⟨?_, ?_, ?_, ?_⟩
  · intro plan w hw
    have hanswer : AllFinal (answer plan w.state).2 := by
      simp only [answer]
      split
      · next ending hcue =>
        refine ⟨hw.script, fun status hstatus => ?_⟩
        rcases List.mem_append.mp hstatus with hold | hnew
        · exact hw.children status hold
        -- the new child ends as the script says, or exits with 0 where the script says nothing
        obtain rfl := List.mem_singleton.mp hnew
        rcases hscript : w.state.script[plan.index]? with - | cue
        · simp only [hscript, Option.getD_none, Cue.child.injEq, Ending.known.injEq] at hcue
          rw [← hcue]
          exact WaitStatus.isFinal_exited 0
        · rw [hscript] at hcue
          cases hcue
          exact hw.script status (List.mem_of_getElem? hscript)
      · exact hw
      · exact hw
    simp only [platform, launch]
    rcases h : answer plan w.state with ⟨failure | child, state⟩ <;> rw [h] at hanswer
    · exact hanswer
    · exact hanswer
  · intro stream text r hr
    cases stream <;> exact ⟨hr.script, hr.children⟩
  · intro child r hr
    simp only [platform, wait]
    split <;> exact hr
  · intro child r status hr hstatus
    simp only [platform, wait] at hstatus
    split at hstatus
    · next ended hchild =>
      cases hstatus
      exact hr.children _ (List.mem_of_getElem? hchild)
    · cases hstatus
    · cases hstatus

end Rehearsal

/-- A system whose waits give the words of ended processes reports their ends, whatever its
other calls do. -/
theorem Kernel.reportsEnds {σ : Type} {k : Kernel σ}
    (hfinal : ∀ child s status, (k.wait child s).1 = .ok status → status.IsFinal) :
    k.platform.ReportsEnds fun _ => True where
  launch _ _ _ := trivial
  print _ _ _ _ := trivial
  wait _ _ _ := trivial
  final child s status _ := hfinal child s status

/-- The last process of a line is killed, and the call with this line exits with the code for
that. -/
theorem exit_codes_killed :
    let k : Kernel ProcessId := {
      openInput := fun _ next => (.ok 0, next)
      openOutput := fun _ next => (.ok 0, next)
      spawn := fun _ next => (.ok next, next + 1)
      wait := fun child next => (.ok (if child = 101 then .killed 15 else .exited 3), next)
      print := fun _ _ next => next }
    let w : World ProcessId := { state := 100 }
    let e : Editor ProcessId := { next := fun next => (.finished, next), most := fun _ => 0 }
    let call : ProgramCall := { arguments := ["-c", "a | b"] }
    k.platform.ReportsEnds (fun _ => True) ∧
      (∀ entries, ∀ o ∈ (reap k.platform entries w).1, o.status.Proper) ∧
      (∀ limit calls, CodesInRange k.platform (runCalls k.platform calls { maxLine := limit } w).1
        (runCalls k.platform calls { maxLine := limit } w).2) ∧
      Request.ofArguments call.arguments = .ok (.run { command := some "a | b" }) ∧
      CommandReports k.platform e call defaultMaxLine "a | b" w ∧
      (run k.platform e call w).1 = 143 := by
  intro k w e call
  have hends : k.platform.ReportsEnds fun _ => True := by
    refine Kernel.reportsEnds fun child next status hstatus => ?_
    obtain rfl : (if child = 101 then .killed 15 else .exited 3) = status :=
      Except.ok.inj hstatus
    split
    · exact WaitStatus.isFinal_killed (by decide) (by decide)
    · exact WaitStatus.isFinal_exited 3
  obtain ⟨hreap, hcalls, hcommand, hreports⟩ := exit_codes hends e (w := w) trivial
  exact ⟨hends, hreap, hcalls, hcommand "a | b",
    hreports call _ "a | b" (hcommand "a | b") rfl, by decide⟩

end LineShell
