import LineShell.CommandLine
import LineShell.Proofs.Containment
import LineShell.Proofs.Keeping

/-!
# The read loop

The shell reads a line and handles it, and so on, until a line says `exit`, there are no
more lines, or the next one cannot be read. Nothing that a line does can end the loop: a
line of blanks, one that is too long, one whose programs cannot be started and one whose
pipeline is given up all lead back to the next read, with all children waited for. So does an
interruption, which gives up a line before it can be handled.

## Main definitions

* `Input` — what stands on the standard input.
* `Editor.Delivers` — an editor delivers it, and nobody else reads it.
* `upToExit`, `handleEach` — the lines that are handled, and what is left after them.
* `Turn`, `HandlesInput` — one turn of the loop, and all of it.
* `EndsWithInput` — how a call ends that reads its lines.
* `Kernel.beside`, `Editor.ofInput` — a system whose processes do not read the input.

## Main results

* `handleLines_eq` — the loop handles the lines one after the other.
* `read_loop` — so does a session, and only the end of its input decides how a call ends.
* `delivers_ofInput` — an input that is kept apart is delivered.
-/

namespace LineShell

variable {σ : Type}

/-! ### What is read -/

/-- What stands on the standard input. -/
structure Input where
  /-- The lines that are still to be read; `none` is one that is given up by an interruption. -/
  lines : List (Option String)
  /-- Why nothing can be read after them, unless the input simply ends there. -/
  fault : Option String := none
deriving DecidableEq, Repr

/-- What comes when a line is asked for. -/
def Input.delivery : Input → Delivery
  | ⟨some line :: _, _⟩ => .line line
  | ⟨none :: _, _⟩ => .interrupted
  | ⟨[], some reason⟩ => .failed reason
  | ⟨[], none⟩ => .finished

/-- An editor delivers the lines of the standard input in order, and then its end or the
fault after it; `left` says what is left of the input in a state of the platform. No child
reads from it, nor does any other operation of the platform. The editor can be set up, and
its history takes every line. -/
structure Editor.Delivers (e : Editor σ) (p : Platform σ) (left : Input → σ → Prop) : Prop where
  /-- There is an editor. -/
  ready : ∀ input s, left input s → e.refusal? s = none
  /-- What comes next is what stands first on the input. -/
  delivery : ∀ input s, left input s → (e.next s).1 = input.delivery
  /-- It is not delivered twice. -/
  rest : ∀ line lines fault s, left ⟨line :: lines, fault⟩ s → left ⟨lines, fault⟩ (e.next s).2
  /-- There are not more lines than the editor says. -/
  enough : ∀ input s, left input s → input.lines.length ≤ e.most s
  /-- A line is added to the history, and the rest of the input stays. -/
  recorded : ∀ input line s, left input s →
    (e.record line s).1 = none ∧ left input (e.record line s).2
  /-- No operation of the platform reads from the input. -/
  keeps : ∀ input, p.Keeps (left input)

/-- Whether a line says `exit`. One that was given up says nothing. -/
def saysExit (line : Option String) : Bool := line.any isExit

/-- The lines up to the first one that says `exit`, which is the last one then. -/
def upToExit : List (Option String) → List (Option String)
  | [] => []
  | line :: lines => if saysExit line then [line] else line :: upToExit lines

theorem upToExit_eq_self {lines : List (Option String)}
    (h : ∀ line ∈ lines, ¬ saysExit line = true) : upToExit lines = lines := by
  induction lines with
  | nil => rfl
  | cons line lines ih =>
    obtain ⟨hline, hlines⟩ := List.forall_mem_cons.mp h
    rw [upToExit, if_neg hline, ih hlines]

theorem upToExit_prefix (lines : List (Option String)) : upToExit lines <+: lines := by
  induction lines with
  | nil => exact List.prefix_rfl
  | cons line lines ih =>
    rw [upToExit]
    split
    · exact List.prefix_append [line] lines
    · exact (List.prefix_cons_inj line).mpr ih

/-- No line is left after one that says `exit`. -/
theorem eq_nil_of_upToExit {lines before after : List (Option String)} {line : Option String}
    (h : upToExit lines = before ++ line :: after) (hexit : saysExit line = true) :
    after = [] := by
  induction lines generalizing before with
  | nil => simp [upToExit] at h
  | cons first lines ih =>
    rw [upToExit] at h
    split at h
    · -- the only line is the last one
      next hfirst =>
      rcases before with - | ⟨other, before⟩
      · exact (List.cons.inj h).2.symm
      · simp at h
    · next hfirst =>
      rcases before with - | ⟨other, before⟩
      · obtain ⟨rfl, -⟩ := List.cons.inj h
        exact absurd hexit hfirst
      · exact ih (List.cons.inj h).2

/-! ### Turns -/

section Turns

variable (p : Platform σ) (e : Editor σ) (prompt : Option String)

/-- The world after a line was asked for. -/
def World.read (w : World σ) : World σ :=
  let w := Session.showPrompt p prompt w
  { w with state := (e.next w.state).2 }

/-- The world after a line was asked for and added to the history. -/
def World.readLine (line : String) (w : World σ) : World σ :=
  (Session.record e line (w.read p e prompt)).2

/-- What is left of a session and its world after lines were read and handled one after the
other. -/
def handleEach : List (Option String) → Session → World σ → Session × World σ
  | [], s, w => (s, w)
  | none :: lines, s, w => handleEach lines s (w.read p e prompt)
  | some line :: lines, s, w =>
    let (_, s, w) := s.handle p line (w.readLine p e prompt line)
    handleEach lines s w

/-- One turn of the read loop, in which it reads and handles a line. -/
structure Turn (limit : Nat) (line : String) (s : Session) (w : World σ) : Prop where
  /-- When the line is asked for, nothing is left of the pipelines before it. -/
  idle : w.Idle
  /-- It is this line that comes. -/
  delivered : (e.next (Session.showPrompt p prompt w).state).1 = .line line
  /-- Lines of the same lengths are taken as before. -/
  limit : s.maxLine = limit
  /-- Only `exit` ends the loop. -/
  step : (s.handle p line (w.readLine p e prompt line)).1 =
    if isExit line then .leave else .proceed

/-- The read loop of a session handles the lines of its input. -/
structure HandlesInput (input : Input) (s : Session) (w : World σ) : Prop where
  /-- Each line up to the first `exit` has its turn, after those before it. -/
  turn : ∀ before line after, upToExit input.lines = before ++ some line :: after →
    Turn p e prompt s.maxLine line (handleEach p e prompt before s w).1
      (handleEach p e prompt before s w).2
  /-- An interruption gives up the line that is asked for, after the turns of those before it. -/
  interrupted : ∀ before after, upToExit input.lines = before ++ none :: after →
    (handleEach p e prompt before s w).2.Idle ∧
      (e.next (Session.showPrompt p prompt (handleEach p e prompt before s w).2).state).1 =
        .interrupted
  /-- None has its turn after an `exit`. -/
  last : ∀ before line after, upToExit input.lines = before ++ some line :: after →
    isExit line = true → after = []
  /-- The loop ends with the turn of a line that says `exit`. -/
  exit : (∃ line, some line ∈ input.lines ∧ isExit line = true) →
    s.readLoop p e prompt w = (none, handleEach p e prompt (upToExit input.lines) s w)
  /-- If there is none, it ends with the read after the last line, and all lines were handled. -/
  finished : (∀ line, some line ∈ input.lines → ¬ isExit line = true) →
    upToExit input.lines = input.lines ∧
      s.readLoop p e prompt w = (input.fault.map .read, (handleEach p e prompt input.lines s w).1,
        (handleEach p e prompt input.lines s w).2.read p e prompt)
  /-- However it ends, nothing is left of the pipelines. -/
  idle : (s.readLoop p e prompt w).2.2.Idle

variable {p e prompt}

theorem handleEach_none (lines : List (Option String)) (s : Session) (w : World σ) :
    handleEach p e prompt (none :: lines) s w =
      handleEach p e prompt lines s (w.read p e prompt) := rfl

theorem handleEach_some (line : String) (lines : List (Option String)) (s : Session)
    (w : World σ) :
    handleEach p e prompt (some line :: lines) s w =
      handleEach p e prompt lines (s.handle p line (w.readLine p e prompt line)).2.1
        (s.handle p line (w.readLine p e prompt line)).2.2 := rfl

theorem World.Idle.read {w : World σ} (hw : w.Idle) : (w.read p e prompt).Idle := by
  cases prompt <;> exact ⟨hw.ends, hw.files, hw.children⟩

theorem World.Idle.readLine {w : World σ} (hw : w.Idle) (line : String) :
    (w.readLine p e prompt line).Idle := by
  have hread : (w.read p e prompt).Idle := hw.read
  unfold World.readLine Session.record
  split
  · exact hread
  · exact ⟨hread.ends, hread.files, hread.children⟩

/-- Only `exit` ends a session. -/
theorem step_handle (p : Platform σ) (line : String) (s : Session) (w : World σ) :
    (s.handle p line w).1 = if isExit line then .leave else .proceed := by
  have hleave := s.handle_eq_leave_iff p line w
  split
  · next hexit => exact hleave.mpr hexit
  · next hexit =>
    rcases hstep : (s.handle p line w).1 with - | -
    · rfl
    · exact absurd (hleave.mp hstep) hexit

theorem maxLine_handle (p : Platform σ) (line : String) (s : Session) (w : World σ) :
    (s.handle p line w).2.1.maxLine = s.maxLine := by
  have hrun := (LineCall.handle line).run_eq p s w
  rw [LineCall.run] at hrun
  rw [hrun]

theorem maxLine_handleEach (lines : List (Option String)) (s : Session) (w : World σ) :
    (handleEach p e prompt lines s w).1.maxLine = s.maxLine := by
  induction lines generalizing s w with
  | nil => rfl
  | cons line lines ih =>
    cases line with
    | none => rw [handleEach_none, ih]
    | some line => rw [handleEach_some, ih, maxLine_handle]

/-- What the loop does next is decided by what comes and by the step after it. -/
theorem handleLines_succ (count : Nat) (s : Session) (w : World σ) :
    s.handleLines p e prompt (count + 1) w =
      match (e.next (Session.showPrompt p prompt w).state).1 with
      | .finished => (none, s, w.read p e prompt)
      | .failed reason => (some (.read reason), s, w.read p e prompt)
      | .interrupted => s.handleLines p e prompt count (w.read p e prompt)
      | .line text =>
        match Session.record e text (w.read p e prompt) with
        | (some reason, w) => (some (.history reason), s, w)
        | (none, w) =>
          match s.handle p text w with
          | (.leave, s, w) => (none, s, w)
          | (.proceed, s, w) => s.handleLines p e prompt count w := rfl

/-- No descriptor and no child is left after any lines. -/
theorem idle_handleEach (hp : p.HonoursContract) (lines : List (Option String)) (s : Session)
    {w : World σ} (hw : w.Idle) : (handleEach p e prompt lines s w).2.Idle := by
  induction lines generalizing s w with
  | nil => exact hw
  | cons line lines ih =>
    cases line with
    | none =>
      rw [handleEach_none]
      exact ih s hw.read
    | some line =>
      rw [handleEach_some]
      exact ih _ (idle_runCalls hp [.handle line] s (hw.readLine line))

end Turns

/-! ### The loop -/

section Loop

variable {p : Platform σ} {e : Editor σ} {left : Input → σ → Prop} (he : e.Delivers p left)
  (prompt : Option String)

include he

theorem left_showPrompt {input : Input} {w : World σ} (hw : left input w.state) :
    left input (Session.showPrompt p prompt w).state := by
  cases prompt with
  | none => exact hw
  | some text => exact (he.keeps input).print _ _ _ hw

/-- What stands first on the input is what comes. -/
theorem next_eq_delivery {input : Input} {w : World σ} (hw : left input w.state) :
    (e.next (Session.showPrompt p prompt w).state).1 = input.delivery :=
  he.delivery _ _ (left_showPrompt he prompt hw)

/-- After a line was asked for, the lines after it are left on the input. -/
theorem left_read {line : Option String} {lines : List (Option String)} {fault : Option String}
    {w : World σ} (hw : left ⟨line :: lines, fault⟩ w.state) :
    left ⟨lines, fault⟩ (w.read p e prompt).state :=
  he.rest _ _ _ _ (left_showPrompt he prompt hw)

/-- A line is added to the history, which leaves the lines after it where they are. -/
theorem record_eq {input : Input} (line : String) {w : World σ} (hw : left input w.state) :
    (Session.record e line w).1 = none ∧ left input (Session.record e line w).2.state := by
  unfold Session.record
  split
  · exact ⟨rfl, hw⟩
  · exact he.recorded input line w.state hw

/-- After a line was read and handled, the lines after it are left on the input. -/
theorem left_handle {line : String} {lines : List (Option String)} {fault : Option String}
    {w : World σ} (s : Session) (hw : left ⟨some line :: lines, fault⟩ w.state) :
    left ⟨lines, fault⟩ (s.handle p line (w.readLine p e prompt line)).2.2.state := by
  have hread : left ⟨lines, fault⟩ (w.readLine p e prompt line).state :=
    (record_eq he line (left_read he prompt hw)).2
  exact (he.keeps _).run (.handle line) s hread

theorem left_handleEach {before rest : List (Option String)} {fault : Option String}
    {w : World σ} (s : Session) (hw : left ⟨before ++ rest, fault⟩ w.state) :
    left ⟨rest, fault⟩ (handleEach p e prompt before s w).2.state := by
  induction before generalizing s w with
  | nil => exact hw
  | cons line before ih =>
    cases line with
    | none =>
      rw [handleEach_none]
      exact ih s (left_read he prompt hw)
    | some line =>
      rw [handleEach_some]
      exact ih _ (left_handle he prompt s hw)

/-- The loop goes on after an interruption. -/
theorem handleLines_none {lines : List (Option String)} {fault : Option String} (count : Nat)
    {w : World σ} (s : Session) (hw : left ⟨none :: lines, fault⟩ w.state) :
    s.handleLines p e prompt (count + 1) w =
      s.handleLines p e prompt count (w.read p e prompt) := by
  rw [handleLines_succ, next_eq_delivery he prompt hw]
  rfl

/-- After a line it goes on unless the line says `exit`. -/
theorem handleLines_some {line : String} {lines : List (Option String)} {fault : Option String}
    (count : Nat) {w : World σ} (s : Session) (hw : left ⟨some line :: lines, fault⟩ w.state) :
    s.handleLines p e prompt (count + 1) w =
      let after := (s.handle p line (w.readLine p e prompt line)).2
      if isExit line then (none, after)
      else after.1.handleLines p e prompt count after.2 := by
  have hrecord := (record_eq he line (left_read he prompt hw)).1
  have hstep := step_handle p line s (w.readLine p e prompt line)
  rw [handleLines_succ, next_eq_delivery he prompt hw]
  unfold World.readLine at hstep ⊢
  simp only [Input.delivery]
  rcases hrecorded : Session.record e line (w.read p e prompt) with ⟨refusal, w'⟩
  rw [hrecorded] at hrecord hstep
  obtain rfl : refusal = none := hrecord
  rcases hhandle : s.handle p line w' with ⟨step, s', w''⟩
  rw [hhandle] at hstep
  split at hstep
  · next hexit =>
    cases hstep
    simp only [hhandle, if_pos hexit]
  · next hexit =>
    cases hstep
    simp only [hhandle, if_neg hexit]

/-- The loop handles the lines one after the other, if it is allowed one turn more than there
are lines. -/
theorem handleLines_eq {lines : List (Option String)} {fault : Option String} {count : Nat}
    {w : World σ} (s : Session) (hw : left ⟨lines, fault⟩ w.state)
    (hcount : lines.length < count) :
    s.handleLines p e prompt count w =
      let after := handleEach p e prompt (upToExit lines) s w
      if lines.any saysExit then (none, after)
      else (fault.map .read, after.1, after.2.read p e prompt) := by
  induction lines generalizing count s w with
  | nil =>
    obtain ⟨count, rfl⟩ := Nat.exists_eq_add_one.mpr hcount
    rw [handleLines_succ, next_eq_delivery he prompt hw]
    cases fault <;> rfl
  | cons line lines ih =>
    obtain ⟨count, rfl⟩ := Nat.exists_eq_add_one.mpr (Nat.zero_lt_of_lt hcount)
    have hrest := Nat.lt_of_succ_lt_succ hcount
    cases line with
    | none =>
      rw [handleLines_none he prompt count s hw, ih s (left_read he prompt hw) hrest]
      rfl
    | some line =>
      rw [handleLines_some he prompt count s hw]
      by_cases hexit : isExit line = true
      · simp [upToExit, saysExit, hexit, handleEach]
      · simpa [upToExit, saysExit, hexit, handleEach_some] using
          ih _ (left_handle he prompt s hw) hrest

/-- The loop handles the lines of its input. -/
theorem handlesInput (hp : p.HonoursContract) {input : Input} (s : Session) {w : World σ}
    (hleft : left input w.state) (hw : w.Idle) : HandlesInput p e prompt input s w := by
  obtain ⟨lines, fault⟩ := input
  have hloop : s.readLoop p e prompt w =
      let after := handleEach p e prompt (upToExit lines) s w
      if lines.any saysExit then (none, after)
      else (fault.map .read, after.1, after.2.read p e prompt) := by
    rw [Session.readLoop, he.ready _ _ hleft]
    exact handleLines_eq he prompt s hleft (Nat.lt_succ_of_le (he.enough _ _ hleft))
  have hidle : (handleEach p e prompt (upToExit lines) s w).2.Idle :=
    idle_handleEach hp (upToExit lines) s hw
  -- after the lines before it, a line is the first one on the input
  have hnext : ∀ before line after, upToExit lines = before ++ line :: after →
      ∃ rest, left ⟨line :: rest, fault⟩ (handleEach p e prompt before s w).2.state := by
    intro before line after hlines
    obtain ⟨rest, hrest⟩ := upToExit_prefix lines
    refine ⟨after ++ rest, left_handleEach he prompt s ?_⟩
    rwa [← hrest, hlines, List.append_assoc, List.cons_append] at hleft
  refine ⟨?_, ?_, fun _ _ _ h hexit => eq_nil_of_upToExit h hexit, ?_, ?_, ?_⟩
  · intro before line after hlines
    obtain ⟨rest, hrest⟩ := hnext before (some line) after hlines
    exact ⟨idle_handleEach hp before s hw, next_eq_delivery he prompt hrest,
      maxLine_handleEach before s w, step_handle p line _ _⟩
  · intro before after hlines
    obtain ⟨rest, hrest⟩ := hnext before none after hlines
    exact ⟨idle_handleEach hp before s hw, next_eq_delivery he prompt hrest⟩
  · rintro ⟨line, hline, hexit⟩
    rw [hloop]
    exact if_pos (List.any_eq_true.mpr ⟨some line, hline, hexit⟩)
  · intro hnone
    have hnone' : ∀ line ∈ lines, ¬ saysExit line = true := by
      rintro (- | line) hline
      · exact Bool.false_ne_true
      · exact hnone line hline
    have hany : ¬ lines.any saysExit = true := by
      simpa only [List.any_eq_true, not_exists, not_and] using hnone'
    have hself := upToExit_eq_self hnone'
    refine ⟨hself, ?_⟩
    rw [hloop, hself]
    exact if_neg hany
  · rw [hloop]
    split
    · exact hidle
    · exact hidle.read

end Loop

/-! ### The call -/

/-- The prompt that a call shows before each line, if it shows one. -/
def ProgramCall.prompt? (call : ProgramCall) (options : Options) : Option String :=
  if showsPrompt call.terminal then some (options.prompt.getD defaultPrompt) else none

/-- How a call ends that handles the lines of its input in a session, whatever has become of
the lines and whatever the status of the session is. -/
structure EndsWithInput (p : Platform σ) (e : Editor σ) (call : ProgramCall)
    (prompt : Option String) (input : Input) (s : Session) (w : World σ) : Prop where
  /-- At a line that says `exit` it ends well. -/
  exit : (∃ line, some line ∈ input.lines ∧ isExit line = true) →
    run p e call w = (0, (handleEach p e prompt (upToExit input.lines) s w).2)
  /-- So it does at the end of its input. -/
  finished : (∀ line, some line ∈ input.lines → ¬ isExit line = true) → input.fault = none →
    run p e call w = (0, (handleEach p e prompt input.lines s w).2.read p e prompt)
  /-- A line that cannot be read is reported, after all lines before it were handled. -/
  failed : ∀ reason, (∀ line, some line ∈ input.lines → ¬ isExit line = true) →
    input.fault = some reason →
    run p e call w = (1, ((handleEach p e prompt input.lines s w).2.read p e prompt).warn p
      ("cannot read line: " ++ reason))

/-- **The read loop goes on after every line but `exit`**, in order and with nothing left of
the lines before, as long as the lines of the input are delivered; and how a call ends that
reads its lines depends only on what ends its input. -/
theorem read_loop {p : Platform σ} {e : Editor σ} {left : Input → σ → Prop}
    (he : e.Delivers p left) (hp : p.HonoursContract) {input : Input} {w : World σ}
    (hleft : left input w.state) (hw : w.Idle) :
    (∀ prompt s, HandlesInput p e prompt input s w) ∧
      ∀ call options, Request.ofArguments call.arguments = .ok (.run options) →
        options.command = none → EndsWithInput p e call (call.prompt? options) input
          { maxLine := options.maxLine.getD defaultMaxLine } w := by
  refine ⟨fun prompt s => handlesInput he prompt hp s hleft hw,
    fun call options harguments hcommand => ?_⟩
  let s : Session := { maxLine := options.maxLine.getD defaultMaxLine }
  have hrun : run p e call w = runLoop p e (call.prompt? options) s w := by
    simp only [run, harguments, hcommand]
    rfl
  have hinput := handlesInput he (call.prompt? options) hp s hleft hw
  refine ⟨fun hexit => ?_, fun hnone hfault => ?_, fun reason hnone hfault => ?_⟩
  · rw [hrun, runLoop, hinput.exit hexit]
  · rw [hrun, runLoop, (hinput.finished hnone).2, hfault]
    rfl
  · rw [hrun, runLoop, (hinput.finished hnone).2, hfault]
    rfl

/-! ### An input apart -/

/-- A call of a system next to an input, which it does not touch. -/
def besideInput {α : Type} (call : σ → α × σ) (s : Input × σ) : α × Input × σ :=
  ((call s.2).1, s.1, (call s.2).2)

/-- A system next to an input, which none of its processes reads. -/
def Kernel.beside (k : Kernel σ) : Kernel (Input × σ) where
  openInput path := besideInput (k.openInput path)
  openOutput path := besideInput (k.openOutput path)
  spawn command := besideInput (k.spawn command)
  wait child := besideInput (k.wait child)
  print stream text s := (s.1, k.print stream text s.2)

/-- An editor for the lines of such an input. -/
def Editor.ofInput : Editor (Input × σ) where
  next s := (s.1.delivery, { s.1 with lines := s.1.lines.tail }, s.2)
  most s := s.1.lines.length

/-- An input that no process reads is delivered. -/
theorem delivers_ofInput (k : Kernel σ) :
    Editor.ofInput.Delivers k.beside.platform fun input s => s.1 = input where
  ready _ _ _ := rfl
  delivery input s h := congrArg Input.delivery h
  rest line lines fault s h := by simp only [Editor.ofInput, h, List.tail_cons]
  enough input s h := by simp only [Editor.ofInput, h, Nat.le_refl]
  recorded _ _ _ h := ⟨rfl, h⟩
  keeps input := Kernel.Keeps.platform
    { openInput := fun path s h => h
      openOutput := fun path s h => h
      spawn := fun command s h => h
      wait := fun child s h => h
      print := fun stream text s h => h }

/-- Six lines that come to nothing do not keep a session from its end: one of blanks, one that
is given up, one too long, one without command, one whose process the system refuses, and one
for whose pipe there is no room. The line after the end stays where it is. -/
theorem read_loop_undeterred :
    let k := (Kernel.without "b" ⟨11⟩).beside
    let lines := [some "  ", none, some "a a a a a", some "> f", some "b", some "a | a",
      some " exit "]
    let input : Input := { lines := lines ++ [some "a"], fault := some "stream is gone" }
    let w : World (Input × ProcessId) :=
      { state := (input, 100), holdings := { room := some 1 } }
    let call : ProgramCall := { arguments := ["--max-line", "8"] }
    Editor.ofInput.Delivers k.platform (fun input s => s.1 = input) ∧
      k.platform.HonoursContract ∧ w.Idle ∧
      Request.ofArguments call.arguments = .ok (.run { maxLine := some 8 }) ∧
      HandlesInput k.platform Editor.ofInput none input { maxLine := 8 } w ∧
      run k.platform Editor.ofInput call w =
        (0, (handleEach k.platform Editor.ofInput none lines { maxLine := 8 } w).2) ∧
      (run k.platform Editor.ofInput call w).2.state.1.lines = [some "a"] := by
  intro k lines input w call
  have hdelivers := delivers_ofInput (Kernel.without "b" ⟨11⟩)
  have hleft : w.state.1 = input := rfl
  have hw : w.Idle := ⟨rfl, rfl, rfl⟩
  have harguments : Request.ofArguments call.arguments = .ok (.run { maxLine := some 8 }) := by
    decide +kernel
  obtain ⟨hhandles, hcalls⟩ := read_loop hdelivers k.honoursContract hleft hw
  have hlines : upToExit input.lines = lines := by decide +kernel
  have hrun := (hcalls call { maxLine := some 8 } harguments rfl).exit
    ⟨" exit ", by decide +kernel, by decide +kernel⟩
  rw [hlines] at hrun
  exact ⟨hdelivers, k.honoursContract, hw, harguments, hhandles none { maxLine := 8 }, hrun,
    by decide +kernel⟩

end LineShell
