import LineShell.Proofs.Launching

/-!
# The order of a launch

A launch opens the input file of its stage, then the output file, and only then looks at
what there is to be started.  The first step that fails ends it, so that nothing is
created or emptied for a stage whose input is missing, and a redirection at fault is
reported whatever the command is.  On every way out the shell gives back all that it held
for the stage.

## Main definitions

* `Attempt`, `Provides` — what the opening of a file, and of a stream, comes to.
* `Kernel.Starts`, `Kernel.Exits` — the ways out of a launch, with the calls made on them.
* `Holdings.afterLaunch` — who holds what when a launch returns.
* `Kernel.Reaches` — a launch whose redirections are open.
* `Kernel.LaunchesInOrder` — a launch keeps to the order and keeps nothing.

## Main results

* `Kernel.exists_exits`, `Kernel.launch_of_exits` — a launch takes exactly one way out.
* `Kernel.launch_order` — every launch keeps to the order.
-/

namespace LineShell

variable {σ : Type}

/-! ### Opening a stream -/

/-- What it comes to when the shell opens a file by a call; `free` says whether it has a
descriptor left. -/
inductive Attempt (free : Bool) (call : String → σ → Except SystemError FileHandle × σ)
    (path : String) (s : σ) : Except SystemError FileHandle → σ → Prop
  /-- No file can have this path, and the call is not made. -/
  | invalid {cause : SystemError} (invalid : pathError? path = some cause) :
      Attempt free call path s (.error cause) s
  /-- No descriptor is left, and nothing is opened. -/
  | full (valid : pathError? path = none) (full : free = false) :
      Attempt free call path s (.error (.os .EMFILE)) s
  /-- The system answers. -/
  | answered {result : Except SystemError FileHandle} {s' : σ} (valid : pathError? path = none)
      (room : free = true) (answer : call path s = (result, s')) :
      Attempt free call path s result s'

/-- What it comes to when a stream of a plan is provided for, if that succeeds: a file is
opened, and nothing else needs a call. -/
inductive Provides (free : Bool) (call : String → σ → Except SystemError FileHandle × σ)
    (s : σ) : Channel String → Channel FileHandle → σ → Prop
  /-- The stream of the shell is there. -/
  | inherit : Provides free call s .inherit .inherit s
  /-- So is a pipe. -/
  | pipe (tip : PipeEnd) : Provides free call s (.pipe tip) (.pipe tip) s
  /-- A file is opened. -/
  | file {path : String} {file : FileHandle} {s' : σ}
      (opened : Attempt free call path s (.ok file) s') :
      Provides free call s (.file path) (.file file) s'

/-- The attempt to open a file comes to something. -/
theorem exists_attempt (free : Bool) (call : String → σ → Except SystemError FileHandle × σ)
    (path : String) (s : σ) : ∃ result s', Attempt free call path s result s' := by
  cases hpath : pathError? path with
  | some cause => exact ⟨_, _, .invalid hpath⟩
  | none =>
    cases hfree : free with
    | false => exact ⟨_, _, .full hpath rfl⟩
    | true => exact ⟨_, _, .answered hpath rfl rfl⟩

/-- A stream is provided for, or its file cannot be opened. -/
theorem exists_provides (free : Bool) (call : String → σ → Except SystemError FileHandle × σ)
    (channel : Channel String) (s : σ) :
    (∃ opened s', Provides free call s channel opened s') ∨
      ∃ path cause s', channel = .file path ∧ Attempt free call path s (.error cause) s' := by
  cases channel with
  | inherit => exact Or.inl ⟨_, _, .inherit⟩
  | pipe tip => exact Or.inl ⟨_, _, .pipe tip⟩
  | file path =>
    obtain ⟨cause | file, s', h⟩ := exists_attempt free call path s
    · exact Or.inr ⟨path, cause, s', rfl, h⟩
    · exact Or.inl ⟨_, s', .file h⟩

/-- A stream that is provided for has the files that its plan names. -/
theorem Provides.length_files {free : Bool}
    {call : String → σ → Except SystemError FileHandle × σ} {channel : Channel String}
    {opened : Channel FileHandle} {s s' : σ} (h : Provides free call s channel opened s') :
    opened.files.length = channel.files.length := by
  cases h <;> rfl

/-- Files that are open take the room of as many descriptors. -/
theorem Holdings.hasRoomFor_opened (h : Holdings) (files : List FileHandle) (n : Nat) :
    { h with files := files ++ h.files }.hasRoomFor n = h.hasRoomFor (files.length + n) := by
  cases hroom : h.room with
  | none => simp [hasRoomFor, hroom]
  | some room =>
    simp only [hasRoomFor, hroom, count, List.length_append]
    congr 1
    simp only [eq_iff_iff]
    omega

/-- The files that were just opened are all among those that are closed. -/
theorem filter_notMem_of_opened {new old removed : List FileHandle}
    (hnew : ∀ file ∈ new, file ∈ removed) :
    (new ++ old).filter (· ∉ removed) = old.filter (· ∉ removed) := by
  have h : new.filter (· ∉ removed) = [] := by
    simpa [List.filter_eq_nil_iff] using hnew
  rw [List.filter_append, h, List.nil_append]

/-! ### The ways out of a launch -/

/-- The fault of a program or argument with a NUL character. -/
def nulError : SystemError := .custom .invalidInput "nul byte found in provided data"

namespace Kernel

/-- What it comes to when a command is started whose streams are open. -/
inductive Starts (k : Kernel σ) (stdin stdout : Channel FileHandle) (s : σ) :
    List String → LaunchResult → σ → Prop
  /-- There is nothing to start. -/
  | noCommand : Starts k stdin stdout s [] (.error (.stage .emptyCommand)) s
  /-- A NUL character stands in the command, and the call is not made. -/
  | holdsNul {program : String} {operands : List String}
      (nul : ∃ text ∈ program :: operands, '\x00' ∈ text.toList) :
      Starts k stdin stdout s (program :: operands)
        (.error (.stage (.notExecutable program nulError))) s
  /-- The system creates no process. -/
  | notSpawned {program : String} {operands : List String} {cause : SystemError} {s' : σ}
      (plain : ∀ text ∈ program :: operands, '\x00' ∉ text.toList)
      (answer : k.spawn { program, operands, stdin, stdout } s = (.error cause, s')) :
      Starts k stdin stdout s (program :: operands) (.error (classify program cause)) s'
  /-- A process is there. -/
  | spawned {program : String} {operands : List String} {child : ProcessId} {s' : σ}
      (plain : ∀ text ∈ program :: operands, '\x00' ∉ text.toList)
      (answer : k.spawn { program, operands, stdin, stdout } s = (.ok child, s')) :
      Starts k stdin stdout s (program :: operands) (.ok child) s'

/-- The ways out of the launch of a plan, from a state and with what the shell holds: the
files that were opened on the way, what the launch comes to, and the state that the calls
lead to. -/
inductive Exits (k : Kernel σ) (plan : Plan) (h : Holdings) (s : σ) :
    List FileHandle → LaunchResult → σ → Prop
  /-- The input file cannot be opened. No other call is made. -/
  | noInput {path : String} {cause : SystemError} {s₁ : σ} (input : plan.stdin = .file path)
      (refused : Attempt (h.hasRoomFor 1) k.openInput path s (.error cause) s₁) :
      Exits k plan h s [] (.error (.stage (.redirection path cause))) s₁
  /-- The input is there, and the output file cannot be opened. -/
  | noOutput {stdin : Channel FileHandle} {path : String} {cause : SystemError} {s₁ s₂ : σ}
      (input : Provides (h.hasRoomFor 1) k.openInput s plan.stdin stdin s₁)
      (output : plan.stdout = .file path)
      (refused : Attempt (h.hasRoomFor (stdin.files.length + 1)) k.openOutput path s₁
        (.error cause) s₂) :
      Exits k plan h s stdin.files (.error (.stage (.redirection path cause))) s₂
  /-- Both streams are there, and the command decides. -/
  | tried {stdin stdout : Channel FileHandle} {s₁ s₂ s₃ : σ} {result : LaunchResult}
      (input : Provides (h.hasRoomFor 1) k.openInput s plan.stdin stdin s₁)
      (output : Provides (h.hasRoomFor (stdin.files.length + 1)) k.openOutput s₁ plan.stdout
        stdout s₂)
      (starts : k.Starts stdin stdout s₂ plan.arguments result s₃) :
      Exits k plan h s (stdin.files ++ stdout.files) result s₃

end Kernel

/-- Who holds what when the launch of a plan returns for which some files were opened. -/
def Holdings.afterLaunch (h : Holdings) (plan : Plan) (opened : List FileHandle)
    (result : LaunchResult) : Holdings :=
  { h with
    ends := h.ends.filter (· ∉ plan.ends)
    files := h.files.filter (· ∉ opened)
    children := (plan.started? result).toList ++ h.children }

namespace Kernel

variable {k : Kernel σ} {plan : Plan} {w : World σ}

/-! ### There is a way out -/

theorem exists_starts (k : Kernel σ) (stdin stdout : Channel FileHandle)
    (arguments : List String) (s : σ) :
    ∃ result s', k.Starts stdin stdout s arguments result s' := by
  cases arguments with
  | nil => exact ⟨_, _, .noCommand⟩
  | cons program operands =>
    by_cases hnul : ∃ text ∈ program :: operands, '\x00' ∈ text.toList
    · exact ⟨_, _, .holdsNul hnul⟩
    · have hplain : ∀ text ∈ program :: operands, '\x00' ∉ text.toList := by
        simpa only [not_exists, not_and] using hnul
      rcases hspawn : k.spawn { program, operands, stdin, stdout } s with ⟨cause | child, s'⟩
      · exact ⟨_, _, .notSpawned hplain hspawn⟩
      · exact ⟨_, _, .spawned hplain hspawn⟩

/-- Whatever the calls answer, there is a way out. -/
theorem exists_exits (k : Kernel σ) (plan : Plan) (h : Holdings) (s : σ) :
    ∃ opened result s', k.Exits plan h s opened result s' := by
  rcases exists_provides (h.hasRoomFor 1) k.openInput plan.stdin s with
    ⟨stdin, s₁, hin⟩ | ⟨path, cause, s₁, hpath, hin⟩
  · rcases exists_provides (h.hasRoomFor (stdin.files.length + 1)) k.openOutput plan.stdout s₁ with
      ⟨stdout, s₂, hout⟩ | ⟨path, cause, s₂, hpath, hout⟩
    · obtain ⟨result, s₃, hstarts⟩ := k.exists_starts stdin stdout plan.arguments s₂
      exact ⟨_, _, _, .tried hin hout hstarts⟩
    · exact ⟨_, _, _, .noOutput hin hpath hout⟩
  · exact ⟨_, _, _, .noInput hpath hin⟩

/-! ### A launch takes it -/

section Opening

variable {call : String → σ → Except SystemError FileHandle × σ} {path : String} {s' : σ}

theorem openRedirection_of_attempt_error {cause : SystemError}
    (h : Attempt (w.holdings.hasRoomFor 1) call path w.state (.error cause) s') :
    openRedirection call path w =
      (.error (.stage (.redirection path cause)), { w with state := s' }) := by
  cases h with
  | invalid invalid => simp [openRedirection, invalid]
  | full valid full => simp [openRedirection, World.openFile, valid, full]
  | answered valid room answer => simp [openRedirection, World.openFile, valid, room, answer]

theorem openRedirection_of_attempt_ok {file : FileHandle}
    (h : Attempt (w.holdings.hasRoomFor 1) call path w.state (.ok file) s') :
    ∃ w', openRedirection call path w = (.ok file, w') ∧ w'.state = s' ∧
      w'.holdings = { w.holdings with files := file :: w.holdings.files } := by
  cases h with
  | answered valid room answer =>
    let files := file :: w.holdings.files
    refine ⟨World.note (.openedFile path)
      { w with state := s', holdings := { w.holdings with files } }, ?_, rfl, rfl⟩
    simp [openRedirection, World.openFile, valid, room, answer, files]

/-- A stream that is provided for is open afterwards. -/
theorem openChannel_of_provides {channel : Channel String} {opened : Channel FileHandle}
    (h : Provides (w.holdings.hasRoomFor 1) call w.state channel opened s') :
    ∃ w', openChannel call channel w = (.ok opened, w') ∧ w'.state = s' ∧
      w'.holdings = { w.holdings with files := opened.files ++ w.holdings.files } ∧
      opened.ends = channel.ends := by
  cases h with
  | inherit => exact ⟨w, rfl, rfl, rfl, rfl⟩
  | pipe tip => exact ⟨w, rfl, rfl, rfl, rfl⟩
  | file attempt =>
    obtain ⟨w', hopen, hstate, hholdings⟩ := openRedirection_of_attempt_ok attempt
    exact ⟨w', by simp [openChannel, hopen], hstate, hholdings, rfl⟩

end Opening

theorem holdsNul_iff {text : String} : LineShell.holdsNul text = true ↔ '\x00' ∈ text.toList := by
  simp [LineShell.holdsNul]

section Command

variable {program : String} {operands : List String} (stdin stdout : Channel FileHandle)

/-- A NUL character in a command is found before a process is created. -/
theorem commandError?_of_nul (h : ∃ text ∈ program :: operands, '\x00' ∈ text.toList) :
    commandError? { program, operands, stdin, stdout } = some nulError := by
  have hnul : (LineShell.holdsNul program || operands.any LineShell.holdsNul) = true := by
    simpa [holdsNul_iff] using h
  simp [commandError?, hnul, nulError]

theorem commandError?_of_plain (h : ∀ text ∈ program :: operands, '\x00' ∉ text.toList) :
    commandError? { program, operands, stdin, stdout } = none := by
  have hplain : ¬ (LineShell.holdsNul program || operands.any LineShell.holdsNul) = true := by
    simpa [holdsNul_iff] using h
  simp [commandError?, hplain]

end Command

/-- A command is started as the calls say; a child takes the ends of its streams. -/
theorem startStage_of_starts {arguments : List String} {stdin stdout : Channel FileHandle}
    {result : LaunchResult} {s' : σ} (h : k.Starts stdin stdout w.state arguments result s') :
    ∃ w', k.startStage arguments stdin stdout w = (result, w') ∧ w'.state = s' ∧
      w'.holdings = match result with
        | .ok child => { w.holdings with
            ends := w.holdings.ends.filter (· ∉ stdin.ends ++ stdout.ends)
            children := (child, stdin.ends ++ stdout.ends) :: w.holdings.children }
        | .error _ => w.holdings := by
  cases h with
  | noCommand => exact ⟨w, rfl, rfl, rfl⟩
  | holdsNul nul =>
    refine ⟨w, ?_, rfl, rfl⟩
    simp only [startStage, start, commandError?_of_nul stdin stdout nul]
    rfl
  | notSpawned plain answer =>
    refine ⟨{ w with state := s' }, ?_, rfl, rfl⟩
    simp only [startStage, start, commandError?_of_plain stdin stdout plain, answer]
  | @spawned program operands child s' plain answer =>
    refine ⟨{ w with state := s' }.handOver child (stdin.ends ++ stdout.ends), ?_, rfl, rfl⟩
    simp only [startStage, start, commandError?_of_plain stdin stdout plain, answer]

/-- A launch that fails gives the ends of its plan back, too. -/
theorem launch_of_openAndStart_error {w' : World σ} {opened : List FileHandle}
    {failure : LaunchFailure} (h : k.openAndStart plan w = (.error failure, w'))
    (hholdings : w'.holdings =
      { w.holdings with files := w.holdings.files.filter (· ∉ opened) }) :
    (k.launch plan w).1 = .error failure ∧ (k.launch plan w).2.state = w'.state ∧
      (k.launch plan w).2.holdings = w.holdings.afterLaunch plan opened (.error failure) := by
  simp only [launch, h]
  refine ⟨trivial, rfl, ?_⟩
  rw [World.holdings_close, hholdings]
  rfl

/-- A launch takes the way out that the answers of the calls leave to it. -/
theorem launch_of_exits {opened : List FileHandle} {result : LaunchResult} {s' : σ}
    (h : k.Exits plan w.holdings w.state opened result s') :
    (k.launch plan w).1 = result ∧ (k.launch plan w).2.state = s' ∧
      (k.launch plan w).2.holdings = w.holdings.afterLaunch plan opened result := by
  cases h with
  | @noInput path cause s₁ input refused =>
    have hopen := openRedirection_of_attempt_error refused
    have hstart : k.openAndStart plan w = (.error (.stage (.redirection path cause)),
        { w with state := s' }) := by
      simp only [openAndStart, input, openChannel, hopen]
    refine launch_of_openAndStart_error hstart ?_
    rw [List.filter_eq_self.mpr (by simp)]
  | @noOutput stdin path cause s₁ s₂ input output refused =>
    obtain ⟨w₁, hin, rfl, hholdings, -⟩ := openChannel_of_provides input
    rw [← w.holdings.hasRoomFor_opened, ← hholdings] at refused
    have hopen := openRedirection_of_attempt_error refused
    have hstart : k.openAndStart plan w = (.error (.stage (.redirection path cause)),
        { w₁ with state := s' }.closeFiles stdin.files) := by
      rw [openAndStart, hin, output]
      simp only [openChannel, hopen]
    refine launch_of_openAndStart_error hstart ?_
    rw [World.holdings_closeFiles, hholdings, filter_notMem_of_opened fun _ hfile => hfile]
  | @tried stdin stdout s₁ s₂ s₃ result input output starts =>
    obtain ⟨w₁, hin, rfl, hholdings₁, hends₁⟩ := openChannel_of_provides input
    rw [← w.holdings.hasRoomFor_opened, ← hholdings₁] at output
    obtain ⟨w₂, hout, rfl, hholdings₂, hends₂⟩ := openChannel_of_provides output
    obtain ⟨w₃, hstage, hstate, hholdings₃⟩ := startStage_of_starts starts
    have hstart : k.openAndStart plan w =
        (result, w₃.closeFiles (stdin.files ++ stdout.files)) := by
      rw [openAndStart, hin]
      simp only [hout, hstage]
    -- the files that were opened are closed again, whatever became of the command
    have hfiles : w₂.holdings.files.filter (· ∉ stdin.files ++ stdout.files) =
        w.holdings.files.filter (· ∉ stdin.files ++ stdout.files) := by
      rw [hholdings₂, hholdings₁]
      rw [filter_notMem_of_opened fun _ hfile => List.mem_append_right _ hfile,
        filter_notMem_of_opened fun _ hfile => List.mem_append_left _ hfile]
    cases result with
    | error failure =>
      have hclosed : (w₃.closeFiles (stdin.files ++ stdout.files)).holdings = { w.holdings with
          files := w.holdings.files.filter (· ∉ stdin.files ++ stdout.files) } := by
        rw [World.holdings_closeFiles, hholdings₃, hfiles, hholdings₂, hholdings₁]
      obtain ⟨hresult, hstate', hholdings⟩ := launch_of_openAndStart_error hstart hclosed
      exact ⟨hresult, hstate'.trans hstate, hholdings⟩
    | ok child =>
      have hends : stdin.ends ++ stdout.ends = plan.ends := by rw [hends₁, hends₂, Plan.ends]
      simp only [launch, hstart]
      refine ⟨trivial, hstate, ?_⟩
      rw [World.holdings_closeFiles, hholdings₃]
      simp only [hfiles, hends]
      simp only [hholdings₂, hholdings₁]
      rfl

/-! ### Launches that come as far as their command -/

/-- The redirections of a plan are open, and this command is to be started in this state. -/
inductive Reaches (k : Kernel σ) (plan : Plan) (w : World σ) : Command → σ → Prop
  | intro {program : String} {operands : List String} {stdin stdout : Channel FileHandle}
      {s₁ s₂ : σ} (command : plan.arguments = program :: operands)
      (input : Provides (w.holdings.hasRoomFor 1) k.openInput w.state plan.stdin stdin s₁)
      (output : Provides (w.holdings.hasRoomFor (stdin.files.length + 1)) k.openOutput s₁
        plan.stdout stdout s₂) :
      Reaches k plan w { program, operands, stdin, stdout } s₂

/-- What becomes of the command becomes of the launch. -/
theorem launch_of_reaches {c : Command} {s s' : σ} {result : LaunchResult}
    (h : k.Reaches plan w c s)
    (hstarts : k.Starts c.stdin c.stdout s (c.program :: c.operands) result s') :
    (k.launch plan w).1 = result ∧ (k.launch plan w).2.state = s' := by
  obtain ⟨command, input, output⟩ := h
  rw [← command] at hstarts
  obtain ⟨hresult, hstate, -⟩ := launch_of_exits (.tried input output hstarts)
  exact ⟨hresult, hstate⟩

/-! ### Every launch keeps to the order -/

/-- No fault of a command is a redirection. -/
theorem Starts.not_redirection {stdin stdout : Channel FileHandle} {arguments : List String}
    {result : LaunchResult} {s s' : σ} (h : k.Starts stdin stdout s arguments result s')
    (path : String) (cause : SystemError) :
    result ≠ .error (.stage (.redirection path cause)) := by
  cases h with
  | noCommand => simp
  | holdsNul nul => simp
  | notSpawned plain answer => simp only [classify]; split <;> grind
  | spawned plain answer => simp

/-- A NUL character decides what becomes of a command, and no call is made for it. -/
theorem Starts.of_nul {stdin stdout : Channel FileHandle} {arguments : List String}
    {result : LaunchResult} {s s' : σ} (h : k.Starts stdin stdout s arguments result s')
    (hnul : ∃ text ∈ arguments, '\x00' ∈ text.toList) :
    result = .error (.stage (.notExecutable (arguments.headD "") nulError)) ∧ s' = s := by
  obtain ⟨text, htext, hmem⟩ := hnul
  cases h with
  | noCommand => simp at htext
  | holdsNul nul => exact ⟨rfl, rfl⟩
  | notSpawned plain answer => exact absurd hmem (plain text htext)
  | spawned plain answer => exact absurd hmem (plain text htext)

/-- The way out at a redirection does not depend on the command. -/
theorem Exits.of_redirection {h : Holdings} {opened : List FileHandle} {s s' : σ}
    {path : String} {cause : SystemError}
    (hexits : k.Exits plan h s opened (.error (.stage (.redirection path cause))) s')
    (arguments : List String) :
    k.Exits { plan with arguments } h s opened (.error (.stage (.redirection path cause))) s' := by
  cases hexits with
  | noInput input refused => exact .noInput input refused
  | noOutput input output refused => exact .noOutput input output refused
  | tried input output starts => exact absurd rfl (starts.not_redirection path cause)

/-- With its redirections open, a command with a NUL character cannot be executed. -/
theorem Exits.of_nul {h : Holdings} {opened : List FileHandle} {result : LaunchResult} {s s' : σ}
    (hexits : k.Exits plan h s opened result s')
    (hnul : ∃ text ∈ plan.arguments, '\x00' ∈ text.toList)
    (hopen : ∀ path cause, result ≠ .error (.stage (.redirection path cause))) :
    result = .error (.stage (.notExecutable plan.program nulError)) := by
  cases hexits with
  | noInput input refused => exact absurd rfl (hopen _ _)
  | noOutput input output refused => exact absurd rfl (hopen _ _)
  | tried input output starts => exact (starts.of_nul hnul).1

/-- How a launch depends on its command, and what it leaves to the shell. -/
structure LaunchesInOrder (k : Kernel σ) (plan : Plan) (w : World σ) : Prop where
  /-- The launch takes one of the ways out, with the calls of that way and no others. -/
  exits : ∃ opened, k.Exits plan w.holdings w.state opened (k.launch plan w).1
    (k.launch plan w).2.state
  /-- There is no other way out for it, and when it returns, the shell holds neither the
  ends of the plan nor a file that was opened, and has a new child if one was started. -/
  only : ∀ opened result s, k.Exits plan w.holdings w.state opened result s →
    result = (k.launch plan w).1 ∧ s = (k.launch plan w).2.state ∧
      (k.launch plan w).2.holdings = w.holdings.afterLaunch plan opened result
  /-- A redirection at fault is reported, with status 1, whatever the command is. -/
  redirection_first : ∀ path cause,
    (k.launch plan w).1 = .error (.stage (.redirection path cause)) →
      (StageFault.redirection path cause).status = 1 ∧
        ∀ arguments, (k.launch { plan with arguments } w).1 = (k.launch plan w).1 ∧
          (k.launch { plan with arguments } w).2.state = (k.launch plan w).2.state
  /-- A command with a NUL character cannot be executed, which is found with its
  redirections open. -/
  nul : (∃ text ∈ plan.arguments, '\x00' ∈ text.toList) →
    (∀ path cause, (k.launch plan w).1 ≠ .error (.stage (.redirection path cause))) →
      (k.launch plan w).1 = .error (.stage (.notExecutable plan.program nulError)) ∧
        (StageFault.notExecutable plan.program nulError).status = 126

/-- Every launch keeps to the order, whatever its plan, the surroundings and the answers of
the calls are. -/
theorem launch_order (k : Kernel σ) (plan : Plan) (w : World σ) : k.LaunchesInOrder plan w := by
  obtain ⟨opened, result, s', hexits⟩ := k.exists_exits plan w.holdings w.state
  obtain ⟨hresult, hstate, -⟩ := launch_of_exits hexits
  refine ⟨⟨opened, ?_⟩, ?_, ?_, ?_⟩
  · rw [hresult, hstate]
    exact hexits
  · intro opened' result' s h
    obtain ⟨hresult', hstate', hholdings'⟩ := launch_of_exits h
    exact ⟨hresult'.symm, hstate'.symm, hholdings'⟩
  · intro path cause hfault
    refine ⟨rfl, fun arguments => ?_⟩
    rw [hresult] at hfault ⊢
    subst hfault
    obtain ⟨hother, hstate', -⟩ := launch_of_exits (hexits.of_redirection arguments)
    exact ⟨hother, hstate'.trans hstate.symm⟩
  · intro hnul hopen
    rw [hresult] at hopen ⊢
    exact ⟨hexits.of_nul hnul hopen, rfl⟩

end Kernel

end LineShell
