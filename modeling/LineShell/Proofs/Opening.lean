import LineShell.Proofs.LaunchOrder

/-!
# The files that the launches open

Before a process is started, the files of its redirections are opened, the input file
first.  An output file is created or emptied by that, whatever becomes of the process, so
what a launch does to the files is known as soon as its openings are known.  Here the calls
of a launch loop are taken apart: first those that open the files of a stage, in the state
that the stages before have left, then those that do nothing to files.

## Main definitions

* `OpenRefused`, `OpenGranted` — the two ways in which an attempt to open a file ends.
* `Openings`, `Kernel.Opens` — what the opening of the redirections of a stage comes to.
* `Kernel.Aside` — calls that open no files.
* `Kernel.OpensInTurn` — the openings of a launch loop, stage by stage.
* `Kernel.FileView` — what the calls of a kernel do to the files.
* `Kernel.KeepsNames` — no call takes a file away.

## Main results

* `Kernel.opens_of_launch` — the openings of one launch.
* `Kernel.opensInTurn_of_launches` — the openings of a launch loop.
* `Kernel.OpensInTurn.course` — what they do to the files.
* `Kernel.FileView.Course.eq_foldl` — their effects, one after the other.
* `Kernel.OpensInTurn.found` — a file that was written to is found by the stages after it.
-/

namespace LineShell

variable {σ : Type}

/-! ### The openings of a stage -/

/-- An attempt to open a file by a call fails with a cause, for a shell that may hold as many
descriptors as there is `room`. -/
inductive OpenRefused (room : Option Nat)
    (call : String → σ → Except SystemError FileHandle × σ) (path : String)
    (cause : SystemError) : σ → σ → Prop
  /-- No file can have this path. -/
  | invalid {s : σ} (invalid : pathError? path = some cause) :
      OpenRefused room call path cause s s
  /-- The shell has no descriptor left. -/
  | full {s : σ} (limited : room ≠ none) (full : cause = .os .EMFILE) :
      OpenRefused room call path cause s s
  /-- The system does not open it. -/
  | failed {s s' : σ} (answer : call path s = (.error cause, s')) :
      OpenRefused room call path cause s s'

/-- The file of a redirection is opened by a call, if there is one. -/
inductive OpenGranted (call : String → σ → Except SystemError FileHandle × σ) :
    Option String → σ → σ → Prop
  /-- There is no redirection. -/
  | none {s : σ} : OpenGranted call none s s
  /-- The system opens the file. -/
  | file {path : String} {handle : FileHandle} {s s' : σ} (valid : pathError? path = .none)
      (answer : call path s = (.ok handle, s')) : OpenGranted call (some path) s s'

/-- What the opening of the redirections of a stage comes to. -/
inductive Openings where
  /-- The input file cannot be opened. -/
  | noInput (cause : SystemError)
  /-- The output file cannot be opened. -/
  | noOutput (cause : SystemError)
  /-- Every file that the stage names is open. -/
  | opened
deriving DecidableEq, Repr

namespace Kernel

variable (k : Kernel σ)

/-- The redirections of a stage are opened, with what that comes to and with the result of
the launch. -/
inductive Opens (room : Option Nat) (stage : Stage) (s : σ) : Openings → LaunchResult → σ → Prop
  /-- The input file is not opened, and then nothing else is. -/
  | noInput {path : String} {cause : SystemError} {s₁ : σ} (input : stage.inputFile = some path)
      (refused : OpenRefused room k.openInput path cause s s₁) :
      Opens room stage s (.noInput cause) (.error (.stage (.redirection path cause))) s₁
  /-- The input file is opened and the output file is not. -/
  | noOutput {path : String} {cause : SystemError} {s₁ s₂ : σ}
      (input : OpenGranted k.openInput stage.inputFile s s₁)
      (output : stage.outputFile = some path)
      (refused : OpenRefused room k.openOutput path cause s₁ s₂) :
      Opens room stage s (.noOutput cause) (.error (.stage (.redirection path cause))) s₂
  /-- The files are open, and only now it matters what there is to be started. -/
  | opened {result : LaunchResult} {s₁ s₂ : σ}
      (input : OpenGranted k.openInput stage.inputFile s s₁)
      (output : OpenGranted k.openOutput stage.outputFile s₁ s₂)
      (empty : stage.arguments = [] → result = .error (.stage .emptyCommand)) :
      Opens room stage s .opened result s₂

/-- Some calls that open no file lead from one state to another. -/
inductive Aside : σ → σ → Prop
  | refl (s : σ) : Aside s s
  | spawn {s s' : σ} (command : Command) (rest : Aside (k.spawn command s).2 s') : Aside s s'
  | print {s s' : σ} (stream : OutStream) (text : String)
      (rest : Aside (k.print stream text s) s') : Aside s s'

variable {k}

theorem Aside.trans {s s₁ s₂ : σ} (h₁ : k.Aside s s₁) (h₂ : k.Aside s₁ s₂) : k.Aside s s₂ := by
  induction h₁ with
  | refl => exact h₂
  | spawn command _ ih => exact .spawn command (ih h₂)
  | print stream text _ ih => exact .print stream text (ih h₂)

/-- An attempt that comes to a fault is one that fails. -/
theorem openRefused_of_attempt {h : Holdings} {n : Nat} {path : String} {cause : SystemError}
    {call : String → σ → Except SystemError FileHandle × σ} {s s' : σ}
    (attempt : Attempt (h.hasRoomFor n) call path s (.error cause) s') :
    OpenRefused h.room call path cause s s' := by
  cases attempt with
  | invalid invalid => exact .invalid invalid
  | full valid full =>
    refine .full (fun hnone => ?_) rfl
    simp [Holdings.hasRoomFor, hnone] at full
  | answered valid room answer => exact .failed answer

/-- A stream that is provided for has the file of its redirection open. -/
theorem openGranted_of_provides {free : Bool} {path? : Option String} {tip : Option PipeEnd}
    {opened : Channel FileHandle} {call : String → σ → Except SystemError FileHandle × σ}
    {s s' : σ} (provides : Provides free call s (.choose path? tip) opened s') :
    OpenGranted call path? s s' := by
  cases path? with
  | none => cases tip <;> cases provides <;> exact .none
  | some path =>
    cases provides with
    | file attempt =>
      cases attempt with
      | answered valid room answer => exact .file valid answer

/-- A stream leads to a file only by a redirection. -/
theorem eq_some_of_choose_eq_file {path? : Option String} {tip : Option PipeEnd} {path : String}
    (h : Channel.choose path? tip = .file path) : path? = some path := by
  cases path? <;> cases tip <;> cases h <;> rfl

/-- The start of a process opens nothing. -/
theorem aside_of_starts {stdin stdout : Channel FileHandle} {arguments : List String}
    {result : LaunchResult} {s s' : σ} (h : k.Starts stdin stdout s arguments result s') :
    k.Aside s s' := by
  cases h with
  | noCommand => exact .refl _
  | holdsNul nul => exact .refl _
  | @notSpawned program operands cause s' plain answer =>
    refine .spawn { program, operands, stdin, stdout } ?_
    rw [answer]
    exact .refl _
  | @spawned program operands child s' plain answer =>
    refine .spawn { program, operands, stdin, stdout } ?_
    rw [answer]
    exact .refl _

/-- A launch opens the redirections of its stage, and nothing after that. -/
theorem opens_of_launch {plan : Plan} {stage : Stage} {incoming outgoing : Option PipeEnd}
    {result : LaunchResult} {w w' : World σ} (harguments : plan.arguments = stage.arguments)
    (hstdin : plan.stdin = .choose stage.inputFile incoming)
    (hstdout : plan.stdout = .choose stage.outputFile outgoing)
    (h : k.launch plan w = (result, w')) :
    w'.holdings.room = w.holdings.room ∧
      ∃ opening s₁, k.Opens w.holdings.room stage w.state opening result s₁ ∧
        k.Aside s₁ w'.state := by
  obtain ⟨opened, result', s', hexits⟩ := k.exists_exits plan w.holdings w.state
  obtain ⟨hresult, hstate, hholdings⟩ := launch_of_exits hexits
  rw [h] at hresult hstate hholdings
  simp only at hresult hstate hholdings
  subst hresult hstate
  refine ⟨by rw [hholdings, Holdings.afterLaunch], ?_⟩
  cases hexits with
  | noInput input refused =>
    exact ⟨_, _, .noInput (eq_some_of_choose_eq_file (hstdin ▸ input))
      (openRefused_of_attempt refused), .refl _⟩
  | noOutput input output refused =>
    rw [hstdin] at input
    exact ⟨_, _, .noOutput (openGranted_of_provides input)
      (eq_some_of_choose_eq_file (hstdout ▸ output)) (openRefused_of_attempt refused), .refl _⟩
  | tried input output starts =>
    rw [hstdin] at input
    rw [hstdout] at output
    refine ⟨_, _, .opened (openGranted_of_provides input) (openGranted_of_provides output) ?_,
      aside_of_starts starts⟩
    intro hempty
    rw [harguments, hempty] at starts
    cases starts with
    | noCommand => rfl

/-! ### The openings of a launch loop -/

variable (k)

/-- The redirections of some stages are opened one after the other, up to the first stage
whose process is refused. -/
inductive OpensInTurn (room : Option Nat) :
    List Stage → σ → List Openings → List LaunchResult → σ → Prop
  /-- No stage is left. -/
  | done (s : σ) : OpensInTurn room [] s [] [] s
  /-- Whatever the openings come to, the next stage follows. -/
  | next {stage : Stage} {stages : List Stage} {s s₁ s₂ s₃ : σ} {opening : Openings}
      {openings : List Openings} {result : LaunchResult} {results : List LaunchResult}
      (opens : k.Opens room stage s opening result s₁) (aside : k.Aside s₁ s₂)
      (goes : ∀ cause, result ≠ .error (.refused cause))
      (rest : OpensInTurn room stages s₂ openings results s₃) :
      OpensInTurn room (stage :: stages) s (opening :: openings) (result :: results) s₃
  /-- The process of the stage is refused. -/
  | refused {stage : Stage} {stages : List Stage} {s s₁ s₂ : σ} {opening : Openings}
      {cause : SystemError} (opens : k.Opens room stage s opening (.error (.refused cause)) s₁)
      (aside : k.Aside s₁ s₂) :
      OpensInTurn room (stage :: stages) s [opening] [.error (.refused cause)] s₂

variable {k}

/-- The launch loop opens the redirections of the stages in turn. -/
theorem opensInTurn_of_launches {index : Nat} {incoming : Option PipeEnd} {stages : List Stage}
    {pipes : List Pipe} {results : List LaunchResult} {room : Option Nat} {w w' : World σ}
    (hroom : w.holdings.room = room)
    (h : Launches k.platform (wireFrom index incoming stages pipes).plans w results w') :
    ∃ openings, k.OpensInTurn room stages w.state openings results w'.state := by
  induction stages generalizing index incoming pipes w results with
  | nil =>
    cases h with
    | done => exact ⟨[], .done _⟩
  | cons stage stages ih =>
    subst hroom
    cases h with
    | started launch rest =>
      obtain ⟨hroom, opening, s₁, hopens, haside⟩ := opens_of_launch rfl rfl rfl launch
      obtain ⟨openings, hrest⟩ := ih (by simpa using hroom) rest
      exact ⟨opening :: openings, .next hopens haside (by simp) hrest⟩
    | failed launch rest =>
      obtain ⟨hroom, opening, s₁, hopens, haside⟩ := opens_of_launch rfl rfl rfl launch
      obtain ⟨openings, hrest⟩ := ih (by simpa using hroom) rest
      -- the fault is printed before the next stage begins
      exact ⟨opening :: openings,
        .next hopens (haside.trans (.print .diagnostic _ (.refl _))) (by simp) hrest⟩
    | refused launch =>
      obtain ⟨-, opening, s₁, hopens, haside⟩ := opens_of_launch rfl rfl rfl launch
      exact ⟨[opening], .refused hopens haside⟩

/-- Where nothing limits the shell, the only redirection of a stage is open if the system opens
the file. -/
theorem Opens.eq_opened {stage : Stage} {path : String} {s s' : σ} {opening : Openings}
    {result : LaunchResult} (h : k.Opens none stage s opening result s')
    (hinput : stage.inputFile = none) (houtput : stage.outputFile = some path)
    (hvalid : pathError? path = none) (hanswer : (k.openOutput path s).1.isOk = true) :
    opening = .opened := by
  cases h with
  | noInput input _ => cases hinput.symm.trans input
  | noOutput input output refused =>
    rw [hinput] at input
    cases input
    cases houtput.symm.trans output
    cases refused with
    | invalid invalid => cases hvalid.symm.trans invalid
    | full limited _ => exact absurd rfl limited
    | failed answer =>
      rw [answer] at hanswer
      cases hanswer
  | opened _ _ _ => rfl

/-- The first stage of a launch loop opens its files in the state that the loop begins in. -/
theorem OpensInTurn.exists_opens {room : Option Nat} {stage : Stage} {stages : List Stage}
    {s s' : σ} {openings : List Openings} {results : List LaunchResult}
    (h : k.OpensInTurn room (stage :: stages) s openings results s') :
    ∃ opening result s₁, openings[0]? = some opening ∧ k.Opens room stage s opening result s₁ := by
  cases h with
  | next opens _ _ _ => exact ⟨_, _, _, rfl, opens⟩
  | refused opens _ => exact ⟨_, _, _, rfl, opens⟩

/-! ### What the openings do to the files -/

variable (k) in
/-- What the calls of a kernel do to the files. Only the opening of an output file changes
them, and only if it succeeds; waiting for a process is another matter, since processes do
as they like. -/
structure FileView (φ : Type) where
  /-- The files. -/
  files : σ → φ
  /-- The files after the one at a path was created or emptied. -/
  emptied : String → φ → φ
  /-- To open a file for reading changes nothing. -/
  openInput : ∀ path s, files (k.openInput path s).2 = files s
  /-- To open a file for writing creates or empties it. -/
  openOutput_ok : ∀ {path s handle s'}, k.openOutput path s = (.ok handle, s') →
    files s' = emptied path (files s)
  /-- A file that cannot be opened for writing stays what it is. -/
  openOutput_error : ∀ {path s cause s'}, k.openOutput path s = (.error cause, s') →
    files s' = files s
  /-- The start of a process changes nothing. -/
  spawn : ∀ command s, files (k.spawn command s).2 = files s
  /-- Nor does a text of the shell. -/
  print : ∀ stream text s, files (k.print stream text s) = files s

namespace FileView

variable {φ : Type} (v : k.FileView φ)

/-- What the openings of a stage do to the files. -/
def effect (stage : Stage) : Openings → φ → φ
  | .noInput _, fs | .noOutput _, fs => fs
  | .opened, fs => match stage.outputFile with
    | some path => v.emptied path fs
    | none => fs

/-- The files go from one state to another by the openings of some stages in turn. The
openings of a stage come to what they do among the files that the stages before it have
left. -/
inductive Course (room : Option Nat) :
    List Stage → φ → List Openings → List LaunchResult → φ → Prop
  /-- No stage is left. -/
  | done (fs : φ) : Course room [] fs [] [] fs
  /-- Whatever the openings come to, the next stage follows. -/
  | next {stage : Stage} {stages : List Stage} {s s₁ : σ} {fs : φ} {opening : Openings}
      {openings : List Openings} {result : LaunchResult} {results : List LaunchResult}
      (opens : k.Opens room stage s opening result s₁)
      (goes : ∀ cause, result ≠ .error (.refused cause))
      (rest : Course room stages (v.effect stage opening (v.files s)) openings results fs) :
      Course room (stage :: stages) (v.files s) (opening :: openings) (result :: results) fs
  /-- The process of the stage is refused, and the stages after it open nothing. -/
  | refused {stage : Stage} {stages : List Stage} {s s₁ : σ} {opening : Openings}
      {cause : SystemError} (opens : k.Opens room stage s opening (.error (.refused cause)) s₁) :
      Course room (stage :: stages) (v.files s) [opening] [.error (.refused cause)]
        (v.effect stage opening (v.files s))

/-- The files become what the effects of the stages make of them, one after the other. -/
theorem Course.eq_foldl {room : Option Nat} {stages : List Stage} {fs fs' : φ}
    {openings : List Openings} {results : List LaunchResult}
    (h : v.Course room stages fs openings results fs') :
    fs' = (stages.zip openings).foldl (fun fs x => v.effect x.1 x.2 fs) fs := by
  induction h with
  | done fs => rfl
  | next opens goes rest ih => exact ih
  | refused opens => simp

theorem files_of_aside {s s' : σ} (h : k.Aside s s') : v.files s' = v.files s := by
  induction h with
  | refl => rfl
  | spawn command _ ih => rw [ih, v.spawn]
  | print stream text _ ih => rw [ih, v.print]

section Openings

variable {room : Option Nat}

theorem files_of_openRefused_input {path : String} {cause : SystemError} {s s' : σ}
    (h : OpenRefused room k.openInput path cause s s') : v.files s' = v.files s := by
  cases h with
  | invalid _ => rfl
  | full _ _ => rfl
  | failed answer => simpa [answer] using v.openInput path s

theorem files_of_openRefused_output {path : String} {cause : SystemError} {s s' : σ}
    (h : OpenRefused room k.openOutput path cause s s') : v.files s' = v.files s := by
  cases h with
  | invalid _ => rfl
  | full _ _ => rfl
  | failed answer => exact v.openOutput_error answer

theorem files_of_openGranted_input {path? : Option String} {s s' : σ}
    (h : OpenGranted k.openInput path? s s') : v.files s' = v.files s := by
  cases h with
  | none => rfl
  | @file path _ _ _ _ answer => simpa [answer] using v.openInput path s

/-- The openings of a stage have their effect and no other. -/
theorem files_of_opens {stage : Stage} {s s' : σ} {opening : Openings} {result : LaunchResult}
    (h : k.Opens room stage s opening result s') :
    v.files s' = v.effect stage opening (v.files s) := by
  cases h with
  | noInput _ refused => exact v.files_of_openRefused_input refused
  | noOutput input _ refused =>
    exact (v.files_of_openRefused_output refused).trans (v.files_of_openGranted_input input)
  | opened input output _ =>
    rw [← v.files_of_openGranted_input input]
    cases hfile : stage.outputFile with
    | none =>
      rw [hfile] at output
      cases output
      simp [effect, hfile]
    | some path =>
      rw [hfile] at output
      cases output with
      | file _ answer => simpa [effect, hfile] using v.openOutput_ok answer

end Openings

end FileView

namespace OpensInTurn

variable {room : Option Nat} {stages : List Stage} {s s' : σ} {openings : List Openings}
  {results : List LaunchResult}

/-- The openings of the stages change the files in turn. -/
theorem course {φ : Type} (v : k.FileView φ)
    (h : k.OpensInTurn room stages s openings results s') :
    v.Course room stages (v.files s) openings results (v.files s') := by
  induction h with
  | done s => exact .done _
  | next opens aside goes rest ih =>
    rw [v.files_of_aside aside, v.files_of_opens opens] at ih
    exact .next opens goes ih
  | refused opens aside =>
    rw [v.files_of_aside aside, v.files_of_opens opens]
    exact .refused opens

end OpensInTurn

/-! ### Files that were written to -/

variable (k) in
/-- To open a path for reading fails because there is nothing. -/
def Misses (path : String) (s : σ) : Prop := (k.openInput path s).1 = .error (.os .ENOENT)

variable (k) in
/-- What was opened for writing is found from then on: no call takes a file away. -/
structure KeepsNames : Prop where
  /-- A file that was opened for writing is there. -/
  written : ∀ {path s handle s'}, k.openOutput path s = (.ok handle, s') → ¬ k.Misses path s'
  /-- A file that is there stays when one is opened for reading. -/
  openInput : ∀ {path s} other, ¬ k.Misses path s → ¬ k.Misses path (k.openInput other s).2
  /-- It stays when one is opened for writing. -/
  openOutput : ∀ {path s} other, ¬ k.Misses path s → ¬ k.Misses path (k.openOutput other s).2
  /-- It stays when a process is started. -/
  spawn : ∀ {path s} command, ¬ k.Misses path s → ¬ k.Misses path (k.spawn command s).2
  /-- It stays when a text is printed. -/
  print : ∀ {path s} stream text, ¬ k.Misses path s → ¬ k.Misses path (k.print stream text s)

variable (k) in
/-- Nothing keeps a path from being opened for reading for want of a file. -/
def Finds (path : String) (s : σ) : Prop := pathError? path = none ∧ ¬ k.Misses path s

section Finds

variable {room : Option Nat} {path : String} {s s' : σ}

theorem finds_of_openRefused {call : String → σ → Except SystemError FileHandle × σ}
    (hcall : ∀ {s} other, ¬ k.Misses path s → ¬ k.Misses path (call other s).2) {other : String}
    {cause : SystemError} (h : OpenRefused room call other cause s s') (hfinds : k.Finds path s) :
    k.Finds path s' := by
  cases h with
  | invalid _ => exact hfinds
  | full _ _ => exact hfinds
  | failed answer => exact ⟨hfinds.1, by simpa [answer] using hcall other hfinds.2⟩

theorem finds_of_openGranted {call : String → σ → Except SystemError FileHandle × σ}
    (hcall : ∀ {s} other, ¬ k.Misses path s → ¬ k.Misses path (call other s).2)
    {other : Option String} (h : OpenGranted call other s s') (hfinds : k.Finds path s) :
    k.Finds path s' := by
  cases h with
  | none => exact hfinds
  | @file other _ _ _ _ answer => exact ⟨hfinds.1, by simpa [answer] using hcall other hfinds.2⟩

variable (hk : k.KeepsNames)

include hk

theorem finds_of_aside (h : k.Aside s s') (hfinds : k.Finds path s) : k.Finds path s' := by
  induction h with
  | refl => exact hfinds
  | spawn command _ ih => exact ih ⟨hfinds.1, hk.spawn command hfinds.2⟩
  | print stream text _ ih => exact ih ⟨hfinds.1, hk.print stream text hfinds.2⟩

/-- The openings of a stage take no file away. -/
theorem finds_of_opens {stage : Stage} {opening : Openings} {result : LaunchResult}
    (h : k.Opens room stage s opening result s') (hfinds : k.Finds path s) : k.Finds path s' := by
  cases h with
  | noInput _ refused => exact finds_of_openRefused hk.openInput refused hfinds
  | noOutput input _ refused =>
    exact finds_of_openRefused hk.openOutput refused
      (finds_of_openGranted hk.openInput input hfinds)
  | opened input output _ =>
    exact finds_of_openGranted hk.openOutput output
      (finds_of_openGranted hk.openInput input hfinds)

/-- The output file of a stage is found once it is open. -/
theorem finds_of_opened {stage : Stage} {result : LaunchResult}
    (h : k.Opens room stage s .opened result s') (houtput : stage.outputFile = some path) :
    k.Finds path s' := by
  cases h with
  | opened _ output _ =>
    rw [houtput] at output
    cases output with
    | file valid answer => exact ⟨valid, hk.written answer⟩

omit hk in
/-- A file that is found does not fail to be opened for want of a file. -/
theorem ne_noInput_of_finds {stage : Stage} {opening : Openings} {result : LaunchResult}
    (h : k.Opens room stage s opening result s') (hinput : stage.inputFile = some path)
    (hfinds : k.Finds path s) : opening ≠ .noInput (.os .ENOENT) := by
  rintro rfl
  cases h with
  | noInput input refused =>
    cases hinput.symm.trans input
    cases refused with
    | invalid invalid => simp [hfinds.1] at invalid
    | full _ full => cases full
    | failed answer => exact hfinds.2 (congrArg Prod.fst answer)

end Finds

namespace OpensInTurn

variable (hk : k.KeepsNames) {room : Option Nat} {stages : List Stage} {s s' : σ}
  {openings : List Openings} {results : List LaunchResult} {path : String}

include hk

/-- A file that is found is found by every stage. -/
theorem finds (h : k.OpensInTurn room stages s openings results s') (hfinds : k.Finds path s)
    {i : Nat} {stage : Stage} (hstage : stages[i]? = some stage)
    (hinput : stage.inputFile = some path) :
    openings[i]? ≠ some (.noInput (.os .ENOENT)) := by
  induction h generalizing i with
  | done s => simp
  | next opens aside goes rest ih =>
    cases i with
    | zero =>
      cases hstage
      simpa using ne_noInput_of_finds opens hinput hfinds
    | succ i => exact ih (finds_of_aside hk aside (finds_of_opens hk opens hfinds)) hstage
  | refused opens aside =>
    cases i with
    | zero =>
      cases hstage
      simpa using ne_noInput_of_finds opens hinput hfinds
    | succ i => simp

/-- The output file of a stage is found by every stage after it. -/
theorem found (h : k.OpensInTurn room stages s openings results s') {i j : Nat} (hlt : j < i)
    {earlier later : Stage} (hearlier : stages[j]? = some earlier)
    (hopened : openings[j]? = some .opened) (houtput : earlier.outputFile = some path)
    (hlater : stages[i]? = some later) (hinput : later.inputFile = some path) :
    openings[i]? ≠ some (.noInput (.os .ENOENT)) := by
  induction h generalizing i j with
  | done s => simp
  | next opens aside goes rest ih =>
    obtain ⟨i, rfl⟩ : ∃ i', i = i' + 1 := ⟨i - 1, by omega⟩
    cases j with
    | zero =>
      cases hearlier
      obtain rfl := Option.some.inj hopened
      exact rest.finds hk (finds_of_aside hk aside (finds_of_opened hk opens houtput)) hlater
        hinput
    | succ j => exact ih (by omega) hearlier hopened hlater
  | refused opens aside =>
    obtain ⟨i, rfl⟩ : ∃ i', i = i' + 1 := ⟨i - 1, by omega⟩
    simp

end OpensInTurn

end Kernel

end LineShell
