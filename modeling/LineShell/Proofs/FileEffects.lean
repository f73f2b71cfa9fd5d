import LineShell.Proofs.MachineFiles
import LineShell.Proofs.PipeCreation
import LineShell.Proofs.Reaping

/-!
# What an execution does to the files

An execution opens the files of its stages one stage after the other, up to the first stage
whose process is refused.  An output file is created or emptied once the input file of the
same stage is open, whatever there is to be started; a stage at fault takes nothing from the
others.  After that the shell only waits.  If a pipe cannot be created, nothing is opened at
all.

## Main definitions

* `Kernel.FileView.WaitsApart` — the files do not change while the shell waits.
* `FileEffects` — what an execution does to the files.

## Main results

* `Kernel.FileView.files_reap` — what is said of the files while the shell waits holds after
  all waits.
* `execute_file_effects` — what an execution does to the files.
-/

namespace LineShell

variable {σ : Type}

/-! ### The waits -/

/-- The files do not change while the shell waits. -/
def Kernel.FileView.WaitsApart {k : Kernel σ} {φ : Type} (v : k.FileView φ) : Prop :=
  ∀ child s, v.files (k.wait child s).2 = v.files s

/-- What is said of the files while the shell waits holds after all waits. -/
theorem Kernel.FileView.files_reap {k : Kernel σ} {φ : Type} {v : k.FileView φ}
    (hwait : v.WaitsApart) (entries : List Entry) (w : World σ) :
    v.files (reap k.platform entries w).2.state = v.files w.state := by
  induction entries generalizing w with
  | nil => rfl
  | cons e entries ih =>
    rw [reap_cons, ih]
    rcases hchild : e.child with fault | child
    · rw [e.reap_failed _ hchild]
    · rw [e.reap_running _ hchild]
      exact hwait child w.state

/-- What an execution does to the files, whose launches have these results and whose openings
come to this. The files are `touched` when it begins to wait. -/
structure FileEffects {k : Kernel σ} {φ : Type} (v : k.FileView φ) (pipeline : Pipeline)
    (w : World σ) (results : List LaunchResult) (openings : List Openings) (touched : φ) :
    Prop where
  /-- These are the results of the launches, in order. -/
  launches : (w.since (execute k.platform pipeline w).2).filterMap Moment.launched? =
    pipeline.plans.zip results
  /-- The files of the stages are opened in turn, up to the first refusal, and nothing else
  happens to the files. -/
  course : v.Course w.holdings.room pipeline.stages (v.files w.state) openings results touched
  /-- So the files are what the effects of these stages make of them, one after the other. -/
  effects : touched = (pipeline.stages.zip openings).foldl (fun files x => v.effect x.1 x.2 files)
    (v.files w.state)
  /-- In the state that the calls of the openings lead to, the shell begins to wait, and
  after that it does nothing else. -/
  waits : ∃ (entries : List Entry) (w₁ : World σ), v.files w₁.state = touched ∧
    k.OpensInTurn w.holdings.room pipeline.stages w.state openings results w₁.state ∧
    (execute k.platform pipeline w).2 = (reap k.platform entries w₁).2.advance .reaping .done
  /-- If the files do not change while it waits, they stay what they are. -/
  kept : v.WaitsApart → v.files (execute k.platform pipeline w).2.state = touched
  /-- An output file is there for the stages after its own. -/
  found : k.KeepsNames → ∀ (i j : Nat) (earlier later : Stage) (path : String), j < i →
    pipeline.stages[j]? = some earlier → openings[j]? = some .opened →
    earlier.outputFile = some path → pipeline.stages[i]? = some later →
    later.inputFile = some path → openings[i]? ≠ some (.noInput (.os .ENOENT))

/-- **What an execution does to the files.** If a pipe cannot be created, nothing. Otherwise
the files of the stages are opened in turn, up to the first refusal: where the input file of a
stage cannot be opened among the files left by the stages before, nothing happens; else the
output file is created or emptied, if there is one and it can be opened, whatever is to be
started. -/
theorem execute_file_effects {k : Kernel σ} {φ : Type} (v : k.FileView φ) (pipeline : Pipeline)
    (w : World σ) :
    (∀ abort w₀, w.openPipes pipeline.pipeCount = (.error abort, w₀) →
      (execute k.platform pipeline w).1 = .error abort ∧
        (execute k.platform pipeline w).2.state = w.state) ∧
    ∀ pipes w₀, w.openPipes pipeline.pipeCount = (.ok pipes, w₀) →
      ∃ results openings touched, FileEffects v pipeline w results openings touched := by
  constructor
  · intro abort w₀ h
    rw [execute, h]
    exact ⟨rfl, World.state_openPipes h⟩
  · intro pipes w₀ h
    obtain ⟨rfl, hopening, new, -, hholdings⟩ := openPipes_ok h
    obtain ⟨results, w₁, hlaunches, hexecute⟩ := execute_of_openPipes_ok (p := k.platform) h
    have hstate : (w₀.readyToLaunch pipeline).state = w.state := by
      have hsame : (w₀.readyToLaunch pipeline).state = w₀.state := rfl
      rw [hsame, World.state_openPipes h]
    have hroom : (w₀.readyToLaunch pipeline).holdings.room = w.holdings.room := by
      have hsame : (w₀.readyToLaunch pipeline).holdings.room = w₀.holdings.room := rfl
      rw [hsame, hholdings]
    obtain ⟨openings, hturns⟩ := Kernel.opensInTurn_of_launches hroom hlaunches
    rw [hstate] at hturns
    have hshows := showsExecution k.honoursContract.keepsJournal hopening hlaunches
      (entriesOf pipeline.plans results) (refusalOf pipeline.plans results)
    have hcourse := hturns.course v
    refine ⟨results, openings, v.files w₁.state, ?_, hcourse, hcourse.eq_foldl, ?_, ?_, ?_⟩
    · rw [hexecute]
      exact hshows.launches
    · exact ⟨_, w₁.readyToReap (refusalOf pipeline.plans results), rfl, hturns,
        by rw [hexecute]⟩
    · intro hwait
      rw [hexecute]
      exact Kernel.FileView.files_reap hwait _ _
    · intro hk i j earlier later path hlt hearlier hopened houtput hlater hinput
      exact hturns.found hk hlt hearlier hopened houtput hlater hinput

/-- An empty machine executes `a > f | < f`. There is no program `a`, but the first stage has
created an empty file, and the second one finds it. -/
theorem execute_file_effects_fresh :
    let pipeline : Pipeline := ⟨[⟨["a"], none, some "f"⟩, ⟨[], some "f", none⟩], by simp⟩
    let w : World Machine := { state := { store := ⟨#[Store.emptyDirectory]⟩ } }
    Machine.kernel.KeepsNames ∧ ∃ results openings touched,
      FileEffects Machine.fileView pipeline w results openings touched ∧
        openings[0]? = some .opened ∧ openings[1]? ≠ some (.noInput (.os .ENOENT)) ∧
        ∃ id, touched.2.locate touched.1 "f" = .ok id ∧
          touched.2.content? id = some (.file .empty) := by
  intro pipeline w
  obtain ⟨results, openings, touched, heffects⟩ :=
    (execute_file_effects Machine.fileView pipeline w).2 _ _ rfl
  have hopened : openings[0]? = some .opened := by
    obtain ⟨entries, w₁, -, hturns, -⟩ := heffects.waits
    obtain ⟨opening, result, s₁, hfirst, hopens⟩ := hturns.exists_opens
    have hanswer : (Machine.kernel.openOutput "f" w.state).1.isOk = true := by decide +kernel
    rw [hfirst, hopens.eq_opened rfl rfl (by decide) hanswer]
  have hfound : openings[1]? ≠ some (.noInput (.os .ENOENT)) :=
    heffects.found Machine.keepsNames 1 0 _ _ "f" Nat.zero_lt_one rfl hopened rfl rfl rfl
  have htouched : touched = Machine.fileView.emptied "f" (Machine.fileView.files w.state) := by
    rw [heffects.effects]
    obtain ⟨rest, rfl⟩ : ∃ rest, openings = .opened :: rest := by
      rcases openings with - | ⟨first, rest⟩
      · cases hopened
      · exact ⟨rest, by rw [Option.some.inj hopened]⟩
    -- the second stage has no output file, so that its openings have no effect
    rcases rest with - | ⟨- | - | -, rest⟩ <;> rfl
  refine ⟨Machine.keepsNames, results, openings, touched, heffects, hopened, hfound, ?_⟩
  have hcreates : (w.state.store.create w.state.here ("f" : Octets) 0o644).toOption.map (·.2.2) =
      some true := by decide +kernel
  rw [htouched]
  rcases hcreated : w.state.store.create w.state.here ("f" : Octets) 0o644 with
    errno | ⟨id, store, created⟩
  · rw [hcreated] at hcreates
    cases hcreates
  · rw [hcreated] at hcreates
    exact ⟨id, Store.locate_emptied hcreated (.inl (Option.some.inj hcreates))⟩

-- `a > f | < f > g | b < h > i`: there is no program, and no file `h`
example : (execute Machine.platform
    ⟨[⟨["a"], none, some "f"⟩, ⟨[], some "f", some "g"⟩, ⟨["b"], some "h", some "i"⟩], by simp⟩
    { state := { store := ⟨#[Store.emptyDirectory]⟩ } }).2.state.store.listing 2 [] Store.root =
      [(['f'], .file .empty), (['g'], .file .empty)] := by decide +kernel

end LineShell
