import LineShell.Proofs.LaunchOrder
import LineShell.Proofs.Status

/-!
# What a platform keeps

Much of what a platform knows has nothing to do with pipelines: what is still to be read
from the standard input, say, or which of its children are sure to end. If no operation
touches it, no pipeline does, and no line of a session. Of a platform that consists of
system calls it is enough to look at these.

## Main definitions

* `Platform.Keeps`, `Kernel.Keeps` — every operation keeps a property of the state.

## Main results

* `Platform.Keeps.execute`, `Platform.Keeps.run` — so does a pipeline, and so does a line.
* `Kernel.Keeps.platform` — a platform keeps what the calls keep that it is made of.
-/

namespace LineShell

variable {σ : Type} {valid : σ → Prop}

/-- Every operation of a platform keeps a property of its state. -/
structure Platform.Keeps (p : Platform σ) (valid : σ → Prop) : Prop where
  /-- Launches keep it. -/
  launch : ∀ plan w, valid w.state → valid (p.launch plan w).2.state
  /-- So does printing. -/
  print : ∀ stream text s, valid s → valid (p.print stream text s)
  /-- So do waits. -/
  wait : ∀ child s, valid s → valid (p.wait child s).2

/-! ### Pipelines and lines -/

namespace Platform.Keeps

variable {p : Platform σ} (hp : p.Keeps valid) {w : World σ}

include hp

theorem state_launch {plan : Plan} {w₁ : World σ} {result : LaunchResult}
    (h : p.launch plan w = (result, w₁)) (hw : valid w.state) : valid w₁.state := by
  have hstate := hp.launch plan w hw
  rwa [h] at hstate

/-- The launch loop keeps the property. -/
theorem launches {plans : List Plan} {results : List LaunchResult} {w' : World σ}
    (h : Launches p plans w results w') (hw : valid w.state) : valid w'.state := by
  induction h with
  | done w => exact hw
  | started launch rest ih =>
    have hstate := hp.state_launch launch hw
    exact ih hstate
  | failed launch rest ih =>
    have hstate := hp.state_launch launch hw
    exact ih (hp.print _ _ _ hstate)
  | refused launch =>
    have hstate := hp.state_launch launch hw
    exact hstate

/-- So does reaping. -/
theorem reap (entries : List Entry) (hw : valid w.state) :
    valid (LineShell.reap p entries w).2.state := by
  induction entries generalizing w with
  | nil => exact hw
  | cons e entries ih =>
    rw [reap_cons]
    rcases hchild : e.child with fault | child
    · rw [e.reap_failed p hchild]
      exact ih hw
    · rw [e.reap_running p hchild]
      exact ih (w := (w.await p child).2) (hp.wait child w.state hw)

/-- A pipeline keeps the property. -/
theorem execute (pipeline : Pipeline) (hw : valid w.state) :
    valid (LineShell.execute p pipeline w).2.state := by
  rcases hopen : w.openPipes pipeline.pipeCount with ⟨abort | pipes, w₀⟩
  · rw [execute_eq_of_openPipes_error hopen, World.state_openPipes hopen]
    exact hw
  obtain ⟨rfl, -, -⟩ := openPipes_ok hopen
  obtain ⟨results, w₁, hlaunches, hexecute⟩ := execute_of_openPipes_ok (p := p) hopen
  -- creating the pipes is no matter of the platform
  have hready : valid (w₀.readyToLaunch pipeline).state := by
    rw [← World.state_openPipes hopen] at hw
    exact hw
  have hlaunched : valid w₁.state := hp.launches hlaunches hready
  rw [hexecute]
  exact hp.reap (entriesOf pipeline.plans results)
    (w := w₁.readyToReap (refusalOf pipeline.plans results)) hlaunched

/-- So does a line that is handed to a session. -/
theorem run (call : LineCall) (s : Session) (hw : valid w.state) :
    valid (call.run p s w).2.state :=
  call.run_keeps (P := fun w => valid w.state)
    (fun pipeline _ hstate => hp.execute pipeline hstate)
    (fun _ _ hstate => hp.print _ _ _ hstate) s hw

end Platform.Keeps

/-! ### System calls -/

/-- Every call of a system keeps a property of its state. -/
structure Kernel.Keeps (k : Kernel σ) (valid : σ → Prop) : Prop where
  /-- Opening a file for reading keeps it. -/
  openInput : ∀ path s, valid s → valid (k.openInput path s).2
  /-- So does opening a file for writing. -/
  openOutput : ∀ path s, valid s → valid (k.openOutput path s).2
  /-- So does starting a process. -/
  spawn : ∀ command s, valid s → valid (k.spawn command s).2
  /-- So does waiting for it. -/
  wait : ∀ child s, valid s → valid (k.wait child s).2
  /-- So does printing. -/
  print : ∀ stream text s, valid s → valid (k.print stream text s)

section Opening

variable {free : Bool} {call : String → σ → Except SystemError FileHandle × σ}
  (hcall : ∀ path s, valid s → valid (call path s).2) {s s' : σ}

include hcall

theorem Attempt.keeps {path : String} {result : Except SystemError FileHandle}
    (h : Attempt free call path s result s') (hs : valid s) : valid s' := by
  cases h with
  | invalid invalid => exact hs
  | full valid full => exact hs
  | answered valid room answer =>
    have hstate := hcall path s hs
    rwa [answer] at hstate

theorem Provides.keeps {channel : Channel String} {opened : Channel FileHandle}
    (h : Provides free call s channel opened s') (hs : valid s) : valid s' := by
  cases h with
  | inherit => exact hs
  | pipe tip => exact hs
  | file opened => exact opened.keeps hcall hs

end Opening

namespace Kernel.Keeps

variable {k : Kernel σ} (hk : k.Keeps valid) {s s' : σ} {result : LaunchResult}

include hk

theorem starts {stdin stdout : Channel FileHandle} {arguments : List String}
    (h : k.Starts stdin stdout s arguments result s') (hs : valid s) : valid s' := by
  cases h with
  | noCommand => exact hs
  | holdsNul nul => exact hs
  | @notSpawned program operands cause s' plain answer =>
    have hstate := hk.spawn { program, operands, stdin, stdout } s hs
    rwa [answer] at hstate
  | @spawned program operands child s' plain answer =>
    have hstate := hk.spawn { program, operands, stdin, stdout } s hs
    rwa [answer] at hstate

/-- Whichever way out a launch takes, the property is kept. -/
theorem exits {plan : Plan} {h : Holdings} {opened : List FileHandle}
    (hexits : k.Exits plan h s opened result s') (hs : valid s) : valid s' := by
  cases hexits with
  | noInput input refused => exact refused.keeps hk.openInput hs
  | noOutput input output refused =>
    exact refused.keeps hk.openOutput (input.keeps hk.openInput hs)
  | tried input output starts =>
    exact hk.starts starts (output.keeps hk.openOutput (input.keeps hk.openInput hs))

/-- A platform keeps what the calls keep that it is made of. -/
theorem platform : k.platform.Keeps valid where
  launch plan w hw := by
    obtain ⟨opened, result, s', hexits⟩ := k.exists_exits plan w.holdings w.state
    have hstate : (k.launch plan w).2.state = s' := (launch_of_exits hexits).2.1
    have hplatform : k.platform.launch plan w = k.launch plan w := rfl
    rw [hplatform, hstate]
    exact hk.exits hexits hw
  print := hk.print
  wait := hk.wait

end Kernel.Keeps

end LineShell
