import LineShell.Machine
import LineShell.Proofs.Opening
import LineShell.Proofs.PathGrowth

/-!
# What a launch does to the files of a machine

On a machine the files are a store of nodes, and a path is followed through directories and
links.  To open a path for writing creates the file or empties it; the other calls of a
launch leave the store alone.  What was opened for writing once can be found from then on,
since no call of a launch takes a name away.

## Main definitions

* `Store.emptied` — the store after the file at a path was created or emptied.
* `Machine.fileView` — what the calls of a machine do to its files.
* `Machine.Grows` — a machine has all the files that another one has.

## Main results

* `Store.locate_emptied` — the path leads to a file that is empty now.
* `Machine.Grows.not_misses` — what was found is found on a machine that has grown.
* `Machine.keepsNames` — no call of a launch takes a file away.
-/

namespace LineShell

/-- The store after the file at a path was opened for writing by someone in a directory: one
that is not there is created, and one that is there is emptied. -/
def Store.emptied (here : NodeId) (path : Octets) (s : Store) : Store :=
  match s.create here path 0o644 with
  | .error _ => s
  | .ok (_, created, true) => created
  | .ok (id, _, false) =>
    match s.content? id with
    | some (.file _) => s.setContent id (.file .empty)
    | _ => s

/-- A file that is created extends the store, and the path leads to it. -/
theorem Store.create_created {s s' : Store} {here id : NodeId} {path : Octets} {mode : Nat}
    (h : s.create here path mode = .ok (id, s', true)) :
    s.Extends s' ∧ s'.locate here path = .ok id ∧ s'.content? id = some (.file .empty) := by
  unfold create at h
  split at h
  · split at h <;> cases h
  · split at h
    · cases h
    · cases h
    · rename_i place hfind
      split at h
      · cases h
      · rename_i hvacant
        split at h
        · cases h
        · rename_i hoccupy
          cases h
          exact ⟨extends_occupy rfl hoccupy, locate_occupy rfl hfind hvacant hoccupy⟩

/-- A path where something is already is not touched, and it leads there. -/
theorem Store.create_existing {s s' : Store} {here id : NodeId} {path : Octets} {mode : Nat}
    (h : s.create here path mode = .ok (id, s', false)) :
    s' = s ∧ s.locate here path = .ok id := by
  unfold create at h
  split at h
  · split at h <;> cases h
  · split at h
    · cases h
    · cases h
    · rename_i place hfind
      split at h
      · rename_i hnode
        cases h
        refine ⟨rfl, ?_⟩
        obtain ⟨directory, name, node⟩ := place
        simp only at hnode
        simp [locate, hfind, hnode]
      · split at h <;> cases h

/-- The path leads to a file that is empty now, unless it leads to no file at all. -/
theorem Store.locate_emptied {s s' : Store} {here id : NodeId} {path : Octets} {created : Bool}
    (h : s.create here path 0o644 = .ok (id, s', created))
    (hfile : created = true ∨ ∃ data, s.content? id = some (.file data)) :
    (s.emptied here path).locate here path = .ok id ∧
      (s.emptied here path).content? id = some (.file .empty) := by
  cases created with
  | true =>
    obtain ⟨-, hlocate, hcontent⟩ := create_created h
    simp only [emptied, h]
    exact ⟨hlocate, hcontent⟩
  | false =>
    obtain ⟨data, hdata⟩ := hfile.resolve_left (by simp)
    obtain ⟨rfl, hlocate⟩ := create_existing h
    simp only [emptied, h, hdata]
    refine ⟨?_, by simp [content?_setContent, hdata]⟩
    rw [(extends_setContent hdata .empty).locate (by simp [hlocate]), hlocate]

example : (Store.emptied Store.root "f" ⟨#[Store.emptyDirectory]⟩).listing 2 [] Store.root =
    [(['f'], .file .empty)] := by decide

namespace Machine

variable {m m' : Machine} {path : String} {p : Process} {id : NodeId}

/-! ### Opening a node -/

/-- To open a node empties a file, where the mode says so, and changes nothing else. -/
theorem openNode_ok {mode : OpenMode} {file : OpenFile}
    (h : m.openNode p id mode = .ok (file, m')) :
    (m' = m ∧ (mode.empties = true → ∀ data, m.store.content? id ≠ some (.file data))) ∨
      mode.empties = true ∧ ∃ data, m.store.content? id = some (.file data) ∧
        m' = { m with store := m.store.setContent id (.file .empty) } := by
  unfold openNode at h
  split at h
  · cases h
  · cases h
  · -- a directory
    rename_i parent names hcontent
    split at h
    · cases h
    split at h
    · cases h
    cases h
    exact Or.inl ⟨rfl, by simp [hcontent]⟩
  · -- a device that leads to a descriptor
    rename_i number hcontent
    split at h <;> cases h <;> exact Or.inl ⟨rfl, by simp [hcontent]⟩
  · rename_i content _ _ _ hcontent
    split at h
    · cases h
    cases content with
    | file data =>
      cases hempties : mode.empties with
      | true =>
        simp only [hempties] at h
        cases h
        exact Or.inr ⟨rfl, data, hcontent, rfl⟩
      | false =>
        simp only [hempties] at h
        cases h
        exact Or.inl ⟨rfl, by simp⟩
    | directory _ _ | link _ | program _ | device _ =>
      simp only at h
      cases h
      exact Or.inl ⟨rfl, by simp [hcontent]⟩

/-- Whether a process that opens a node finds nothing: there is no node, or it
stands for a descriptor that leads nowhere. -/
def Lacks (m : Machine) (p : Process) (id : NodeId) : Prop :=
  m.store.content? id = none ∨
    ∃ number, m.store.shape id = .device (.descriptor number) ∧ m.fileOf? p number = none

theorem openNode_of_lacks (h : m.Lacks p id) (mode : OpenMode) :
    m.openNode p id mode = .error .ENOENT := by
  rcases h with hnone | ⟨number, hshape, hfile⟩
  · simp [openNode, hnone]
  · have hcontent : m.store.content? id = some (.device (.descriptor number)) := by
      unfold Store.shape at hshape
      split at hshape <;> cases hshape
      assumption
    simp [openNode, hcontent, hfile]

theorem lacks_of_openNode_input (h : m.openNode p id .input = .error .ENOENT) :
    m.Lacks p id := by
  have hloop : Errno.ELOOP ≠ Errno.ENOENT := by decide
  have haccess : Errno.EACCES ≠ Errno.ENOENT := by decide
  unfold openNode at h
  split at h
  · exact Or.inl (by assumption)
  · exact absurd (Except.error.inj h) hloop
  · simp only [OpenMode.input, Bool.false_eq_true, if_false] at h
    split at h
    · exact absurd (Except.error.inj h) haccess
    · cases h
  · rename_i number hcontent
    refine Or.inr ⟨number, by simp [Store.shape, hcontent], ?_⟩
    split at h
    · assumption
    · cases h
    · cases h
  · split at h
    · exact absurd (Except.error.inj h) haccess
    · split at h <;> cases h

/-! ### Opening a path -/

/-- To open a path for reading leads to a node, which is opened, and changes nothing but what
is open. -/
theorem openInput_eq (path : String) (m : Machine) : m.openInput path =
    match m.store.locate m.here (path : Octets) with
    | .error errno => (.error (.os errno), m)
    | .ok id =>
      match m.openNode m.self id .input with
      | .error errno => (.error (.os errno), m)
      | .ok (file, _) => (.ok (m.remember file).1, (m.remember file).2) := by
  have hmode : OpenMode.input.creates = false := rfl
  have hself : m.self.here = m.here := rfl
  simp only [openInput, openFor, openPath, hmode, hself, Bool.false_and, Bool.false_eq_true,
    if_false]
  rcases m.store.locate m.here (path : Octets) with errno | id
  · rfl
  · simp only [Except.map]
    rcases hopen : m.openNode m.self id .input with errno | ⟨file, m'⟩
    · rfl
    · obtain ⟨rfl, -⟩ | ⟨hempties, -⟩ := openNode_ok hopen
      · rfl
      · cases hempties

/-- To open a path for writing creates a file, or it leads to a node, which is opened. -/
theorem openOutput_eq (path : String) (m : Machine) : m.openOutput path =
    match m.store.create m.here (path : Octets) 0o644 with
    | .error errno => (.error (.os errno), m)
    | .ok (id, store, true) =>
      (.ok ({ m with store }.remember (.node id 0 .output)).1,
        ({ m with store }.remember (.node id 0 .output)).2)
    | .ok (id, _, false) =>
      match m.openNode m.self id .output with
      | .error errno => (.error (.os errno), m)
      | .ok (file, m') => (.ok (m'.remember file).1, (m'.remember file).2) := by
  have hcreates : OpenMode.output.creates = true := rfl
  have hfresh : OpenMode.output.fresh = false := rfl
  have hmask : m.self.mask = 0o022 := rfl
  have hmode : 0o666 &&& (0o7777 ^^^ m.self.mask) = 0o644 := by rw [hmask]; decide
  have hself : m.self.here = m.here := rfl
  simp only [openOutput, openFor, openPath, hcreates, hfresh, hmode, hself, Bool.and_false,
    Bool.false_eq_true, if_true, if_false]
  rcases m.store.create m.here (path : Octets) 0o644 with errno | ⟨id, store, - | -⟩
  · rfl
  · simp only
    rcases m.openNode m.self id .output with errno | ⟨file, m'⟩ <;> rfl
  · rfl

/-- A path is missed when it leads nowhere, or to a node that is lacking. -/
theorem misses_iff : kernel.Misses path m ↔
    m.store.locate m.here (path : Octets) = .error .ENOENT ∨
      ∃ id, m.store.locate m.here (path : Octets) = .ok id ∧ m.Lacks m.self id := by
  have hopen : (kernel.openInput path m).1 = (m.openInput path).1 := rfl
  rw [Kernel.Misses, hopen, openInput_eq]
  rcases m.store.locate m.here (path : Octets) with errno | id
  · simp
  · constructor
    · intro h
      refine Or.inr ⟨id, rfl, ?_⟩
      rcases hnode : m.openNode m.self id .input with errno | ⟨file, m'⟩
      · simp only [hnode, Except.error.injEq, SystemError.os.injEq] at h
        exact lacks_of_openNode_input (by rw [hnode, h])
      · simp [hnode] at h
    · rintro (h | ⟨other, hother, hlacks⟩)
      · cases h
      · cases hother
        simp [openNode_of_lacks hlacks]

/-- A path that leads to a node that is not lacking is found. -/
theorem not_misses_of_locate (hlocate : m.store.locate m.here (path : Octets) = .ok id)
    (hnode : ¬ m.Lacks m.self id) : ¬ kernel.Misses path m := by
  rw [misses_iff, hlocate, not_or]
  refine ⟨by simp, ?_⟩
  rintro ⟨other, hother, hlacks⟩
  cases hother
  exact hnode hlacks

/-! ### Machines that grow -/

/-- A machine has all the files and openings that another one has. -/
structure Grows (m m' : Machine) : Prop where
  /-- The shell is in the same directory. -/
  here : m'.here = m.here
  /-- The store has grown. -/
  store : m.store.Extends m'.store
  /-- What was open is open. -/
  opened : ∀ i : Nat, m'.opened[i]? = none → m.opened[i]? = none

theorem grows_refl (m : Machine) : m.Grows m := ⟨rfl, Store.extends_refl _, fun _ h => h⟩

theorem Grows.trans {m₁ m₂ : Machine} (h₁ : m.Grows m₁) (h₂ : m₁.Grows m₂) : m.Grows m₂ :=
  ⟨h₂.here.trans h₁.here, h₁.store.trans h₂.store, fun i h => h₁.opened i (h₂.opened i h)⟩

theorem grows_remember (file : OpenFile) (m : Machine) : m.Grows (m.remember file).2 := by
  refine ⟨rfl, Store.extends_refl _, fun i hi => ?_⟩
  simp only [remember, Array.getElem?_eq_none_iff, Array.size_push] at hi ⊢
  omega

/-- A node that is lacking on the larger machine was lacking before. -/
theorem Grows.lacks (h : m.Grows m') (hlacks : m'.Lacks m'.self id) : m.Lacks m.self id := by
  rcases hlacks with hnone | ⟨number, hshape, hfile⟩
  · refine Or.inl (Option.not_isSome_iff_eq_none.mp fun hpresent => ?_)
    have := h.store.present id hpresent
    simp [hnone] at this
  · refine Or.inr ⟨number, (h.store.shape id).symm.trans hshape, ?_⟩
    -- the descriptors of the shell are the same on both machines
    have hslots : m'.self.slot? number = m.self.slot? number := rfl
    unfold fileOf? at hfile ⊢
    rw [hslots] at hfile
    cases hslot : m.self.slot? number with
    | none => rfl
    | some slot =>
      cases hopened : m'.opened[slot.file]? with
      | none => simp [h.opened _ hopened]
      | some file => simp [hslot, hopened] at hfile

/-- What is found is found on a machine that has grown. -/
theorem Grows.not_misses (h : m.Grows m') (hfinds : ¬ kernel.Misses path m) :
    ¬ kernel.Misses path m' := by
  rw [misses_iff, not_or] at hfinds ⊢
  obtain ⟨hleads, hnode⟩ := hfinds
  have hlocate : m'.store.locate m'.here (path : Octets) =
      m.store.locate m.here (path : Octets) := by
    rw [h.here]
    exact h.store.locate hleads
  rw [hlocate]
  refine ⟨hleads, ?_⟩
  rintro ⟨id, hid, hlacks⟩
  exact hnode ⟨id, hid, h.lacks hlacks⟩

/-! ### Machines that keep their files -/

/-- Two machines have the same files, and what is open on one is open on the other. -/
structure Keeps (m m' : Machine) : Prop where
  /-- The store is the same. -/
  store : m'.store = m.store
  /-- The shell is in the same directory. -/
  here : m'.here = m.here
  /-- What was open is open. -/
  opened : ∀ i : Nat, m'.opened[i]? = none → m.opened[i]? = none

theorem keeps_refl (m : Machine) : m.Keeps m := ⟨rfl, rfl, fun _ h => h⟩

theorem Keeps.grows (h : m.Keeps m') : m.Grows m' :=
  ⟨h.here, h.store ▸ Store.extends_refl _, h.opened⟩

theorem Keeps.trans {m₁ m₂ : Machine} (h₁ : m.Keeps m₁) (h₂ : m₁.Keeps m₂) : m.Keeps m₂ :=
  ⟨h₂.store.trans h₁.store, h₂.here.trans h₁.here, fun i h => h₁.opened i (h₂.opened i h)⟩

theorem keeps_remember (file : OpenFile) (m : Machine) : m.Keeps (m.remember file).2 :=
  ⟨rfl, rfl, (grows_remember file m).opened⟩

/-! ### Opening files -/

/-- To open a file for reading leaves the files alone. -/
theorem keeps_openInput (path : String) (m : Machine) : m.Keeps (m.openInput path).2 := by
  rw [openInput_eq]
  split
  · exact keeps_refl m
  · split
    · exact keeps_refl m
    · exact keeps_remember _ m

theorem grows_openOutput (path : String) (m : Machine) : m.Grows (m.openOutput path).2 := by
  rw [openOutput_eq]
  cases hcreate : m.store.create m.here (path : Octets) 0o644 with
  | error errno => exact grows_refl m
  | ok created =>
    obtain ⟨id, store, - | -⟩ := created
    · -- there is something already
      rcases hopen : m.openNode m.self id .output with errno | ⟨file, m'⟩
      · simpa [hopen] using grows_refl m
      · simp only [hopen]
        obtain ⟨rfl, -⟩ | ⟨-, data, hfile, rfl⟩ := openNode_ok hopen
        · exact grows_remember _ _
        · have hemptied : m.Grows { m with store := m.store.setContent id (.file .empty) } :=
            ⟨rfl, Store.extends_setContent hfile _, fun _ h => h⟩
          exact hemptied.trans (grows_remember _ _)
    · have hcreated : m.Grows { m with store } :=
        ⟨rfl, (Store.create_created hcreate).1, fun _ h => h⟩
      exact hcreated.trans (grows_remember _ _)

/-- A file that is opened for writing is created or emptied. -/
theorem files_of_openOutput_ok {handle : FileHandle}
    (h : m.openOutput path = (.ok handle, m')) :
    m'.here = m.here ∧ m'.store = m.store.emptied m.here (path : Octets) := by
  rw [openOutput_eq] at h
  unfold Store.emptied
  cases hcreate : m.store.create m.here (path : Octets) 0o644 with
  | error errno => simp [hcreate] at h
  | ok created =>
    obtain ⟨id, store, - | -⟩ := created
    · rcases hnode : m.openNode m.self id .output with errno | ⟨file, m₁⟩
      · simp [hcreate, hnode] at h
      · simp only [hcreate, hnode, Prod.mk.injEq] at h
        obtain ⟨-, rfl⟩ := h
        obtain ⟨rfl, hother⟩ | ⟨-, data, hfile, rfl⟩ := openNode_ok hnode
        · -- what was opened is no file
          refine ⟨rfl, ?_⟩
          simp only
          split
          · rename_i data hfile
            exact absurd hfile (hother rfl data)
          · rfl
        · exact ⟨rfl, by simp [remember, hfile]⟩
    · simp only [hcreate, Prod.mk.injEq] at h
      obtain ⟨-, rfl⟩ := h
      exact ⟨rfl, rfl⟩

/-- A file that cannot be opened for writing stays what it is. -/
theorem eq_of_openOutput_error {cause : SystemError}
    (h : m.openOutput path = (.error cause, m')) : m' = m := by
  rw [openOutput_eq] at h
  split at h
  · cases h
    rfl
  · cases h
  · split at h <;> cases h
    rfl

/-- What was opened for writing is found from then on. -/
theorem not_misses_of_openOutput {handle : FileHandle}
    (h : m.openOutput path = (.ok handle, m')) : ¬ kernel.Misses path m' := by
  have hgrows : m.Grows m' := by simpa [h] using grows_openOutput path m
  rw [openOutput_eq] at h
  cases hcreate : m.store.create m.here (path : Octets) 0o644 with
  | error errno => simp [hcreate] at h
  | ok created =>
    obtain ⟨id, store, - | -⟩ := created
    · -- a node that was opened for writing is not lacking for reading
      obtain ⟨rfl, hlocate⟩ := Store.create_existing hcreate
      refine hgrows.not_misses (not_misses_of_locate hlocate fun hlacks => ?_)
      simp [hcreate, openNode_of_lacks hlacks] at h
    · obtain ⟨-, hlocate, hfile⟩ := Store.create_created hcreate
      simp only [hcreate, Prod.mk.injEq] at h
      obtain ⟨-, rfl⟩ := h
      refine not_misses_of_locate hlocate fun hlacks => ?_
      -- the new node is a file
      rcases hlacks with hnone | ⟨number, hshape, -⟩
      · exact absurd (hfile.symm.trans hnone) (by simp)
      · have hplain : store.shape id = .plain := by simp [Store.shape, hfile]
        exact absurd (hplain.symm.trans hshape) (by simp)

/-! ### Starting a process -/

theorem keeps_stagePipe (number : Nat) (m : Machine) : m.Keeps (m.stagePipe number).2 := by
  unfold stagePipe
  split <;> exact ⟨rfl, rfl, fun _ h => h⟩

theorem keeps_openingOf (channel : Channel FileHandle) (standard : Nat) (m : Machine) :
    m.Keeps (m.openingOf channel standard).2 := by
  cases channel with
  | inherit => exact keeps_refl m
  | file handle => exact keeps_refl m
  | pipe tip => exact (keeps_stagePipe tip.pipe m).trans (keeps_remember _ _)

theorem keeps_startAt {c : Command} {m m' : Machine} {path : Octets} {id : ProcessId}
    (h : m.startAt c path = .ok (id, m')) : m.Keeps m' := by
  have hopened : m.Keeps ((m.openingOf c.stdin 0).2.openingOf c.stdout 1).2 :=
    (keeps_openingOf c.stdin 0 m).trans (keeps_openingOf c.stdout 1 _)
  simp only [startAt] at h
  split at h
  · cases h
  · split at h
    · cases h
    · cases h
      exact ⟨hopened.store, hopened.here, hopened.opened⟩

/-- The start of a process leaves the files alone. -/
theorem keeps_spawn (c : Command) (m : Machine) : m.Keeps (m.spawn c).2 := by
  rw [spawn]
  split
  · exact keeps_refl m
  · next hsearch =>
    obtain ⟨path, hpath⟩ := exists_of_search_ok hsearch
    exact keeps_startAt hpath

/-! ### The files of a machine -/

/-- The calls of a machine, by what they do to its store; a path counts from the directory
that the shell is in. -/
def fileView : kernel.FileView (NodeId × Store) where
  files m := (m.here, m.store)
  emptied path files := (files.1, files.2.emptied files.1 (path : Octets))
  openInput path m := Prod.ext (keeps_openInput path m).here (keeps_openInput path m).store
  openOutput_ok h := Prod.ext (files_of_openOutput_ok h).1 (files_of_openOutput_ok h).2
  openOutput_error h := by rw [eq_of_openOutput_error h]
  spawn c m := Prod.ext (keeps_spawn c m).here (keeps_spawn c m).store
  print stream text m := by cases stream <;> rfl

/-- No call of a launch takes a file away. -/
theorem keepsNames : kernel.KeepsNames where
  written h := not_misses_of_openOutput h
  openInput other h := (keeps_openInput other _).grows.not_misses h
  openOutput other h := (grows_openOutput other _).not_misses h
  spawn command h := (keeps_spawn command _).grows.not_misses h
  print {path m} stream text h := by
    have hgrows : m.Grows (m.print stream text) := by
      cases stream <;> exact ⟨rfl, Store.extends_refl _, fun _ h => h⟩
    exact hgrows.not_misses h

end Machine

end LineShell
