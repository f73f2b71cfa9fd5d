import LineShell.Proofs.MachineFiles

/-!
# What is wrong with a path

When a machine does not open a file, that is because of the path: it leads nowhere, or
through something that is no directory, it is too long or goes round in circles, or it
leads to what must not be opened.  A machine never runs out of anything.

## Main definitions

* `pathErrnos` — the error numbers that say what is wrong with a path.

## Main results

* `Store.mem_pathErrnos_of_locate`, `Store.mem_pathErrnos_of_create` — nothing else goes
  wrong on the way to a node.
* `Machine.exists_of_openInput_error`, `Machine.exists_of_openOutput_error` — nor when a
  file is opened.
-/

namespace LineShell

/-- The error numbers that say what is wrong with a path. -/
def pathErrnos : List Errno := [.ENOENT, .ENOTDIR, .ELOOP, .ENAMETOOLONG, .EACCES, .EISDIR]

theorem mem_pathErrnos_of_refusal? {path : Octets} {errno : Errno}
    (h : Path.refusal? path = some errno) : errno ∈ pathErrnos := by
  unfold Path.refusal? at h
  split_ifs at h <;> cases h <;> decide

/-- A path that no file can have is not refused for want of a descriptor. -/
theorem pathError?_ne_full (path : String) : pathError? path ≠ some (.os .EMFILE) := by
  intro h
  unfold pathError? at h
  split_ifs at h
  · cases h
  · obtain ⟨errno, hrefusal, herrno⟩ := Option.map_eq_some_iff.mp h
    cases herrno
    exact absurd (mem_pathErrnos_of_refusal? hrefusal) (by decide)

/-! ### On the way to a node -/

namespace Store

variable {s : Store} {last : Bool} {errno : Errno} {here : NodeId}

theorem mem_pathErrnos_of_turn {name : Octets} (h : s.turn here name = .refused errno) :
    errno ∈ pathErrnos := by
  unfold turn at h
  cases hshape : s.shape here with
  | directory parent =>
    simp only [hshape] at h
    split_ifs at h
    · cases h
      decide
    · cases h
      decide
    · -- a name that was looked up is not refused any more
      cases hlookup : s.lookup here name with
      | none =>
        simp only [hlookup] at h
        cases h
      | some id =>
        simp only [hlookup] at h
        split at h <;> cases h
  | link target =>
    simp only [hshape] at h
    cases h
    decide
  | device device =>
    simp only [hshape] at h
    cases h
    decide
  | plain =>
    simp only [hshape] at h
    cases h
    decide

theorem mem_pathErrnos_of_leg {place : Place} {path : List Octets}
    (h : s.leg last place path = .stuck errno) : errno ∈ pathErrnos := by
  induction path generalizing place with
  | nil => cases h
  | cons name rest ih =>
    cases hnode : place.node with
    | none =>
      simp only [leg, hnode] at h
      cases h
      decide
    | some here =>
      rw [leg_cons hnode] at h
      cases hturn : s.turn here name with
      | refused other =>
        simp only [hturn] at h
        cases h
        exact mem_pathErrnos_of_turn hturn
      | moved directory =>
        simp only [hturn] at h
        exact ih h
      | vacant =>
        simp only [hturn] at h
        split_ifs at h
        cases h
        decide
      | entered id =>
        simp only [hturn] at h
        exact ih h
      | link id target =>
        simp only [hturn] at h
        split_ifs at h

theorem mem_pathErrnos_of_follow {links : Nat} {slash : Bool} {path : List Octets}
    (h : s.follow last links here slash path = .error errno) : errno ∈ pathErrnos := by
  induction links generalizing here slash path with
  | zero =>
    unfold follow at h
    split at h
    · cases h
    · next hleg =>
      cases h
      exact mem_pathErrnos_of_leg hleg
    · cases h
      decide
  | succ links ih =>
    unfold follow at h
    split at h
    · cases h
    · next hleg =>
      cases h
      exact mem_pathErrnos_of_leg hleg
    · exact ih h

theorem mem_pathErrnos_of_find {path : Octets} (h : s.find here last path = .error errno) :
    errno ∈ pathErrnos := by
  unfold find at h
  split at h
  · next hrefusal =>
    cases h
    exact mem_pathErrnos_of_refusal? hrefusal
  · exact mem_pathErrnos_of_follow h

theorem mem_pathErrnos_of_locate {path : Octets} (h : s.locate here path last = .error errno) :
    errno ∈ pathErrnos := by
  unfold locate at h
  split at h
  · next hfind =>
    cases h
    exact mem_pathErrnos_of_find hfind
  · cases h
    decide
  · split_ifs at h
    cases h
    decide

theorem mem_pathErrnos_of_create {path : Octets} {mode : Nat}
    (h : s.create here path mode = .error errno) : errno ∈ pathErrnos := by
  unfold create at h
  split_ifs at h
  · split at h
    · next hfollow =>
      cases h
      exact mem_pathErrnos_of_follow hfollow
    · cases h
      decide
    · cases h
      split_ifs <;> decide
  · split at h
    · next hfind =>
      cases h
      exact mem_pathErrnos_of_find hfind
    · cases h
      decide
    · split at h
      · cases h
      · -- the place is vacant, and its directory may be closed to new names
        unfold occupy at h
        split_ifs at h
        cases h
        decide

end Store

/-! ### At the node -/

namespace Machine

variable {m : Machine} {path : String} {cause : SystemError}

theorem mem_pathErrnos_of_openNode {p : Process} {id : NodeId} {mode : OpenMode} {errno : Errno}
    (h : m.openNode p id mode = .error errno) : errno ∈ pathErrnos := by
  unfold openNode at h
  split at h
  · cases h
    decide
  · cases h
    decide
  · split_ifs at h <;> cases h <;> decide
  · split at h
    · cases h
      decide
    · cases h
    · cases h
  · split_ifs at h
    · cases h
      decide
    · split at h <;> cases h

/-- When a file is not opened for reading, its path is to blame. -/
theorem exists_of_openInput_error (h : (m.openInput path).1 = .error cause) :
    ∃ errno ∈ pathErrnos, cause = .os errno := by
  rw [openInput_eq] at h
  split at h
  · next errno hlocate =>
    cases h
    exact ⟨errno, Store.mem_pathErrnos_of_locate hlocate, rfl⟩
  · split at h
    · next errno hnode =>
      cases h
      exact ⟨errno, mem_pathErrnos_of_openNode hnode, rfl⟩
    · cases h

/-- So it is when one is not opened for writing. -/
theorem exists_of_openOutput_error (h : (m.openOutput path).1 = .error cause) :
    ∃ errno ∈ pathErrnos, cause = .os errno := by
  rw [openOutput_eq] at h
  split at h
  · next errno hcreate =>
    cases h
    exact ⟨errno, Store.mem_pathErrnos_of_create hcreate, rfl⟩
  · cases h
  · split at h
    · next errno hnode =>
      cases h
      exact ⟨errno, mem_pathErrnos_of_openNode hnode, rfl⟩
    · cases h

end Machine

end LineShell
