import LineShell.Machine
import LineShell.Proofs.LaunchOrder

/-!
# How programs are found

The name of a program with a slash is the path of a file.  Any other name is looked for in
the directories of the search path, one after the other: a file that does not exist or may
not be executed is passed over, and the first other one decides.  That one of the files may
not be executed is forgotten when a later one runs; when all are passed over it is what the
stage is reported for, wherever the file stood on the way.

## Main definitions

* `furtherErrnos`, `PassedOver` — the errors of files that are passed over.
* `GoesOn` — the errors after which a search goes on.
* `Kernel.LooksUp` — a system that starts the program it finds at one of some paths.
* `Kernel.Resolves`, `Kernel.RunsAsGiven` — what the files at these paths mean for a stage.

## Main results

* `searchFrom_append` — what a search remembers of the files that were passed over.
* `Kernel.launch_lookup` — the files at the paths decide what becomes of a stage.
* `Machine.looksUp` — a machine looks programs up on its search path.
-/

namespace LineShell

/-! ### Files that are passed over -/

/-- The errors of a file that say to look further: there is none, or it may not be executed. -/
def furtherErrnos : List Errno := [.ENOENT, .ENOTDIR, .EACCES]

/-- The errors after which a search goes on. There may be others, but none by which a file
that may be executed turns out not to be a program. -/
structure GoesOn (passed : List Errno) : Prop where
  /-- It goes on where there is no file, or none that may be executed. -/
  further : ∀ errno ∈ furtherErrnos, errno ∈ passed
  /-- It ends at a file that cannot be executed for another reason. -/
  ends : ∀ errno ∈ unexecutableErrnos, errno ≠ .EACCES → errno ∉ passed

/-- The search of the system goes on after these errors, and where a file system is gone. -/
theorem goesOn_passedOver : GoesOn passedOver :=
  ⟨by decide, by decide⟩

section Search

variable {α : Type} {passed : List Errno} {attempt : Octets → Except Errno α}
  {denied : Bool} {last : Errno} {before paths : List Octets} {path : Octets}

/-- The file at a path is passed over. -/
def PassedOver (attempt : Octets → Except Errno α) (path : Octets) : Prop :=
  ∃ errno ∈ furtherErrnos, attempt path = .error errno

instance (attempt : Octets → Except Errno α) (path : Octets) :
    Decidable (PassedOver attempt path) :=
  match h : attempt path with
  | .error errno => decidable_of_iff (errno ∈ furtherErrnos) (by simp [PassedOver, h])
  | .ok a => isFalse (by simp [PassedOver, h])

theorem mem_missingErrnos_of_further {errno : Errno} (h : errno ∈ furtherErrnos)
    (hne : errno ≠ .EACCES) : errno ∈ missingErrnos := by
  simp only [furtherErrnos, List.mem_cons, List.not_mem_nil, or_false] at h
  rcases h with rfl | rfl | rfl
  · decide
  · decide
  · exact absurd rfl hne

/-- Of the files that were passed over a search remembers whether one of them may not be
executed, and if there is none, that the last one does not exist. -/
theorem searchFrom_append (hpassed : GoesOn passed) (denied : Bool) (last : Errno)
    (hbefore : ∀ path ∈ before, PassedOver attempt path) :
    ∃ denied' last',
      (∀ rest, searchFrom passed attempt denied last (before ++ rest) =
        searchFrom passed attempt denied' last' rest) ∧
      (denied' = true ↔ denied = true ∨ ∃ path ∈ before, attempt path = .error .EACCES) ∧
      (denied' = false → last ∈ missingErrnos → last' ∈ missingErrnos) := by
  induction before generalizing denied last with
  | nil => exact ⟨denied, last, fun rest => rfl, by simp, fun _ h => h⟩
  | cons path before ih =>
    obtain ⟨errno, hfurther, hpath⟩ := hbefore path List.mem_cons_self
    obtain ⟨denied', last', hsearch, hdenied, hlast⟩ :=
      ih (denied || errno = .EACCES) errno fun other h => hbefore other (List.mem_cons_of_mem _ h)
    refine ⟨denied', last', fun rest => ?_, ?_, fun hno _ => ?_⟩
    · simp only [List.cons_append, searchFrom, hpath, if_pos (hpassed.further errno hfurther)]
      exact hsearch rest
    · rw [hdenied]
      simp [hpath, or_assoc]
    · -- the error of this file is the last one now, and it does not stand for a refusal
      refine hlast hno (mem_missingErrnos_of_further hfurther fun heq => ?_)
      have hyes : denied' = true := hdenied.mpr (Or.inl (by simp [heq]))
      simp [hno] at hyes

variable (hpassed : GoesOn passed)

include hpassed

/-- The first file that is not passed over runs. -/
theorem searchFrom_of_ok (after : List Octets) {a : α}
    (hbefore : ∀ p ∈ before, PassedOver attempt p) (hpath : attempt path = .ok a) :
    searchFrom passed attempt denied last (before ++ path :: after) = .ok a := by
  obtain ⟨denied', last', hsearch, -, -⟩ := searchFrom_append hpassed denied last hbefore
  rw [hsearch, searchFrom, hpath]

/-- Or the search ends at it. -/
theorem searchFrom_of_error (after : List Octets) {errno : Errno}
    (hbefore : ∀ p ∈ before, PassedOver attempt p) (hpath : attempt path = .error errno)
    (hends : errno ∉ passed) :
    searchFrom passed attempt denied last (before ++ path :: after) = .error errno := by
  obtain ⟨denied', last', hsearch, -, -⟩ := searchFrom_append hpassed denied last hbefore
  rw [hsearch, searchFrom, hpath]
  exact if_neg hends

variable (hpaths : ∀ p ∈ paths, PassedOver attempt p)

include hpaths

/-- A file that may not be executed is reported if nothing else is found. -/
theorem searchFrom_of_denied (hdenied : ∃ p ∈ paths, attempt p = .error .EACCES) :
    searchFrom passed attempt denied last paths = .error .EACCES := by
  obtain ⟨denied', last', hsearch, hiff, -⟩ := searchFrom_append hpassed denied last hpaths
  have hyes : denied' = true := hiff.mpr (Or.inr hdenied)
  have hend := hsearch []
  rw [List.append_nil, hyes] at hend
  exact hend

/-- Without such a file there is none of the name. -/
theorem searchFrom_of_missing (hlast : last ∈ missingErrnos)
    (hnone : ∀ p ∈ paths, attempt p ≠ .error .EACCES) :
    ∃ errno ∈ missingErrnos, searchFrom passed attempt false last paths = .error errno := by
  obtain ⟨denied', last', hsearch, hiff, hlast'⟩ := searchFrom_append hpassed false last hpaths
  have hno : denied' = false := by
    rw [← Bool.not_eq_true, hiff]
    simpa using hnone
  refine ⟨last', hlast' hno hlast, ?_⟩
  have hend := hsearch []
  rw [List.append_nil, hno] at hend
  exact hend

end Search

/-- A single path is not searched for. -/
theorem searchFrom_singleton {α : Type} (passed : List Errno)
    (attempt : Octets → Except Errno α) (last : Errno) (path : Octets) :
    searchFrom passed attempt false last [path] = attempt path := by
  rw [searchFrom]
  split
  · next h => rw [h]
  · next errno h =>
    rw [h]
    split
    · by_cases heq : errno = .EACCES <;> simp [searchFrom, heq]
    · rfl

/-! ### Systems that look programs up -/

variable {σ : Type}

namespace Kernel

/-- A system starts the program that it finds at one of some paths, where an attempt to
start the file at a path gives a process, with the state of the system in which it runs,
or an error. -/
def LooksUp (k : Kernel σ) (passed : List Errno) (paths : List Octets)
    (attempt : Octets → Except Errno (ProcessId × σ)) (c : Command) (s : σ) : Prop :=
  match searchFrom passed attempt false .ENOENT paths with
  | .ok (child, s') => k.spawn c s = (.ok child, s')
  | .error errno => (k.spawn c s).1 = .error (.os errno)

section Found

variable {k : Kernel σ} {plan : Plan} {w : World σ} {c : Command} {s : σ}
  {passed : List Errno} {paths : List Octets}
  {attempt : Octets → Except Errno (ProcessId × σ)} (h : k.Reaches plan w c s)
  (plain : ∀ text ∈ c.program :: c.operands, '\x00' ∉ text.toList)
  (hlooks : k.LooksUp passed paths attempt c s)

include h plain hlooks

/-- The program that is found is started. -/
theorem launch_of_found {child : ProcessId} {s' : σ}
    (hfound : searchFrom passed attempt false .ENOENT paths = .ok (child, s')) :
    (k.launch plan w).1 = .ok child ∧ (k.launch plan w).2.state = s' := by
  rw [LooksUp, hfound] at hlooks
  exact launch_of_reaches h (.spawned plain hlooks)

/-- The error of the search is the error of the launch. -/
theorem launch_of_not_found {errno : Errno}
    (hfound : searchFrom passed attempt false .ENOENT paths = .error errno) :
    (k.launch plan w).1 = .error (classify c.program (.os errno)) := by
  rw [LooksUp, hfound] at hlooks
  exact (launch_of_reaches h (.notSpawned plain (Prod.ext hlooks rfl))).1

end Found

/-! ### What becomes of a stage -/

/-- The files at some paths decide whether a stage runs, and what it is reported for. -/
structure Resolves (k : Kernel σ) (plan : Plan) (w : World σ) (program : String)
    (paths : List Octets) (attempt : Octets → Except Errno (ProcessId × σ)) : Prop where
  /-- The first file that is not passed over runs, if it can be executed. -/
  runs : ∀ before path after child s, paths = before ++ path :: after →
    (∀ p ∈ before, PassedOver attempt p) → attempt path = .ok (child, s) →
      (k.launch plan w).1 = .ok child ∧ (k.launch plan w).2.state = s
  /-- If it cannot be executed, that is what the stage is reported for. -/
  unexecutable : ∀ before path after errno, paths = before ++ path :: after →
    (∀ p ∈ before, PassedOver attempt p) → attempt path = .error errno →
      errno ∈ unexecutableErrnos → errno ≠ .EACCES →
        (k.launch plan w).1 = .error (.stage (.notExecutable program (.os errno)))
  /-- If all files are passed over and one of them may not be executed, this one counts. -/
  denied : (∀ p ∈ paths, PassedOver attempt p) → (∃ p ∈ paths, attempt p = .error .EACCES) →
    (k.launch plan w).1 = .error (.stage (.notExecutable program (.os .EACCES)))
  /-- If none of them exists, there is no program of the name. -/
  missing : (∀ p ∈ paths, PassedOver attempt p) → (∀ p ∈ paths, attempt p ≠ .error .EACCES) →
    (k.launch plan w).1 = .error (.stage (.notFound program))

/-- The file at a path decides alone. -/
structure RunsAsGiven (k : Kernel σ) (plan : Plan) (w : World σ) (program : String)
    (path : Octets) (attempt : Octets → Except Errno (ProcessId × σ)) : Prop where
  /-- It runs. -/
  runs : ∀ child s, attempt path = .ok (child, s) →
    (k.launch plan w).1 = .ok child ∧ (k.launch plan w).2.state = s
  /-- It cannot be executed. -/
  unexecutable : ∀ errno ∈ unexecutableErrnos, attempt path = .error errno →
    (k.launch plan w).1 = .error (.stage (.notExecutable program (.os errno)))
  /-- It does not exist. -/
  missing : ∀ errno ∈ missingErrnos, attempt path = .error errno →
    (k.launch plan w).1 = .error (.stage (.notFound program))

section Lookup

variable {k : Kernel σ} {plan : Plan} {w : World σ} {c : Command} {s : σ}
  {passed : List Errno} {attempt : Octets → Except Errno (ProcessId × σ)}
  (h : k.Reaches plan w c s) (plain : ∀ text ∈ c.program :: c.operands, '\x00' ∉ text.toList)

include h plain

theorem resolves_of_looksUp (hpassed : GoesOn passed) {paths : List Octets}
    (hlooks : k.LooksUp passed paths attempt c s) : k.Resolves plan w c.program paths attempt := by
  refine ⟨?_, ?_, ?_, ?_⟩
  · rintro before path after child s' rfl hbefore hpath
    exact launch_of_found h plain hlooks (searchFrom_of_ok hpassed after hbefore hpath)
  · rintro before path after errno rfl hbefore hpath herrno hne
    have hends := hpassed.ends errno herrno hne
    rw [launch_of_not_found h plain hlooks
      (searchFrom_of_error hpassed after hbefore hpath hends),
      classify_of_unexecutable herrno]
  · intro hpaths hdenied
    rw [launch_of_not_found h plain hlooks (searchFrom_of_denied hpassed hpaths hdenied),
      classify_of_unexecutable (by decide)]
  · intro hpaths hnone
    have hlast : Errno.ENOENT ∈ missingErrnos := by decide
    obtain ⟨errno, herrno, hsearch⟩ := searchFrom_of_missing hpassed hpaths hlast hnone
    rw [launch_of_not_found h plain hlooks hsearch, classify_of_missing herrno]

theorem runsAsGiven_of_looksUp {path : Octets} (hlooks : k.LooksUp passed [path] attempt c s) :
    k.RunsAsGiven plan w c.program path attempt := by
  have hsearch := searchFrom_singleton passed attempt .ENOENT path
  refine ⟨?_, ?_, ?_⟩
  · intro child s' hpath
    exact launch_of_found h plain hlooks (hsearch.trans hpath)
  · intro errno herrno hpath
    rw [launch_of_not_found h plain hlooks (hsearch.trans hpath), classify_of_unexecutable herrno]
  · intro errno herrno hpath
    rw [launch_of_not_found h plain hlooks (hsearch.trans hpath), classify_of_missing herrno]

end Lookup

/-- **The files on the search path decide what becomes of a stage** whose redirections are
open, and for a name with a slash the file of that name alone does: the stage runs, or it
fails with the status 126 or 127. Where a NUL character stands in the command, no file is
tried. -/
theorem launch_lookup (k : Kernel σ) {plan : Plan} {w : World σ} {c : Command} {s : σ}
    (hreaches : k.Reaches plan w c s) {passed : List Errno} (hpassed : GoesOn passed)
    (entries : List Octets) {attempt : Octets → Except Errno (ProcessId × σ)}
    (hlooks : k.LooksUp passed (pathsIn entries (Octets.ofText c.program)) attempt c s) :
    ((∀ text ∈ c.program :: c.operands, '\x00' ∉ text.toList) →
      ('/' ∉ Octets.ofText c.program → k.Resolves plan w c.program
        (entries.map (inEntry · (Octets.ofText c.program))) attempt) ∧
      ('/' ∈ Octets.ofText c.program →
        k.RunsAsGiven plan w c.program (Octets.ofText c.program) attempt)) ∧
    ((∃ text ∈ c.program :: c.operands, '\x00' ∈ text.toList) →
      (k.launch plan w).1 = .error (.stage (.notExecutable c.program nulError)) ∧
        (k.launch plan w).2.state = s) ∧
    (∀ cause, (StageFault.notExecutable c.program cause).status = 126) ∧
      (StageFault.notFound c.program).status = 127 := by
  refine ⟨fun plain => ⟨fun hslash => ?_, fun hslash => ?_⟩,
    fun hnul => launch_of_reaches hreaches (.holdsNul hnul), fun cause => rfl, rfl⟩
  · rw [pathsIn_of_not_slash hslash] at hlooks
    exact resolves_of_looksUp hreaches plain hpassed hlooks
  · rw [pathsIn_of_slash hslash] at hlooks
    exact runsAsGiven_of_looksUp hreaches plain hlooks

end Kernel

/-! ### Machines -/

theorem search_eq_searchFrom {α : Type} (attempt : Octets → Except Errno α)
    (searchPath : Option Octets) {name : Octets} (hname : name ≠ [])
    (hlength : '/' ∉ name → name.length ≤ Path.longestName) :
    search attempt searchPath name =
      searchFrom passedOver attempt false .ENOENT (candidates searchPath name) := by
  have hempty : ¬ name.isEmpty = true := by simpa using hname
  rw [search, if_neg hempty]
  by_cases hslash : '/' ∈ name
  · rw [if_pos (List.contains_iff_mem.mpr hslash), candidates, pathsIn_of_slash hslash,
      searchFrom_singleton]
  · have hcontains : ¬ name.contains '/' = true := fun hc => hslash (List.contains_iff_mem.mp hc)
    rw [if_neg hcontains, if_neg (Nat.not_lt.mpr (hlength hslash))]

/-- A machine starts the program that it finds on its search path. -/
theorem Machine.looksUp {c : Command} (m : Machine) (hname : Octets.ofText c.program ≠ [])
    (hlength : '/' ∉ Octets.ofText c.program →
      (Octets.ofText c.program).length ≤ Path.longestName) :
    kernel.LooksUp passedOver
      (candidates (Environment.value? "PATH" m.environment) (Octets.ofText c.program))
      (m.startAt c) c m := by
  have hspawn : kernel.spawn c m = m.spawn c := rfl
  rw [Kernel.LooksUp, hspawn, spawn, ← search_eq_searchFrom _ _ hname hlength]
  cases search (m.startAt c) (Environment.value? "PATH" m.environment) c.program with
  | error errno => rfl
  | ok found => rfl

/-- On the search path a directory is missing, and in the next one stands a file that may not
be executed; the program behind them runs. -/
theorem launch_lookup_shadowed :
    let store : Store := ⟨#[
      { content := .directory Store.root [(['a'], 1), (['b'], 2)], mode := 0o755 },
      { content := .directory Store.root [(['p'], 3)], mode := 0o755 },
      { content := .directory Store.root [(['p'], 4)], mode := 0o755 },
      { content := .file .empty, mode := 0o644 },
      { content := .program ['p'], mode := 0o755 }]⟩
    let m : Machine :=
      { store, environment := ["PATH=/none:/a:/b"], installed := fun _ => some fun _ => .exit 0 }
    let w : World Machine := { state := m }
    let plan : Plan := { index := 0, arguments := ["p"], stdin := .inherit, stdout := .inherit }
    let c : Command := { program := "p", operands := [], stdin := .inherit, stdout := .inherit }
    let entries : List Octets := ["/none", "/a", "/b"]
    Machine.kernel.Reaches plan w c m ∧ GoesOn passedOver ∧
      Machine.kernel.LooksUp passedOver (pathsIn entries (Octets.ofText c.program)) (m.startAt c)
        c m ∧
      (∀ text ∈ c.program :: c.operands, '\x00' ∉ text.toList) ∧ '/' ∉ Octets.ofText c.program ∧
      PassedOver (m.startAt c) "/none/p" ∧ PassedOver (m.startAt c) "/a/p" ∧
      (∃ m', m.startAt c "/b/p" = .ok (2, m')) ∧ (Machine.kernel.launch plan w).1 = .ok 2 := by
  intro store m w plan c entries
  have hreaches : Machine.kernel.Reaches plan w c m := .intro rfl .inherit .inherit
  have hcandidates : candidates (Environment.value? "PATH" m.environment)
      (Octets.ofText c.program) = pathsIn entries (Octets.ofText c.program) := by decide +kernel
  have hlooks := m.looksUp (c := c) (by decide +kernel) fun _ => by decide +kernel
  rw [hcandidates] at hlooks
  have plain : ∀ text ∈ c.program :: c.operands, '\x00' ∉ text.toList := by decide
  have hslash : '/' ∉ Octets.ofText c.program := by decide +kernel
  -- the three attempts, of which the last one starts a process
  have hnone : PassedOver (m.startAt c) "/none/p" := by decide +kernel
  have hdenied : PassedOver (m.startAt c) "/a/p" := by decide +kernel
  have hfound : (m.startAt c "/b/p").toOption.map Prod.fst = some 2 := by decide +kernel
  obtain ⟨m', hstarts⟩ : ∃ m', m.startAt c "/b/p" = .ok (2, m') := by
    cases hattempt : m.startAt c "/b/p" with
    | error errno => simp [hattempt, Except.toOption] at hfound
    | ok started =>
      simp only [hattempt, Except.toOption, Option.map_some, Option.some.injEq] at hfound
      exact ⟨started.2, by rw [← hfound]⟩
  have hresolves := ((Kernel.launch_lookup Machine.kernel hreaches goesOn_passedOver entries
    hlooks).1 plain).1 hslash
  have hruns := hresolves.runs ["/none/p", "/a/p"] "/b/p" [] 2 m' (by decide +kernel)
    (List.forall_mem_cons.mpr ⟨hnone, List.forall_mem_singleton.mpr hdenied⟩) hstarts
  exact ⟨hreaches, goesOn_passedOver, hlooks, plain, hslash, hnone, hdenied, ⟨m', hstarts⟩,
    hruns.1⟩

end LineShell
