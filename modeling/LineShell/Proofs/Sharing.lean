import LineShell.Proofs.Wiring
import Mathlib.Data.List.Nodup

/-!
# How the plans share out the pipe ends

The plans of a pipeline can be made over any pipes, whatever numbers their ends have, as
long as no two ends are the same.  Then an end that some plan holds is in that plan only,
and the other ends are displaced.  Which ones these are is seen from the redirections of
the two stages beside the pipe.

## Main definitions

* `Plan.Connects` — a plan is connected as its stage says.
* `SharesEnds` — a wiring connects every stage and uses each end at most once.

## Main results

* `index_eq_of_nodup_flatMap` — an end is in one plan, and in one pipe.
* `exists_mem_ends_wire_iff` — which ends the plans hold.
* `wire_sharesEnds` — the wiring shares out the pipe ends.
-/

namespace LineShell

/-! ### Pipes with distinct ends -/

/-- Where lists taken together hold nothing twice, what is in one is in no other. -/
theorem index_eq_of_nodup_flatMap {α β : Type} {f : α → List β} {l : List α}
    (h : (l.flatMap f).Nodup) {i j : Nat} {a b : α} {x : β} (hi : l[i]? = some a)
    (hj : l[j]? = some b) (ha : x ∈ f a) (hb : x ∈ f b) : i = j := by
  obtain ⟨hi', rfl⟩ := List.getElem?_eq_some_iff.mp hi
  obtain ⟨hj', rfl⟩ := List.getElem?_eq_some_iff.mp hj
  have hdisjoint := List.pairwise_iff_getElem.mp (List.nodup_flatMap.mp h).2
  rcases Nat.lt_trichotomy i j with hlt | heq | hlt
  · exact (hdisjoint i j hi' hj' hlt ha hb).elim
  · exact heq
  · exact (hdisjoint j i hj' hi' hlt hb ha).elim

theorem Pipe.write_mem_of_getElem? {pipes : List Pipe} {k : Nat} {pipe : Pipe}
    (h : pipes[k]? = some pipe) : pipe.write ∈ pipes.flatMap Pipe.ends :=
  List.mem_flatMap.mpr ⟨pipe, List.mem_of_getElem? h, by simp [Pipe.ends]⟩

theorem Pipe.read_mem_of_getElem? {pipes : List Pipe} {k : Nat} {pipe : Pipe}
    (h : pipes[k]? = some pipe) : pipe.read ∈ pipes.flatMap Pipe.ends :=
  List.mem_flatMap.mpr ⟨pipe, List.mem_of_getElem? h, by simp [Pipe.ends]⟩

/-- Where all ends are distinct, no write end is a read end. -/
theorem Pipe.write_ne_read {pipes : List Pipe} (h : (pipes.flatMap Pipe.ends).Nodup) {j k : Nat}
    {a b : Pipe} (hj : pipes[j]? = some a) (hk : pipes[k]? = some b) : a.write ≠ b.read := by
  intro heq
  have hwrite : a.write ∈ a.ends := by simp [Pipe.ends]
  have hread : a.write ∈ b.ends := by simp [Pipe.ends, heq]
  obtain rfl := index_eq_of_nodup_flatMap h hj hk hwrite hread
  obtain rfl : a = b := Option.some.inj (hj.symm.trans hk)
  have hends := (List.nodup_flatMap.mp h).1 a (List.mem_of_getElem? hj)
  simp [Pipe.ends, heq] at hends

/-! ### Sharing out ends -/

/-- The plan of a stage is connected as its redirections and the pipes on its two sides
say. -/
structure Plan.Connects (pipes : List Pipe) (count i : Nat) (stage : Stage) (plan : Plan) :
    Prop where
  /-- The plan has the position of the stage. -/
  index : plan.index = i
  /-- The plan has the arguments of the stage. -/
  arguments : plan.arguments = stage.arguments
  /-- An output file takes the standard output. -/
  stdout_file : ∀ path, stage.outputFile = some path → plan.stdout = .file path
  /-- Without one, the standard output goes into the pipe to the next stage. -/
  stdout_pipe : stage.outputFile = none → ∀ pipe, pipes[i]? = some pipe →
    plan.stdout = .pipe pipe.write
  /-- At the last stage it is the one of the shell. -/
  stdout_last : stage.outputFile = none → i + 1 = count → plan.stdout = .inherit
  /-- An input file takes the standard input. -/
  stdin_file : ∀ path, stage.inputFile = some path → plan.stdin = .file path
  /-- Without one, the standard input comes from the pipe of the stage before. -/
  stdin_pipe : stage.inputFile = none → ∀ k pipe, i = k + 1 → pipes[k]? = some pipe →
    plan.stdin = .pipe pipe.read
  /-- At the first stage it is the one of the shell. -/
  stdin_first : stage.inputFile = none → i = 0 → plan.stdin = .inherit

/-- A wiring shares out the ends of the pipes between the stages of a pipeline. -/
structure SharesEnds (p : Pipeline) (pipes : List Pipe) (wiring : Wiring) : Prop where
  /-- There is one plan for each stage. -/
  length : wiring.plans.length = p.length
  /-- Each plan is connected as its stage says. -/
  connects : ∀ (i : Nat) (plan : Plan) (stage : Stage), wiring.plans[i]? = some plan →
    p.stages[i]? = some stage → plan.Connects pipes p.length i stage
  /-- The displaced ends and those of the plans are the ends of the pipes, each once. -/
  conserved : (wiring.displaced ++ wiring.plans.flatMap Plan.ends).Perm (pipes.flatMap Pipe.ends)
  /-- Each end is in exactly one plan, or it is displaced. -/
  held : ∀ tip ∈ pipes.flatMap Pipe.ends,
    tip ∈ wiring.displaced ∧ (∀ plan ∈ wiring.plans, tip ∉ plan.ends) ∨
    tip ∉ wiring.displaced ∧ ∃! i : Nat, ∃ plan, wiring.plans[i]? = some plan ∧ tip ∈ plan.ends
  /-- The write end of a pipe is displaced where the stage before it has an output file. -/
  write_displaced : ∀ (k : Nat) (pipe : Pipe) (stage : Stage), pipes[k]? = some pipe →
    p.stages[k]? = some stage → (pipe.write ∈ wiring.displaced ↔ stage.outputFile.isSome)
  /-- The read end of a pipe is displaced where the stage after it has an input file. -/
  read_displaced : ∀ (k : Nat) (pipe : Pipe) (stage : Stage), pipes[k]? = some pipe →
    p.stages[k + 1]? = some stage → (pipe.read ∈ wiring.displaced ↔ stage.inputFile.isSome)
  /-- A shell with the ends that closes the displaced ones keeps those of the plans. -/
  closed : ∀ {σ : Type} (w : World σ), ∀ tip ∈ pipes.flatMap Pipe.ends, tip ∈ w.holdings.ends →
    (tip ∈ (w.close wiring.displaced).holdings.ends ↔ ∃ plan ∈ wiring.plans, tip ∈ plan.ends)

/-! ### The ends in the plans -/

section Wire

variable (p : Pipeline) (pipes : List Pipe)

/-- The plan of the stage at a position, over any pipes. -/
theorem getElem?_plans_wire (i : Nat) : (wire p pipes).plans[i]? =
    p.stages[i]?.map fun stage =>
      { index := i
        arguments := stage.arguments
        stdin := .choose stage.inputFile
          (if i = 0 then none else pipes[i - 1]?.map Pipe.read)
        stdout := .choose stage.outputFile (pipes[i]?.map Pipe.write) } := by
  simpa [wire] using getElem?_plans_wireFrom 0 none p.stages pipes i

theorem perm_ends_wire : ((wire p pipes).displaced ++ (wire p pipes).plans.flatMap Plan.ends).Perm
    (pipes.flatMap Pipe.ends) := by
  simpa [wire] using perm_ends_wireFrom 0 none p.stages pipes

variable {p pipes}

theorem connects_wire (hlength : pipes.length = p.length - 1) {i : Nat} {plan : Plan}
    {stage : Stage} (hplan : (wire p pipes).plans[i]? = some plan)
    (hstage : p.stages[i]? = some stage) : plan.Connects pipes p.length i stage := by
  rw [getElem?_plans_wire, hstage, Option.map_some, Option.some.injEq] at hplan
  subst hplan
  have hcount := p.length_pos
  refine ⟨rfl, rfl, ?_, ?_, ?_, ?_, ?_, ?_⟩
  · intro path hpath
    simp [hpath, Channel.choose]
  · intro hnone pipe hpipe
    simp [hnone, hpipe, Channel.choose]
  · intro hnone hlast
    have hpipe : pipes[i]? = none := List.getElem?_eq_none (by omega)
    simp [hnone, hpipe, Channel.choose]
  · intro path hpath
    simp [hpath, Channel.choose]
  · rintro hnone k pipe rfl hpipe
    simp [hnone, hpipe, Channel.choose]
  · rintro hnone rfl
    simp [hnone, Channel.choose]

/-- The plans hold the read ends beside stages that read from no file, and the write ends
beside stages that write to none. -/
theorem exists_mem_ends_wire_iff {tip : PipeEnd} :
    (∃ plan ∈ (wire p pipes).plans, tip ∈ plan.ends) ↔
      ∃ (k : Nat) (pipe : Pipe) (stage : Stage), pipes[k]? = some pipe ∧
        (p.stages[k + 1]? = some stage ∧ stage.inputFile = none ∧ tip = pipe.read ∨
          p.stages[k]? = some stage ∧ stage.outputFile = none ∧ tip = pipe.write) := by
  constructor
  · rintro ⟨plan, hplan, hmem⟩
    obtain ⟨i, hi⟩ := List.mem_iff_getElem?.mp hplan
    rw [getElem?_plans_wire, Option.map_eq_some_iff] at hi
    obtain ⟨stage, hstage, rfl⟩ := hi
    simp only [Plan.ends, List.mem_append, mem_ends_choose] at hmem
    rcases hmem with ⟨hfile, hread⟩ | ⟨hfile, hwrite⟩
    · -- the first stage has no pipe before it
      cases i with
      | zero => simp at hread
      | succ k =>
        obtain ⟨pipe, hpipe, rfl⟩ := Option.map_eq_some_iff.mp hread
        exact ⟨k, pipe, stage, hpipe, Or.inl ⟨hstage, hfile, rfl⟩⟩
    · obtain ⟨pipe, hpipe, rfl⟩ := Option.map_eq_some_iff.mp hwrite
      exact ⟨i, pipe, stage, hpipe, Or.inr ⟨hstage, hfile, rfl⟩⟩
  · rintro ⟨k, pipe, stage, hpipe, ⟨hstage, hfile, rfl⟩ | ⟨hstage, hfile, rfl⟩⟩
    · have hplan := getElem?_plans_wire p pipes (k + 1)
      rw [hstage] at hplan
      refine ⟨_, List.mem_of_getElem? hplan, ?_⟩
      simp [Plan.ends, mem_ends_choose, hfile, hpipe]
    · have hplan := getElem?_plans_wire p pipes k
      rw [hstage] at hplan
      refine ⟨_, List.mem_of_getElem? hplan, ?_⟩
      simp [Plan.ends, mem_ends_choose, hfile, hpipe]

variable (hdistinct : (pipes.flatMap Pipe.ends).Nodup)

include hdistinct

/-- No end is both displaced and in a plan, and none is in two plans. -/
theorem nodup_ends_wire :
    ((wire p pipes).displaced ++ (wire p pipes).plans.flatMap Plan.ends).Nodup :=
  (perm_ends_wire p pipes).nodup_iff.mpr hdistinct

theorem held_wire {tip : PipeEnd} (htip : tip ∈ pipes.flatMap Pipe.ends) :
    tip ∈ (wire p pipes).displaced ∧ (∀ plan ∈ (wire p pipes).plans, tip ∉ plan.ends) ∨
    tip ∉ (wire p pipes).displaced ∧
      ∃! i : Nat, ∃ plan, (wire p pipes).plans[i]? = some plan ∧ tip ∈ plan.ends := by
  obtain ⟨-, hplans, hapart⟩ := List.nodup_append.mp (nodup_ends_wire (p := p) hdistinct)
  rcases List.mem_append.mp ((perm_ends_wire p pipes).mem_iff.mpr htip) with hclosed | hheld
  · refine Or.inl ⟨hclosed, fun plan hplan hmem => ?_⟩
    exact hapart tip hclosed tip (List.mem_flatMap.mpr ⟨plan, hplan, hmem⟩) rfl
  · refine Or.inr ⟨fun hclosed => hapart tip hclosed tip hheld rfl, ?_⟩
    obtain ⟨plan, hplan, hmem⟩ := List.mem_flatMap.mp hheld
    obtain ⟨i, hi⟩ := List.mem_iff_getElem?.mp hplan
    refine ⟨i, ⟨plan, hi, hmem⟩, ?_⟩
    rintro j ⟨other, hj, hother⟩
    exact index_eq_of_nodup_flatMap hplans hj hi hother hmem

/-- An end is displaced unless some plan holds it. -/
theorem mem_displaced_wire_iff {tip : PipeEnd} (htip : tip ∈ pipes.flatMap Pipe.ends) :
    tip ∈ (wire p pipes).displaced ↔ ¬ ∃ plan ∈ (wire p pipes).plans, tip ∈ plan.ends := by
  rcases held_wire (p := p) hdistinct htip with ⟨hclosed, hnone⟩ | ⟨hkept, i, ⟨plan, hi, hmem⟩, -⟩
  · exact iff_of_true hclosed fun ⟨plan, hplan, hmem⟩ => hnone plan hplan hmem
  · exact iff_of_false hkept fun hnone => hnone ⟨plan, List.mem_of_getElem? hi, hmem⟩

/-- The write end of a pipe is in some plan unless the stage before it writes to a file. -/
theorem exists_write_mem_ends_wire {k : Nat} {pipe : Pipe} {stage : Stage}
    (hpipe : pipes[k]? = some pipe) (hstage : p.stages[k]? = some stage) :
    (∃ plan ∈ (wire p pipes).plans, pipe.write ∈ plan.ends) ↔ stage.outputFile = none := by
  rw [exists_mem_ends_wire_iff]
  constructor
  · rintro ⟨j, source, other, hsource, ⟨-, -, heq⟩ | ⟨hother, hfile, heq⟩⟩
    · exact absurd heq (Pipe.write_ne_read hdistinct hpipe hsource)
    · obtain rfl : j = k := index_eq_of_nodup_flatMap hdistinct hsource hpipe
        (x := pipe.write) (by simp [Pipe.ends, heq]) (by simp [Pipe.ends])
      cases hstage.symm.trans hother
      exact hfile
  · intro hfile
    exact ⟨k, pipe, stage, hpipe, Or.inr ⟨hstage, hfile, rfl⟩⟩

/-- The read end of a pipe is in some plan unless the stage after it reads from a file. -/
theorem exists_read_mem_ends_wire {k : Nat} {pipe : Pipe} {stage : Stage}
    (hpipe : pipes[k]? = some pipe) (hstage : p.stages[k + 1]? = some stage) :
    (∃ plan ∈ (wire p pipes).plans, pipe.read ∈ plan.ends) ↔ stage.inputFile = none := by
  rw [exists_mem_ends_wire_iff]
  constructor
  · rintro ⟨j, source, other, hsource, ⟨hother, hfile, heq⟩ | ⟨-, -, heq⟩⟩
    · obtain rfl : j = k := index_eq_of_nodup_flatMap hdistinct hsource hpipe
        (x := pipe.read) (by simp [Pipe.ends, heq]) (by simp [Pipe.ends])
      cases hstage.symm.trans hother
      exact hfile
    · exact absurd heq.symm (Pipe.write_ne_read hdistinct hsource hpipe)
  · intro hfile
    exact ⟨k, pipe, stage, hpipe, Or.inl ⟨hstage, hfile, rfl⟩⟩

end Wire

/-- **The wiring shares out the pipe ends**: over pipes with distinct ends, as many as the
stages need, each plan is connected in the right place, and each end is in exactly one plan
or displaced by a file. -/
theorem wire_sharesEnds (p : Pipeline) {pipes : List Pipe} (hlength : pipes.length = p.length - 1)
    (hdistinct : (pipes.flatMap Pipe.ends).Nodup) : SharesEnds p pipes (wire p pipes) where
  length := length_plans_wire p pipes
  connects _ _ _ hplan hstage := connects_wire hlength hplan hstage
  conserved := perm_ends_wire p pipes
  held _ htip := held_wire hdistinct htip
  write_displaced k pipe stage hpipe hstage := by
    have htip := Pipe.write_mem_of_getElem? hpipe
    rw [mem_displaced_wire_iff hdistinct htip, exists_write_mem_ends_wire hdistinct hpipe hstage]
    exact Option.ne_none_iff_isSome
  read_displaced k pipe stage hpipe hstage := by
    have htip := Pipe.read_mem_of_getElem? hpipe
    rw [mem_displaced_wire_iff hdistinct htip, exists_read_mem_ends_wire hdistinct hpipe hstage]
    exact Option.ne_none_iff_isSome
  closed w tip htip hheld := by
    have hdisplaced := mem_displaced_wire_iff (p := p) hdistinct htip
    simp [World.close, hheld, hdisplaced]

/-- The wiring of `a > f | b | c < g`. -/
theorem wire_sharesEnds_mixed :
    SharesEnds ⟨[⟨["a"], none, some "f"⟩, ⟨["b"], none, none⟩, ⟨["c"], some "g", none⟩], by simp⟩
      [Pipe.ofNumber 4, Pipe.ofNumber 2]
      { plans := [⟨0, ["a"], .inherit, .file "f"⟩,
          ⟨1, ["b"], .pipe ⟨4, .read⟩, .pipe ⟨2, .write⟩⟩, ⟨2, ["c"], .file "g", .inherit⟩],
        displaced := [⟨4, .write⟩, ⟨2, .read⟩] } :=
  wire_sharesEnds _ (by decide) (by decide)

end LineShell
