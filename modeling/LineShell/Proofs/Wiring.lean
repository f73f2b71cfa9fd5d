import LineShell.Execution

/-!
# Where every pipe end goes

A pipeline needs one pipe between any two neighbouring stages.  The plan of a
stage depends on nothing but the stage, its position and the pipes on its two
sides, so the plan at a position can be written down without the loop that builds
the plans.  The loop neither loses a pipe end nor uses one twice: what the plans
hold and what is displaced are together the ends of all pipes.

## Main definitions

* `numberedPipes n` — the first `n` pipes.
* `Pipeline.plans` — the plans of a pipeline over its own pipes.

## Main results

* `getElem?_plans_wireFrom` — the plan of the stage at a position.
* `perm_ends_wireFrom` — the wiring shares out all ends and no end twice.
* `write_mem_ends_iff`, `read_mem_ends_iff` — which plan holds an end.
-/

namespace LineShell

/-! ### Numbered pipes -/

/-- The first `n` pipes. -/
def numberedPipes (n : Nat) : List Pipe := (List.range n).map Pipe.ofNumber

theorem pipe_of_mem_ends {n : Nat} {tip : PipeEnd} (h : tip ∈ (Pipe.ofNumber n).ends) :
    tip.pipe = n := by
  simp only [Pipe.ends, Pipe.ofNumber, List.mem_cons, List.not_mem_nil, or_false] at h
  rcases h with rfl | rfl <;> rfl

/-- A pipe has two ends. -/
theorem length_flatMap_ends (pipes : List Pipe) :
    (pipes.flatMap Pipe.ends).length = 2 * pipes.length := by
  induction pipes with
  | nil => rfl
  | cons pipe pipes ih =>
    simp only [List.flatMap_cons, List.length_append, ih, Pipe.ends, List.length_cons,
      List.length_nil]
    omega

@[simp] theorem length_numberedPipes (n : Nat) : (numberedPipes n).length = n := by
  simp [numberedPipes]

theorem getElem?_numberedPipes (n i : Nat) :
    (numberedPipes n)[i]? = if i < n then some (Pipe.ofNumber i) else none := by
  rcases Nat.lt_or_ge i n with hi | hi
  · simp [numberedPipes, hi]
  · simp [numberedPipes, Nat.not_lt.mpr hi]

/-- The read end at a position of the numbered pipes. -/
theorem map_read_numberedPipes_eq_some {n i : Nat} {tip : PipeEnd} :
    (numberedPipes n)[i]?.map Pipe.read = some tip ↔ i < n ∧ tip = ⟨i, .read⟩ := by
  rw [getElem?_numberedPipes]
  split
  · next hi => simp [Pipe.ofNumber, hi, eq_comm]
  · next hi => simp [hi]

/-- The write end at a position of the numbered pipes. -/
theorem map_write_numberedPipes_eq_some {n i : Nat} {tip : PipeEnd} :
    (numberedPipes n)[i]?.map Pipe.write = some tip ↔ i < n ∧ tip = ⟨i, .write⟩ := by
  rw [getElem?_numberedPipes]
  split
  · next hi => simp [Pipe.ofNumber, hi, eq_comm]
  · next hi => simp [hi]

/-- The ends of the first `n` pipes are those with a number below `n`. -/
theorem mem_ends_numberedPipes {n : Nat} {tip : PipeEnd} :
    tip ∈ (numberedPipes n).flatMap Pipe.ends ↔ tip.pipe < n := by
  obtain ⟨k, side⟩ := tip
  simp only [numberedPipes, List.mem_flatMap, List.mem_map, List.mem_range]
  constructor
  · rintro ⟨pipe, ⟨n', hn', rfl⟩, htip⟩
    have hk : k = n' := pipe_of_mem_ends htip
    omega
  · intro hk
    refine ⟨Pipe.ofNumber k, ⟨k, hk, rfl⟩, ?_⟩
    cases side <;> simp [Pipe.ends, Pipe.ofNumber]

theorem nodup_ends_numberedPipes (n : Nat) :
    ((numberedPipes n).flatMap Pipe.ends).Nodup := by
  induction n with
  | zero => simp [numberedPipes]
  | succ n ih =>
    have hsplit : (numberedPipes (n + 1)).flatMap Pipe.ends =
        (numberedPipes n).flatMap Pipe.ends ++ (Pipe.ofNumber n).ends := by
      simp [numberedPipes, List.range_succ]
    rw [hsplit, List.nodup_append]
    refine ⟨ih, by simp [Pipe.ends, Pipe.ofNumber], ?_⟩
    intro a ha b hb hab
    have hlt : a.pipe < n := mem_ends_numberedPipes.mp ha
    have hb' : b.pipe = n := pipe_of_mem_ends hb
    rw [hab] at hlt
    omega

/-! ### The plan at a position -/

/-- The plan of the stage at position `j` reads from the pipe before it, which is
`incoming` for the first of the stages, and writes to the pipe after it. -/
theorem getElem?_plans_wireFrom (index : Nat) (incoming : Option PipeEnd)
    (stages : List Stage) (pipes : List Pipe) (j : Nat) :
    (wireFrom index incoming stages pipes).plans[j]? =
      stages[j]?.map fun stage =>
        { index := index + j
          arguments := stage.arguments
          stdin := .choose stage.inputFile
            (if j = 0 then incoming else pipes[j - 1]?.map Pipe.read)
          stdout := .choose stage.outputFile (pipes[j]?.map Pipe.write) } := by
  induction stages generalizing index incoming pipes j with
  | nil => simp [wireFrom]
  | cons stage stages ih =>
    cases j with
    | zero => simp [wireFrom, List.head?_eq_getElem?]
    | succ j =>
      have hread : (if j = 0 then pipes.head?.map Pipe.read
          else pipes.tail[j - 1]?.map Pipe.read) = pipes[j]?.map Pipe.read := by
        cases j with
        | zero => simp [List.head?_eq_getElem?]
        | succ j => simp
      simp only [wireFrom, List.getElem?_cons_succ, ih, hread]
      simp [Nat.add_assoc, Nat.add_comm 1 j]

/-! ### Conservation of pipe ends -/

/-- A stream holds the end that it was offered, unless a file takes its place. -/
theorem mem_ends_choose {path : Option String} {offered : Option PipeEnd} {tip : PipeEnd} :
    tip ∈ (Channel.choose path offered).ends ↔ path = none ∧ offered = some tip := by
  cases path <;> cases offered <;> simp [Channel.choose, Channel.ends, eq_comm]

/-- A stream and the ends displaced from it share out the end that it was offered. -/
theorem perm_ends_choose (path : Option String) (tip : Option PipeEnd) :
    (displacedEnds path tip ++ (Channel.choose path tip).ends).Perm tip.toList := by
  cases path <;> cases tip <;> simp [displacedEnds, Channel.choose, Channel.ends]

/-- What is displaced and what the plans hold are together the ends of all pipes. -/
theorem perm_ends_wireFrom (index : Nat) (incoming : Option PipeEnd)
    (stages : List Stage) (pipes : List Pipe) :
    ((wireFrom index incoming stages pipes).displaced ++
        (wireFrom index incoming stages pipes).plans.flatMap Plan.ends).Perm
      (incoming.toList ++ pipes.flatMap Pipe.ends) := by
  induction stages generalizing index incoming pipes with
  | nil => simp [wireFrom]
  | cons stage stages ih =>
    have hrest := ih (index + 1) (pipes.head?.map Pipe.read) pipes.tail
    have hin := perm_ends_choose stage.inputFile incoming
    have hout := perm_ends_choose stage.outputFile (pipes.head?.map Pipe.write)
    have hpipes : (pipes.flatMap Pipe.ends).Perm ((pipes.head?.map Pipe.read).toList ++
        (pipes.head?.map Pipe.write).toList ++ pipes.tail.flatMap Pipe.ends) := by
      cases pipes with
      | nil => simp
      | cons pipe pipes => simp [Pipe.ends]
    -- both sides are sums of the same shares, so they are compared end by end
    rw [List.perm_iff_count] at hrest hin hout hpipes ⊢
    intro tip
    have hrest := hrest tip
    have hin := hin tip
    have hout := hout tip
    have hpipes := hpipes tip
    simp only [wireFrom, List.flatMap_cons, Plan.ends, List.count_append] at hrest hin hout hpipes ⊢
    omega

/-! ### The plans of a pipeline -/

namespace Pipeline

/-- The wiring of a pipeline over its own pipes. -/
def wiring (p : Pipeline) : Wiring := wire p (numberedPipes p.pipeCount)

/-- The plans of a pipeline over its own pipes. -/
def plans (p : Pipeline) : List Plan := p.wiring.plans

@[simp] theorem length_plans (p : Pipeline) : p.plans.length = p.length :=
  length_plans_wire p _

/-- What is displaced and what the plans hold are together the ends of all pipes. -/
theorem perm_ends (p : Pipeline) : (p.wiring.displaced ++ p.plans.flatMap Plan.ends).Perm
    ((numberedPipes p.pipeCount).flatMap Pipe.ends) := by
  simpa [plans, wiring, wire] using perm_ends_wireFrom 0 none p.stages (numberedPipes p.pipeCount)

theorem nodup_ends (p : Pipeline) :
    (p.wiring.displaced ++ p.plans.flatMap Plan.ends).Nodup :=
  p.perm_ends.nodup_iff.mpr (nodup_ends_numberedPipes _)

theorem mem_ends_iff (p : Pipeline) {tip : PipeEnd} :
    tip ∈ p.wiring.displaced ++ p.plans.flatMap Plan.ends ↔ tip.pipe < p.pipeCount :=
  p.perm_ends.mem_iff.trans mem_ends_numberedPipes

/-- The plan of the stage at a position. -/
theorem getElem?_plans (p : Pipeline) (i : Nat) :
    p.plans[i]? = p.stages[i]?.map fun stage =>
      { index := i
        arguments := stage.arguments
        stdin := .choose stage.inputFile
          (if i = 0 then none else (numberedPipes p.pipeCount)[i - 1]?.map Pipe.read)
        stdout := .choose stage.outputFile
          ((numberedPipes p.pipeCount)[i]?.map Pipe.write) } := by
  simpa [plans, wiring, wire] using
    getElem?_plans_wireFrom 0 none p.stages (numberedPipes p.pipeCount) i

variable {p : Pipeline} {i : Nat} {plan : Plan} {stage : Stage}

theorem exists_stage (hplan : p.plans[i]? = some plan) : ∃ stage, p.stages[i]? = some stage := by
  rw [getElem?_plans, Option.map_eq_some_iff] at hplan
  obtain ⟨stage, hstage, -⟩ := hplan
  exact ⟨stage, hstage⟩

theorem exists_plan (hstage : p.stages[i]? = some stage) : ∃ plan, p.plans[i]? = some plan := by
  rw [getElem?_plans, hstage]
  exact ⟨_, rfl⟩

theorem index_of_getElem? (hplan : p.plans[i]? = some plan) : plan.index = i := by
  rw [getElem?_plans, Option.map_eq_some_iff] at hplan
  obtain ⟨stage, -, rfl⟩ := hplan
  rfl

/-- The plans are at the positions of their stages. -/
theorem map_index_plans (p : Pipeline) : p.plans.map Plan.index = List.range p.length := by
  refine List.ext_getElem? fun i => ?_
  rw [List.getElem?_map, getElem?_plans]
  rcases Nat.lt_or_ge i p.stages.length with hi | hi
  · simp [length, hi]
  · simp [length, Nat.not_lt.mpr hi]

theorem nodup_index_plans (p : Pipeline) : (p.plans.map Plan.index).Nodup := by
  rw [map_index_plans]
  exact List.nodup_range

theorem program_of_getElem? (hplan : p.plans[i]? = some plan)
    (hstage : p.stages[i]? = some stage) : plan.program = stage.program?.getD "" := by
  rw [getElem?_plans, hstage, Option.map_some, Option.some.injEq] at hplan
  subst hplan
  simp [Plan.program, Stage.program?, List.headD_eq_head?_getD]

/-- The write end of a pipe is held by the plan of the stage before it, unless
that stage writes to a file. -/
theorem write_mem_ends_iff (hplan : p.plans[i]? = some plan)
    (hstage : p.stages[i]? = some stage) (k : Nat) :
    ⟨k, .write⟩ ∈ plan.ends ↔ i = k ∧ k < p.pipeCount ∧ stage.outputFile = none := by
  rw [getElem?_plans, hstage, Option.map_some, Option.some.injEq] at hplan
  subst hplan
  simp only [Plan.ends, List.mem_append, mem_ends_choose]
  constructor
  · rintro (⟨-, hread⟩ | ⟨hfile, hwrite⟩)
    · split at hread
      · cases hread
      · cases (map_read_numberedPipes_eq_some.mp hread).2
    · obtain ⟨hi, htip⟩ := map_write_numberedPipes_eq_some.mp hwrite
      cases htip
      exact ⟨rfl, hi, hfile⟩
  · rintro ⟨rfl, hi, hfile⟩
    exact Or.inr ⟨hfile, map_write_numberedPipes_eq_some.mpr ⟨hi, rfl⟩⟩

/-- The read end of a pipe is held by the plan of the stage after it, unless that
stage reads from a file. -/
theorem read_mem_ends_iff (hplan : p.plans[i]? = some plan)
    (hstage : p.stages[i]? = some stage) (k : Nat) :
    ⟨k, .read⟩ ∈ plan.ends ↔ i = k + 1 ∧ k < p.pipeCount ∧ stage.inputFile = none := by
  rw [getElem?_plans, hstage, Option.map_some, Option.some.injEq] at hplan
  subst hplan
  simp only [Plan.ends, List.mem_append, mem_ends_choose]
  constructor
  · rintro (⟨hfile, hread⟩ | ⟨-, hwrite⟩)
    · split at hread
      · cases hread
      · next hi =>
        obtain ⟨hlt, htip⟩ := map_read_numberedPipes_eq_some.mp hread
        cases htip
        exact ⟨by omega, hlt, hfile⟩
    · cases (map_write_numberedPipes_eq_some.mp hwrite).2
  · rintro ⟨rfl, hk, hfile⟩
    refine Or.inl ⟨hfile, ?_⟩
    rw [if_neg (by omega)]
    exact map_read_numberedPipes_eq_some.mpr ⟨hk, rfl⟩

end Pipeline

end LineShell
