import LineShell.Stage

/-!
# Pipelines

A line is cut at every `|` into segments, and each segment is read as a stage by
itself.  A pipeline has at least one stage; a line of blanks only is no pipeline.

## Main definitions

* `Pipeline` — a non-empty list of stages.
* `Pipeline.pipeCount` — the number of pipes that connect the stages.
* `segments` — the parts of a line between the `|` characters.
* `Pipeline.ofLine?` — the pipeline that a line describes.
* `Note.ofLine` — what was left out of it.

## Main results

* `segments_ne_nil` — a line has at least one segment.
* `Pipeline.length_eq_pipeCount_add_one` — there is one stage more than there
  are pipes.
-/

namespace LineShell

/-- One or more stages, each connected to the next one by a pipe. -/
structure Pipeline where
  /-- The stages from left to right. -/
  stages : List Stage
  /-- There is at least one. -/
  stages_ne_nil : stages ≠ []
deriving DecidableEq

namespace Pipeline

/-- The pipeline of a list of stages, if there are any. -/
def ofStages? (stages : List Stage) : Option Pipeline :=
  if h : stages ≠ [] then some ⟨stages, h⟩ else none

/-- The number of stages. -/
def length (p : Pipeline) : Nat := p.stages.length

/-- Whether there is no stage, which is never the case. -/
def isEmpty (p : Pipeline) : Bool := p.stages.isEmpty

/-- The number of pipes between the stages. -/
def pipeCount (p : Pipeline) : Nat := p.length - 1

theorem length_pos (p : Pipeline) : 0 < p.length :=
  List.length_pos_iff.mpr p.stages_ne_nil

/-- There is one stage more than there are pipes. -/
theorem length_eq_pipeCount_add_one (p : Pipeline) : p.length = p.pipeCount + 1 := by
  have := p.length_pos
  simp only [pipeCount]
  omega

end Pipeline

/-- The parts of a line between the `|` characters. -/
def segments : List Char → List (List Char)
  | [] => [[]]
  | c :: rest =>
    if c = '|' then [] :: segments rest
    else match segments rest with
      | [] => [[c]]
      | s :: others => (c :: s) :: others

@[simp] theorem segments_nil : segments [] = [[]] := rfl

/-- A line has at least one segment. -/
theorem segments_ne_nil (line : List Char) : segments line ≠ [] := by
  cases line with
  | nil => simp
  | cons c rest =>
    rw [segments]
    split
    · simp
    · split <;> simp

/-- The readings of the segments of a line. A line of blanks has none. -/
def Reading.ofLine (line : List Char) : List Reading :=
  if line.all isBlank then [] else (segments line).map Reading.ofText

/-- The pipeline that a line describes; none if it holds only blanks. -/
def Pipeline.ofLine? (line : List Char) : Option Pipeline :=
  Pipeline.ofStages? ((Reading.ofLine line).map Reading.stage)

/-- What is left out of the pipeline that a line describes. -/
def Note.ofLine (line : List Char) : List Note :=
  (Reading.ofLine line).flatMap Reading.notes

end LineShell
