import LineShell.Proofs.Layout
import LineShell.Proofs.Status

/-!
# Lines and their segments

A line is read segment by segment, and nothing that is read in one segment is
remembered in the next.  So a `|` cuts a line into two that can be read apart, and what
is written in one segment is seen in the stage of that segment only.

The one thing that looks at a line as a whole is the question whether it is blank.  A
blank line has no pipeline, but as a part of a longer line it is the empty stage; with
`stagesOf` counting it as that, the cut holds at every `|`, be it the first character of
the line, the last one, or next to another.

## Main definitions

* `stagesOf` — the stages of a line, where a blank line counts as the empty stage.

## Main results

* `stagesOf_eq_map`, `Note.ofLine_eq_flatMap` — the stages and the notes of a line are
  those of its segments.
* `length_segments` — there is one segment more than there are `|`.
* `ofLine?_append_bar` — a line is read apart at every `|`.
-/

namespace LineShell

/-! ### Blank lines -/

/-- The blanks are these four characters. -/
theorem isBlank_iff {c : Char} :
    isBlank c = true ↔ c = ' ' ∨ c = '\t' ∨ c = '\r' ∨ c = '\n' := by
  simp [isBlank, or_assoc]

/-- Nothing is read in a text of blanks. -/
theorem Reading.ofText_of_blank {text : List Char} (h : text.all isBlank = true) :
    ofText text = {} := by
  have hscan : Token.scan text = [] := by
    simpa using Token.scan_blanks (List.all_eq_true.mp h) []
  rw [ofText, hscan]
  rfl

theorem isBlank_bar : isBlank '|' = false := by decide

/-- A text of blanks is one segment. -/
theorem segments_of_blank {text : List Char} (h : text.all isBlank = true) :
    segments text = [text] := by
  refine segments_of_notMem fun hbar => ?_
  have := List.all_eq_true.mp h '|' hbar
  simp [isBlank_bar] at this

/-! ### Segment by segment -/

/-- The stages of a line. A line of blanks, which has no pipeline, counts as the empty
stage that it is as a part of a longer line. -/
def stagesOf (line : List Char) : List Stage :=
  ((Pipeline.ofLine? line).map Pipeline.stages).getD [{}]

theorem stagesOf_of_ofLine? {line : List Char} {pipeline : Pipeline}
    (h : Pipeline.ofLine? line = some pipeline) : stagesOf line = pipeline.stages := by
  rw [stagesOf, h, Option.map_some, Option.getD_some]

/-- The stages of a line are those of its segments. -/
theorem stagesOf_eq_map (line : List Char) :
    stagesOf line = (segments line).map fun segment => (Reading.ofText segment).stage := by
  by_cases hblank : line.all isBlank = true
  · rw [stagesOf, Pipeline.ofLine?_eq_none_iff.mpr hblank, segments_of_blank hblank]
    simp [Reading.ofText_of_blank hblank]
  · have hne : ((segments line).map Reading.ofText).map Reading.stage ≠ [] := by
      simpa using segments_ne_nil line
    rw [stagesOf, Pipeline.ofLine?, Reading.ofLine, if_neg hblank,
      Pipeline.map_stages_ofStages? hne, Option.getD_some, List.map_map]
    rfl

/-- What is left out of a line is what is left out of its segments. -/
theorem Note.ofLine_eq_flatMap (line : List Char) :
    ofLine line = (segments line).flatMap fun segment => (Reading.ofText segment).notes := by
  by_cases hblank : line.all isBlank = true
  · rw [ofLine, Reading.ofLine, if_pos hblank, segments_of_blank hblank]
    simp [Reading.ofText_of_blank hblank]
  · rw [ofLine, Reading.ofLine, if_neg hblank, List.flatMap_map]

/-- There is one segment more than there are `|`. -/
theorem length_segments (line : List Char) : (segments line).length = line.count '|' + 1 := by
  induction line with
  | nil => rfl
  | cons c line ih =>
    rw [segments, List.count_cons]
    split
    · next hc => simp [hc, ih]
    · next hc =>
      -- any other character goes to the first segment of what follows it
      rcases h : segments line with - | ⟨first, others⟩
      · exact absurd h (segments_ne_nil line)
      · rw [h] at ih
        simpa [hc] using ih

/-! ### Cutting a line -/

/-- A line with a `|` is not blank. -/
theorem not_blank_append_bar (a b : List Char) : ¬ (a ++ '|' :: b).all isBlank = true := by
  simp [isBlank_bar]

/-- The number of stages is known from the number of `|`. -/
theorem length_stagesOf (line : List Char) : (stagesOf line).length = line.count '|' + 1 := by
  rw [stagesOf_eq_map, List.length_map, length_segments]

/-- To write something else in a segment changes the stage at its position. -/
theorem stagesOf_joinSegments_set {texts : List (List Char)} (htexts : ∀ text ∈ texts, '|' ∉ text)
    {i : Nat} (hi : i < texts.length) {text : List Char} (htext : '|' ∉ text) :
    stagesOf (joinSegments (texts.set i text)) =
      (stagesOf (joinSegments texts)).set i (Reading.ofText text).stage := by
  have hne : texts ≠ [] := List.ne_nil_of_length_pos (by omega)
  have hset : texts.set i text ≠ [] := by simpa using hne
  have hbars : ∀ other ∈ texts.set i text, '|' ∉ other := by
    intro other hother
    rcases List.mem_or_eq_of_mem_set hother with hmem | rfl
    · exact htexts other hmem
    · exact htext
  rw [stagesOf_eq_map, stagesOf_eq_map, segments_joinSegments hset hbars,
    segments_joinSegments hne htexts, List.map_set]

/-- **A line is read apart at every `|`**, whatever stands around it: its stages are those
of the two parts, and so are its notes. Only a line of blanks has no pipeline, every other
line has one stage more than it has `|`, and to write something else in one segment
changes the stage of that segment and no other. -/
theorem ofLine?_append_bar :
    (∀ a b : List Char, ∃ pipeline, Pipeline.ofLine? (a ++ '|' :: b) = some pipeline ∧
      pipeline.stages = stagesOf a ++ stagesOf b ∧
        Note.ofLine (a ++ '|' :: b) = Note.ofLine a ++ Note.ofLine b) ∧
      (∀ line : List Char, Pipeline.ofLine? line = none ↔
        ∀ c ∈ line, c = ' ' ∨ c = '\t' ∨ c = '\r' ∨ c = '\n') ∧
      (∀ (line : List Char) (pipeline : Pipeline), Pipeline.ofLine? line = some pipeline →
        pipeline.length = line.count '|' + 1 ∧ pipeline.pipeCount = line.count '|') ∧
      ∀ (texts : List (List Char)) (i : Nat) (text : List Char),
        (∀ other ∈ texts, '|' ∉ other) → i < texts.length → '|' ∉ text →
          stagesOf (joinSegments (texts.set i text)) =
            (stagesOf (joinSegments texts)).set i (Reading.ofText text).stage := by
  refine ⟨fun a b => ?_, fun line => ?_, fun line pipeline h => ?_, ?_⟩
  · obtain ⟨pipeline, hpipeline⟩ := Pipeline.exists_ofLine? (not_blank_append_bar a b)
    refine ⟨pipeline, hpipeline, ?_, ?_⟩
    · rw [← stagesOf_of_ofLine? hpipeline, stagesOf_eq_map, segments_append_bar, List.map_append,
        ← stagesOf_eq_map, ← stagesOf_eq_map]
    · rw [Note.ofLine_eq_flatMap, segments_append_bar, List.flatMap_append,
        ← Note.ofLine_eq_flatMap, ← Note.ofLine_eq_flatMap]
  · simp only [Pipeline.ofLine?_eq_none_iff, List.all_eq_true, isBlank_iff]
  · have hlength : pipeline.length = line.count '|' + 1 := by
      rw [Pipeline.length, ← stagesOf_of_ofLine? h, length_stagesOf]
    refine ⟨hlength, ?_⟩
    rw [Pipeline.pipeCount, hlength, Nat.add_sub_cancel]
  · intro texts i text htexts hi htext
    exact stagesOf_joinSegments_set htexts hi htext

/-- A doubled `|` after an operator without target, and a last segment that is written
anew. -/
theorem ofLine?_append_bar_doubled :
    let texts := ["a <".toList, [], "b".toList]
    let line := joinSegments texts
    let pipeline : Pipeline := ⟨[⟨["a"], none, none⟩, {}, ⟨["b"], none, none⟩], by simp⟩
    line = "a <||b".toList ∧ Pipeline.ofLine? line = some pipeline ∧
      pipeline.length = line.count '|' + 1 ∧ pipeline.pipeCount = line.count '|' ∧
      (∀ other ∈ texts, '|' ∉ other) ∧ 2 < texts.length ∧ '|' ∉ "c>d".toList ∧
      stagesOf (joinSegments (texts.set 2 "c>d".toList)) =
        (stagesOf line).set 2 ⟨["c"], none, some "d"⟩ := by
  intro texts line pipeline
  have hline : Pipeline.ofLine? line = some pipeline := by decide
  have hbars : ∀ other ∈ texts, '|' ∉ other := by decide
  obtain ⟨hlength, hcount⟩ := ofLine?_append_bar.2.2.1 line pipeline hline
  exact ⟨by decide, hline, hlength, hcount, hbars, by decide, by decide,
    ofLine?_append_bar.2.2.2 texts 2 "c>d".toList hbars (by decide) (by decide)⟩

end LineShell
