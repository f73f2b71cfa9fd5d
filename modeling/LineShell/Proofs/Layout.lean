import LineShell.Pipeline
import LineShell.Proofs.Lexing

/-!
# Layouts of a line

A stage of plain words can be written in many ways: the blanks between its words
and around its operators are free, and so is the order of its two redirections.  A
layout fixes these choices, so that a stage with a layout is a text, and stages with
layouts are a line.  Parsing undoes this, and what it gives for any other line can
be written in this way, too.

## Main definitions

* `IsPlainWord`, `Stage.WellFormed` — the words and stages that can be written down.
* `Gap`, `StageLayout` — the free choices of a text.
* `StageLayout.render`, `renderLine` — the text of a stage and of a line.

## Main results

* `segments_append_bar` — a `|` separates segments, whatever stands around it.
* `StageLayout.ofText_render` — a stage is read back from its text, in every layout.
* `ofLine?_renderLine` — so is a pipeline from its line, and exactly the lists of
  well-formed stages are pipelines of some line.
-/

namespace LineShell

/-! ### Plain words and well-formed stages -/

/-- A word that means nothing else wherever it stands. -/
def IsPlainWord (w : String) : Prop :=
  w ≠ "" ∧ ∀ c ∈ w.toList, isBlank c = false ∧ c ≠ '<' ∧ c ≠ '>' ∧ c ≠ '|'

instance (w : String) : Decidable (IsPlainWord w) :=
  decidable_of_iff (w ≠ "" ∧
      w.toList.all (fun c => !isBlank c && c != '<' && c != '>' && c != '|') = true)
    (by simp [IsPlainWord, and_assoc])

/-- A plain word is a word of a segment. -/
theorem isPlainWord_iff {w : String} : IsPlainWord w ↔ IsWord w.toList ∧ '|' ∉ w.toList := by
  simp only [IsPlainWord, IsWord, isWordChar_iff, ne_eq, String.toList_eq_nil_iff]
  constructor
  · rintro ⟨hne, h⟩
    exact ⟨⟨hne, fun c hc => ⟨(h c hc).1, (h c hc).2.1, (h c hc).2.2.1⟩⟩,
      fun hbar => (h '|' hbar).2.2.2 rfl⟩
  · rintro ⟨⟨hne, h⟩, hbar⟩
    refine ⟨hne, fun c hc => ⟨(h c hc).1, (h c hc).2.1, (h c hc).2.2, ?_⟩⟩
    rintro rfl
    exact hbar hc

/-- A stage of plain words. -/
structure Stage.WellFormed (s : Stage) : Prop where
  /-- The arguments are plain words. -/
  arguments : ∀ w ∈ s.arguments, IsPlainWord w
  /-- So is the file that is read from, if there is one. -/
  inputFile : ∀ w ∈ s.inputFile, IsPlainWord w
  /-- So is the file that is written to, if there is one. -/
  outputFile : ∀ w ∈ s.outputFile, IsPlainWord w

instance (s : Stage) : Decidable s.WellFormed :=
  decidable_of_iff (s.arguments.all (fun w => IsPlainWord w) = true ∧
      s.inputFile.all (fun w => IsPlainWord w) = true ∧
      s.outputFile.all (fun w => IsPlainWord w) = true) (by
    simp only [List.all_eq_true, Option.all_eq_true, decide_eq_true_eq]
    exact ⟨fun ⟨arguments, inputFile, outputFile⟩ => ⟨arguments, inputFile, outputFile⟩,
      fun h => ⟨h.arguments, h.inputFile, h.outputFile⟩⟩)

/-! ### Layouts -/

/-- A run of blanks. -/
structure Gap where
  /-- The blanks. -/
  text : List Char
  /-- There is nothing but blanks. -/
  isBlank_of_mem : ∀ c ∈ text, isBlank c = true

/-- No blank at all. -/
def Gap.empty : Gap := ⟨[], by simp⟩

/-- A single space. -/
def Gap.space : Gap := ⟨[' '], by simp [isBlank]⟩

/-- The choices that are free when a stage is written down. -/
structure StageLayout where
  /-- The blanks before the first word or operator. -/
  lead : Gap := .empty
  /-- The blanks after the argument at a position, where another one follows. -/
  between : Nat → Gap := fun _ => .space
  /-- Two arguments are kept apart. -/
  between_ne_nil : ∀ i, (between i).text ≠ [] := by simp [Gap.space]
  /-- Whether the output redirection comes first. -/
  outputFirst : Bool := false
  /-- The blanks before and after `<`. -/
  aroundInput : Gap × Gap := (.empty, .empty)
  /-- The blanks before and after `>`. -/
  aroundOutput : Gap × Gap := (.empty, .empty)
  /-- The blanks after the last word. -/
  trail : Gap := .empty

/-- The text of some arguments, with the gaps between them. -/
def renderWords (between : Nat → Gap) : List String → List Char
  | [] => []
  | [w] => w.toList
  | w :: v :: words =>
    w.toList ++ ((between 0).text ++ renderWords (fun i => between (i + 1)) (v :: words))

/-- The text of a redirection, if there is one, with the gaps around its operator. -/
def renderTarget (direction : Direction) (around : Gap × Gap) : Option String → List Char
  | none => []
  | some path => around.1.text ++ direction.char :: (around.2.text ++ path.toList)

namespace StageLayout

/-- The text of the two redirections. -/
def renderTargets (l : StageLayout) (s : Stage) : List Char :=
  let input := renderTarget .input l.aroundInput s.inputFile
  let output := renderTarget .output l.aroundOutput s.outputFile
  if l.outputFirst then output ++ input else input ++ output

/-- The text of a stage. -/
def render (l : StageLayout) (s : Stage) : List Char :=
  l.lead.text ++ (renderWords l.between s.arguments ++ (l.renderTargets s ++ l.trail.text))

end StageLayout

/-- The texts of several segments, with a `|` between any two. -/
def joinSegments : List (List Char) → List Char
  | [] => []
  | [text] => text
  | text :: next :: texts => text ++ '|' :: joinSegments (next :: texts)

/-- The line of stages with layouts. -/
def renderLine (laid : List (Stage × StageLayout)) : List Char :=
  joinSegments (laid.map fun x => x.2.render x.1)

/-! ### Segments -/

/-- A `|` separates segments, whatever stands around it. -/
theorem segments_append_bar (a b : List Char) :
    segments (a ++ '|' :: b) = segments a ++ segments b := by
  induction a with
  | nil => rfl
  | cons c a ih =>
    rw [List.cons_append, segments, segments, ih]
    split
    · rfl
    · -- any other character goes to the first segment of what follows it
      rcases h : segments a with - | ⟨first, others⟩
      · exact absurd h (segments_ne_nil a)
      · rfl

/-- A text without `|` is one segment. -/
theorem segments_of_notMem {text : List Char} (h : '|' ∉ text) : segments text = [text] := by
  induction text with
  | nil => rfl
  | cons c text ih =>
    rw [List.mem_cons, not_or] at h
    rw [segments, if_neg (Ne.symm h.1), ih h.2]

/-- A segment has no `|` and is a part of the line. -/
theorem notMem_of_mem_segments {line segment : List Char} (h : segment ∈ segments line) :
    '|' ∉ segment := by
  induction line generalizing segment with
  | nil =>
    rw [segments_nil, List.mem_singleton] at h
    simp [h]
  | cons c line ih =>
    rw [segments] at h
    split at h
    · rcases List.mem_cons.mp h with rfl | hmem
      · simp
      · exact ih hmem
    · next hc =>
      rcases hline : segments line with - | ⟨first, others⟩
      · exact absurd hline (segments_ne_nil line)
      · simp only [hline] at h ih
        rcases List.mem_cons.mp h with rfl | hmem
        · have := ih List.mem_cons_self
          simp [this, Ne.symm hc]
        · exact ih (List.mem_cons_of_mem _ hmem)

/-- Texts without `|` that are joined are the segments of the line. -/
theorem segments_joinSegments {texts : List (List Char)} (hne : texts ≠ [])
    (h : ∀ text ∈ texts, '|' ∉ text) : segments (joinSegments texts) = texts := by
  induction texts with
  | nil => exact absurd rfl hne
  | cons text texts ih =>
    have htext := segments_of_notMem (h text List.mem_cons_self)
    cases texts with
    | nil => exact htext
    | cons next texts =>
      have hrest := ih (by simp) fun t ht => h t (List.mem_cons_of_mem _ ht)
      rw [joinSegments, segments_append_bar, htext, hrest]
      rfl

/-! ### The tokens of a layout -/

theorem IsPlainWord.isWord {w : String} (h : IsPlainWord w) : IsWord w.toList :=
  (isPlainWord_iff.mp h).1

/-- Blanks end a word; where there are none, the rest has to. -/
theorem endsWord_gap (gap : Gap) {text : List Char}
    (h : gap.text ≠ [] ∨ Token.EndsWord text) : Token.EndsWord (gap.text ++ text) := by
  rcases hgap : gap.text with - | ⟨c, rest⟩
  · exact h.resolve_left (not_not_intro hgap)
  · intro d hd
    cases hd
    exact isWordChar_of_isBlank (gap.isBlank_of_mem c (by simp [hgap]))

/-- A redirection ends a word. -/
theorem endsWord_renderTarget (d : Direction) (around : Gap × Gap) (path : Option String)
    {text : List Char} (h : Token.EndsWord text) :
    Token.EndsWord (renderTarget d around path ++ text) := by
  cases path with
  | none => exact h
  | some path =>
    rw [renderTarget, List.append_assoc]
    exact endsWord_gap around.1 (Or.inr (by simp [Token.EndsWord]))

/-- The tokens of a redirection. -/
def targetTokens (direction : Direction) : Option String → List Token
  | none => []
  | some path => [.operator direction, .word path]

/-- A redirection is scanned as its operator and its path. -/
theorem scan_renderTarget (d : Direction) (around : Gap × Gap) {path : Option String}
    (hpath : ∀ w ∈ path, IsPlainWord w) {text : List Char} (h : Token.EndsWord text) :
    Token.scan (renderTarget d around path ++ text) = targetTokens d path ++ Token.scan text := by
  cases path with
  | none => rfl
  | some path =>
    have hw := (hpath path rfl).isWord
    rw [renderTarget, List.append_assoc, Token.scan_blanks around.1.isBlank_of_mem,
      List.cons_append, Token.scan_operator, List.append_assoc,
      Token.scan_blanks around.2.isBlank_of_mem, Token.scan_word hw h, String.ofList_toList]
    rfl

/-- Arguments are scanned as their words, in order. -/
theorem scan_renderWords {between : Nat → Gap} (hbetween : ∀ i, (between i).text ≠ [])
    {words : List String} (hwords : ∀ w ∈ words, IsPlainWord w) {text : List Char}
    (h : Token.EndsWord text) :
    Token.scan (renderWords between words ++ text) =
      words.map Token.word ++ Token.scan text := by
  induction words generalizing between with
  | nil => rfl
  | cons w words ih =>
    have hw := (hwords w List.mem_cons_self).isWord
    have hrest := fun v hv => hwords v (List.mem_cons_of_mem w hv)
    cases words with
    | nil => rw [renderWords, Token.scan_word hw h, String.ofList_toList]; rfl
    | cons v words =>
      have hgap : Token.EndsWord ((between 0).text ++
          (renderWords (fun i => between (i + 1)) (v :: words) ++ text)) :=
        endsWord_gap (between 0) (Or.inl (hbetween 0))
      rw [renderWords, List.append_assoc, List.append_assoc, Token.scan_word hw hgap,
        Token.scan_blanks (between 0).isBlank_of_mem,
        ih (fun i => hbetween (i + 1)) hrest, String.ofList_toList]
      rfl

namespace StageLayout

variable (l : StageLayout) {s : Stage}

/-- The tokens of a stage. -/
def tokens (s : Stage) : List Token :=
  s.arguments.map Token.word ++
    if l.outputFirst then targetTokens .output s.outputFile ++ targetTokens .input s.inputFile
    else targetTokens .input s.inputFile ++ targetTokens .output s.outputFile

/-- The text of a stage is scanned as the tokens of the stage. -/
theorem scan_render (hs : s.WellFormed) : Token.scan (l.render s) = l.tokens s := by
  have htrail : Token.EndsWord l.trail.text := by
    have hempty : Token.EndsWord [] := by simp [Token.EndsWord]
    simpa using endsWord_gap l.trail (Or.inr hempty)
  have hend : Token.scan l.trail.text = [] := by
    simpa using Token.scan_blanks l.trail.isBlank_of_mem []
  have htargets : Token.EndsWord (l.renderTargets s ++ l.trail.text) := by
    rw [renderTargets]
    split
    · rw [List.append_assoc]
      exact endsWord_renderTarget _ _ _ (endsWord_renderTarget _ _ _ htrail)
    · rw [List.append_assoc]
      exact endsWord_renderTarget _ _ _ (endsWord_renderTarget _ _ _ htrail)
  rw [render, Token.scan_blanks l.lead.isBlank_of_mem,
    scan_renderWords l.between_ne_nil hs.arguments htargets, tokens, renderTargets]
  split
  · rw [List.append_assoc,
      scan_renderTarget _ _ hs.outputFile (endsWord_renderTarget _ _ _ htrail),
      scan_renderTarget _ _ hs.inputFile htrail, hend, List.append_nil]
  · rw [List.append_assoc,
      scan_renderTarget _ _ hs.inputFile (endsWord_renderTarget _ _ _ htrail),
      scan_renderTarget _ _ hs.outputFile htrail, hend, List.append_nil]

/-- The tokens of a stage are read as the stage, and nothing is left out. -/
theorem ofTokens_tokens (s : Stage) : Reading.ofTokens (l.tokens s) = { stage := s } := by
  rcases s with ⟨arguments, input, output⟩
  rw [tokens, Reading.ofTokens]
  -- the arguments go before what is read from the redirections
  induction arguments with
  | nil => cases input <;> cases output <;> cases l.outputFirst <;> rfl
  | cons w arguments ih =>
    rw [List.map_cons, List.cons_append, Reading.ofTokensAt, ih]
    rfl

/-- **A stage is read back from its text**, in every layout. -/
theorem ofText_render (hs : s.WellFormed) : Reading.ofText (l.render s) = { stage := s } := by
  rw [Reading.ofText, l.scan_render hs, ofTokens_tokens]

/-- Only the text of the empty stage is blank. -/
theorem all_isBlank_render_iff (hs : s.WellFormed) :
    (l.render s).all isBlank = true ↔ s = {} := by
  constructor
  · intro hblank
    -- a blank text has no tokens, but the stage can be read back from them
    have hscan : Token.scan (l.render s) = [] := by
      simpa using Token.scan_blanks (List.all_eq_true.mp hblank) []
    have hread := l.ofTokens_tokens s
    rw [← l.scan_render hs, hscan] at hread
    exact (congrArg Reading.stage hread).symm
  · rintro rfl
    have hlead := List.all_eq_true.mpr l.lead.isBlank_of_mem
    have htrail := List.all_eq_true.mpr l.trail.isBlank_of_mem
    simp [render, renderWords, renderTargets, renderTarget, hlead, htrail]

end StageLayout

/-! ### Bars -/

theorem Gap.bar_notMem (gap : Gap) : '|' ∉ gap.text := by
  intro h
  have := gap.isBlank_of_mem '|' h
  revert this
  decide

theorem bar_notMem_renderWords (between : Nat → Gap) {words : List String}
    (hwords : ∀ w ∈ words, IsPlainWord w) : '|' ∉ renderWords between words := by
  induction words generalizing between with
  | nil => simp [renderWords]
  | cons w words ih =>
    have hw := (isPlainWord_iff.mp (hwords w List.mem_cons_self)).2
    have hrest := fun v hv => hwords v (List.mem_cons_of_mem w hv)
    cases words with
    | nil => exact hw
    | cons v words =>
      rw [renderWords, List.mem_append, List.mem_append, not_or, not_or]
      exact ⟨hw, (between 0).bar_notMem, ih _ hrest⟩

theorem bar_notMem_renderTarget (d : Direction) (around : Gap × Gap) {path : Option String}
    (hpath : ∀ w ∈ path, IsPlainWord w) : '|' ∉ renderTarget d around path := by
  cases path with
  | none => simp [renderTarget]
  | some path =>
    have hw := (isPlainWord_iff.mp (hpath path rfl)).2
    have hd : '|' ≠ d.char := by cases d <;> decide
    simp [renderTarget, around.1.bar_notMem, around.2.bar_notMem, hw, hd]

/-- The text of a stage is a segment. -/
theorem StageLayout.bar_notMem_render (l : StageLayout) {s : Stage} (hs : s.WellFormed) :
    '|' ∉ l.render s := by
  have hinput := bar_notMem_renderTarget .input l.aroundInput hs.inputFile
  have houtput := bar_notMem_renderTarget .output l.aroundOutput hs.outputFile
  have htargets : '|' ∉ l.renderTargets s := by
    rw [renderTargets]
    split <;> simp [hinput, houtput]
  simp [render, l.lead.bar_notMem, l.trail.bar_notMem, htargets,
    bar_notMem_renderWords l.between hs.arguments]

/-! ### The words of a reading -/

/-- The words of a stage are among some tokens. -/
structure Stage.TakenFrom (s : Stage) (tokens : List Token) : Prop where
  /-- The arguments are. -/
  arguments : ∀ w ∈ s.arguments, .word w ∈ tokens
  /-- So is the file that is read from, if there is one. -/
  inputFile : ∀ w ∈ s.inputFile, .word w ∈ tokens
  /-- So is the file that is written to, if there is one. -/
  outputFile : ∀ w ∈ s.outputFile, .word w ∈ tokens

namespace Stage.TakenFrom

variable {s : Stage} {tokens : List Token} (h : s.TakenFrom tokens)

include h

theorem cons (token : Token) : s.TakenFrom (token :: tokens) :=
  ⟨fun w hw => List.mem_cons_of_mem _ (h.arguments w hw),
    fun w hw => List.mem_cons_of_mem _ (h.inputFile w hw),
    fun w hw => List.mem_cons_of_mem _ (h.outputFile w hw)⟩

theorem withArgument (word : String) : (s.withArgument word).TakenFrom (.word word :: tokens) := by
  refine ⟨fun w hw => ?_, (h.cons _).inputFile, (h.cons _).outputFile⟩
  rcases List.mem_cons.mp hw with rfl | hw
  · exact List.mem_cons_self
  · exact (h.cons _).arguments w hw

theorem withTarget (d : Direction) (path : String) :
    (s.withTarget d path).TakenFrom (.word path :: tokens) := by
  -- the target is the path, unless a later one took its place
  have hor : ∀ {later : Option String}, (∀ w ∈ later, .word w ∈ tokens) →
      ∀ w ∈ later.or (some path), Token.word w ∈ Token.word path :: tokens := by
    intro later hlater w hw
    cases later with
    | none =>
      cases hw
      exact List.mem_cons_self
    | some later => exact List.mem_cons_of_mem _ (hlater w hw)
  cases d with
  | input => exact ⟨(h.cons _).arguments, hor h.inputFile, (h.cons _).outputFile⟩
  | output => exact ⟨(h.cons _).arguments, (h.cons _).inputFile, hor h.outputFile⟩

end Stage.TakenFrom

/-- The words of a reading are words of the tokens that were read. -/
theorem takenFrom_ofTokensAt (place : Reading.Place) (tokens : List Token) :
    (Reading.ofTokensAt place tokens).stage.TakenFrom tokens := by
  induction tokens generalizing place with
  | nil => cases place <;> exact ⟨by simp [Reading.ofTokensAt], by simp [Reading.ofTokensAt],
      by simp [Reading.ofTokensAt]⟩
  | cons token tokens ih =>
    cases token with
    | word w =>
      cases place with
      | leading => exact (ih .leading).withArgument w
      | awaiting d => exact (ih .trailing).withTarget d w
      | trailing => exact (ih .trailing).cons _
    | operator d =>
      have hread := (ih (.awaiting d)).cons (.operator d)
      cases place <;> exact hread

/-- Whatever the text of a segment is, the stage that it describes is well-formed. -/
theorem wellFormed_ofText {text : List Char} (h : '|' ∉ text) :
    (Reading.ofText text).stage.WellFormed := by
  have hplain : ∀ w, .word w ∈ Token.scan text → IsPlainWord w := by
    intro w hw
    obtain ⟨hword, hsub⟩ := (Token.scan_eq_iff.mp rfl).of_word_mem hw
    exact isPlainWord_iff.mpr ⟨hword, fun hbar => h (hsub hbar)⟩
  have htaken := takenFrom_ofTokensAt .leading (Token.scan text)
  exact ⟨fun w hw => hplain w (htaken.arguments w hw),
    fun w hw => hplain w (htaken.inputFile w hw), fun w hw => hplain w (htaken.outputFile w hw)⟩

/-! ### Lines -/

/-- Only the line of the empty stage alone is blank. -/
theorem all_isBlank_renderLine_iff {laid : List (Stage × StageLayout)} (hne : laid ≠ [])
    (h : ∀ x ∈ laid, x.1.WellFormed) :
    (renderLine laid).all isBlank = true ↔ laid.map Prod.fst = [{}] := by
  rcases laid with - | ⟨⟨s, l⟩, - | ⟨next, rest⟩⟩
  · exact absurd rfl hne
  · have hs := l.all_isBlank_render_iff (h (s, l) List.mem_cons_self)
    simpa [renderLine, joinSegments] using hs
  · have hbar : isBlank '|' = false := by decide
    simp [renderLine, joinSegments, hbar]

/-- A line of stages is read as these stages, unless it is the line of the empty
stage. -/
theorem reading_renderLine {laid : List (Stage × StageLayout)} (hne : laid ≠ [])
    (h : ∀ x ∈ laid, x.1.WellFormed) (hempty : laid.map Prod.fst ≠ [{}]) :
    Reading.ofLine (renderLine laid) = laid.map fun x => { stage := x.1 } := by
  have hblank : ¬ (renderLine laid).all isBlank = true := fun hall =>
    hempty ((all_isBlank_renderLine_iff hne h).mp hall)
  have hbars : ∀ text ∈ laid.map fun x => x.2.render x.1, '|' ∉ text := by
    intro text htext
    obtain ⟨x, hx, rfl⟩ := List.mem_map.mp htext
    exact x.2.bar_notMem_render (h x hx)
  rw [Reading.ofLine, if_neg hblank, renderLine, segments_joinSegments (by simpa using hne) hbars,
    List.map_map]
  exact List.map_congr_left fun x hx => x.2.ofText_render (h x hx)

theorem Pipeline.stages_of_ofStages? {stages : List Stage} {p : Pipeline}
    (h : ofStages? stages = some p) : p.stages = stages := by
  unfold ofStages? at h
  split at h
  · cases h
    rfl
  · cases h

theorem Pipeline.map_stages_ofStages? {stages : List Stage} (h : stages ≠ []) :
    (ofStages? stages).map Pipeline.stages = some stages := by
  simp [ofStages?, h]

/-- The pipeline of a line is the well-formed stages of its segments. -/
theorem Pipeline.wellFormed_of_ofLine? {line : List Char} {p : Pipeline}
    (h : ofLine? line = some p) : ∀ s ∈ p.stages, s.WellFormed := by
  rw [stages_of_ofStages? h, Reading.ofLine]
  split
  · simp
  · intro s hs
    simp only [List.map_map, List.mem_map, Function.comp_apply] at hs
    obtain ⟨segment, hsegment, rfl⟩ := hs
    exact wellFormed_ofText (notMem_of_mem_segments hsegment)

/-- **Parsing undoes rendering, in every layout**, and exactly the non-empty lists of
well-formed stages are pipelines of some line. -/
theorem ofLine?_renderLine :
    (∀ laid : List (Stage × StageLayout), laid ≠ [] → (∀ x ∈ laid, x.1.WellFormed) →
      Note.ofLine (renderLine laid) = [] ∧
        (laid.map Prod.fst ≠ [{}] →
          (Pipeline.ofLine? (renderLine laid)).map Pipeline.stages = some (laid.map Prod.fst)) ∧
        (laid.map Prod.fst = [{}] →
          (renderLine laid).all isBlank = true ∧ Pipeline.ofLine? (renderLine laid) = none)) ∧
      ∀ stages : List Stage, (∃ line, (Pipeline.ofLine? line).map Pipeline.stages = some stages) ↔
        stages ≠ [] ∧ ∀ s ∈ stages, s.WellFormed := by
  refine ⟨fun laid hne h => ?_, fun stages => ⟨?_, ?_⟩⟩
  · have hblank := all_isBlank_renderLine_iff hne h
    by_cases hempty : laid.map Prod.fst = [{}]
    · have hall := hblank.mpr hempty
      refine ⟨?_, fun hnot => absurd hempty hnot, fun _ => ⟨hall, ?_⟩⟩
      · simp [Note.ofLine, Reading.ofLine, hall]
      · simp [Pipeline.ofLine?, Reading.ofLine, hall, Pipeline.ofStages?]
    · have hreadings := reading_renderLine hne h hempty
      refine ⟨?_, fun _ => ?_, fun heq => absurd heq hempty⟩
      · rw [Note.ofLine, hreadings, List.flatMap_map]
        simp
      · rw [Pipeline.ofLine?, hreadings, List.map_map,
          Pipeline.map_stages_ofStages? (by simpa using hne)]
        rfl
  · rintro ⟨line, hline⟩
    obtain ⟨p, hp, rfl⟩ := Option.map_eq_some_iff.mp hline
    exact ⟨p.stages_ne_nil, Pipeline.wellFormed_of_ofLine? hp⟩
  · rintro ⟨hne, h⟩
    by_cases hempty : stages = [{}]
    · -- nothing but an operator is read as the empty stage, too
      exact ⟨['<'], by rw [hempty]; rfl⟩
    · let laid : List (Stage × StageLayout) := stages.map fun s => (s, {})
      have hstages : laid.map Prod.fst = stages := by simp [laid, Function.comp_def]
      have hlaid : laid ≠ [] := by simpa [laid] using hne
      have hwell : ∀ x ∈ laid, x.1.WellFormed := by simpa [laid] using h
      refine ⟨renderLine laid, ?_⟩
      rw [Pipeline.ofLine?, reading_renderLine hlaid hwell (by rwa [hstages]), List.map_map,
        Pipeline.map_stages_ofStages? (by simpa using hlaid)]
      exact congrArg some hstages

/-- Two stages with glued operators, the second without a command. -/
theorem ofLine?_renderLine_glued :
    let laid : List (Stage × StageLayout) :=
      [(⟨["sort", "-r"], some "in", some "out"⟩, { outputFirst := true }),
        (⟨[], some "log", none⟩, { lead := .space })]
    renderLine laid = "sort -r>out<in| <log".toList ∧ laid ≠ [] ∧
      (∀ x ∈ laid, x.1.WellFormed) ∧ laid.map Prod.fst ≠ [{}] ∧
      (Pipeline.ofLine? (renderLine laid)).map Pipeline.stages = some (laid.map Prod.fst) := by
  intro laid
  have hne : laid ≠ [] := by simp [laid]
  have hwell : ∀ x ∈ laid, x.1.WellFormed := by
    have hstages : ∀ s ∈ laid.map Prod.fst, s.WellFormed := by decide
    exact fun x hx => hstages x.1 (List.mem_map_of_mem hx)
  have hempty : laid.map Prod.fst ≠ [{}] := by simp [laid]
  exact ⟨by decide, hne, hwell, hempty, (ofLine?_renderLine.1 laid hne hwell).2.1 hempty⟩

end LineShell
