import LineShell.Proofs.Locality
import LineShell.Proofs.Reading

/-!
# The line that ends a session

Two parts of the shell look for the word `exit`.  A session looks at the line with the
spaces at its ends taken away, where a space is any white space of Unicode.  Parsing
knows four blanks only, and every other character belongs to a word.  So a line that is
parsed as the command `exit` always ends the session, but not only such a line does: next
to a no-break space `exit` is a part of another word, and the session ends all the same.

## Main definitions

* `ReadsExit` — a line is parsed as the command `exit` and nothing else.
* `Session.handleCommand` — a line is handled by executing it, whatever it says.
* `AgreesOnExit` — a session ends at a line, or executes it, by what parsing finds.

## Main results

* `Token.scan_eq_word_iff` — the texts of a single word.
* `readsExit_iff` — the lines that are parsed as `exit`.
* `readsExit_iff_isExit` — they are the lines that say `exit` and have no spaces but
  blanks.
* `agreesOnExit_iff` — where the session and parsing agree.
-/

namespace LineShell

/-! ### Texts of one word -/

namespace Token

/-- The character of an operator is a character of the text. -/
theorem Spells.char_mem {tokens : List Token} {text : List Char} (h : Spells tokens text)
    {d : Direction} (hd : .operator d ∈ tokens) : d.char ∈ text := by
  induction h with
  | blanks => cases hd
  | @operator gap tokens text hgap e rest ih =>
    rcases List.mem_cons.mp hd with heq | hmem
    · cases heq
      simp
    · simp [ih hmem]
  | word hgap hw hend rest ih =>
    have hrest := ih (by simpa using hd)
    simp [hrest]

/-- In a text without operator characters every token is a word. -/
theorem isWord_of_mem_scan {text : List Char} (hinput : '<' ∉ text) (houtput : '>' ∉ text)
    {t : Token} (ht : t ∈ scan text) : t.isWord = true := by
  cases t with
  | word w => rfl
  | operator d =>
    have hmem := (scan_eq_iff.mp rfl).char_mem ht
    cases d with
    | input => exact absurd hmem hinput
    | output => exact absurd hmem houtput

/-- A text is scanned as a single word when nothing but blanks stand around that word. -/
theorem scan_eq_word_iff {text : List Char} {w : String} : scan text = [.word w] ↔
    IsWord w.toList ∧ ∃ before after : List Char, (∀ c ∈ before, isBlank c = true) ∧
      (∀ c ∈ after, isBlank c = true) ∧ text = before ++ (w.toList ++ after) := by
  constructor
  · intro h
    cases scan_eq_iff.mp h with
    | word hgap hw hend rest =>
      cases rest with
      | blanks hafter =>
        rw [String.toList_ofList]
        exact ⟨hw, _, _, hgap, hafter, rfl⟩
  · rintro ⟨hw, before, after, hbefore, hafter, rfl⟩
    have hend : EndsWord after := by
      intro c hc
      exact isWordChar_of_isBlank (hafter c (List.mem_of_mem_head? hc))
    have hrest : scan after = [] := by simpa using scan_blanks hafter []
    rw [scan_blanks hbefore, scan_word hw hend, hrest, String.ofList_toList]

end Token

/-- Tokens that are all words are the words before the first operator. -/
theorem eq_map_leadingWords {tokens : List Token} (h : ∀ t ∈ tokens, t.isWord = true) :
    tokens = (leadingWords tokens).map .word := by
  induction tokens with
  | nil => rfl
  | cons t tokens ih =>
    have hrest := ih fun other hother => h other (List.mem_cons_of_mem _ hother)
    cases t with
    | word w => rw [leadingWords_cons_word, List.map_cons, ← hrest]
    | operator d => cases h _ List.mem_cons_self

/-! ### Lines that are parsed as `exit` -/

/-- A line is parsed as the command `exit`: its only stage has this word as its only
argument, and the line has no operator. -/
structure ReadsExit (line : List Char) : Prop where
  /-- The pipeline is that command. -/
  arguments : ∃ pipeline, Pipeline.ofLine? line = some pipeline ∧
    pipeline.stages.map Stage.arguments = [["exit"]]
  /-- Nothing is redirected, not even by an operator without target. -/
  operators : '<' ∉ line ∧ '>' ∉ line

/-- A line with a single stage has no `|`. -/
theorem segments_of_length_stages {line : List Char} {pipeline : Pipeline}
    (h : Pipeline.ofLine? line = some pipeline) (hlength : pipeline.stages.length = 1) :
    segments line = [line] := by
  rw [← stagesOf_of_ofLine? h, length_stagesOf] at hlength
  exact segments_of_notMem (List.count_eq_zero.mp (by omega))

/-- **The lines that are parsed as `exit`** are those with nothing but blanks around this
word. -/
theorem readsExit_iff {line : List Char} : ReadsExit line ↔
    ∃ before after : List Char, (∀ c ∈ before, isBlank c = true) ∧
      (∀ c ∈ after, isBlank c = true) ∧ line = before ++ (['e', 'x', 'i', 't'] ++ after) := by
  have hword : IsWord "exit".toList := ⟨by decide, List.all_eq_true.mp (by decide)⟩
  constructor
  · rintro ⟨⟨pipeline, hpipeline, harguments⟩, hinput, houtput⟩
    have hlength : pipeline.stages.length = 1 := by
      simpa using congrArg List.length harguments
    have hstages : pipeline.stages = [(Reading.ofText line).stage] := by
      rw [← stagesOf_of_ofLine? hpipeline, stagesOf_eq_map,
        segments_of_length_stages hpipeline hlength, List.map_singleton]
    -- all tokens are words, and the words are the arguments
    have hleading : leadingWords (Token.scan line) = ["exit"] := by
      rw [← Reading.arguments_ofTokens, ← Reading.ofText]
      simpa [hstages] using harguments
    have htokens := eq_map_leadingWords fun t ht => Token.isWord_of_mem_scan hinput houtput ht
    rw [hleading] at htokens
    exact (Token.scan_eq_word_iff.mp htokens).2
  · rintro ⟨before, after, hbefore, hafter, rfl⟩
    have hscan : Token.scan (before ++ (['e', 'x', 'i', 't'] ++ after)) = [.word "exit"] :=
      Token.scan_eq_word_iff.mpr ⟨hword, before, after, hbefore, hafter, rfl⟩
    -- no character of the line is a bar or an operator
    have hnot : ∀ c, isBlank c = false → c ∉ ['e', 'x', 'i', 't'] →
        c ∉ before ++ (['e', 'x', 'i', 't'] ++ after) := by
      intro c hc hmem
      simp only [List.mem_append, not_or]
      refine ⟨fun h => ?_, hmem, fun h => ?_⟩
      · simp [hbefore c h] at hc
      · simp [hafter c h] at hc
    refine ⟨?_, hnot '<' (by decide) (by decide), hnot '>' (by decide) (by decide)⟩
    have hblank : ¬ (before ++ (['e', 'x', 'i', 't'] ++ after)).all isBlank = true := by
      have he : isBlank 'e' = false := by decide
      simp [he]
    obtain ⟨pipeline, hpipeline⟩ := Pipeline.exists_ofLine? hblank
    refine ⟨pipeline, hpipeline, ?_⟩
    rw [← stagesOf_of_ofLine? hpipeline, stagesOf_eq_map,
      segments_of_notMem (hnot '|' isBlank_bar (by decide)), List.map_singleton,
      Reading.ofText, hscan]
    rfl

/-! ### Lines that say `exit` -/

/-- The lines that are parsed as `exit` are those that say `exit` and have no spaces but
blanks. -/
theorem readsExit_iff_isExit {line : String} : ReadsExit line.toList ↔
    isExit line = true ∧ ∀ c ∈ line.toList, isSpace c = true → isBlank c = true := by
  rw [readsExit_iff, isExit_iff]
  constructor
  · rintro ⟨before, after, hbefore, hafter, hline⟩
    refine ⟨⟨before, after, fun c hc => isSpace_of_isBlank (hbefore c hc),
      fun c hc => isSpace_of_isBlank (hafter c hc), hline⟩, ?_⟩
    have hword : ∀ c ∈ ['e', 'x', 'i', 't'], (!isSpace c) = true :=
      List.all_eq_true.mp (by decide)
    intro c hc hspace
    simp only [hline, List.mem_append] at hc
    rcases hc with hc | hc | hc
    · exact hbefore c hc
    · have hnot := hword c hc
      simp [hspace] at hnot
    · exact hafter c hc
  · rintro ⟨⟨before, after, hbefore, hafter, hline⟩, hblank⟩
    refine ⟨before, after, fun c hc => hblank c ?_ (hbefore c hc),
      fun c hc => hblank c ?_ (hafter c hc), hline⟩
    · simp [hline, hc]
    · simp [hline, hc]

section Agreement

variable {σ : Type}

/-- Handles a line by executing it, whatever it says and however long it is; a pipeline
that is given up is reported. -/
def Session.handleCommand (p : Platform σ) (line : String) (s : Session) (w : World σ) :
    Step × Session × World σ :=
  match s.execute p line w with
  | (.ok _, s, w) => (.proceed, s, w)
  | (.error abort, s, w) => (.proceed, { s with lastStatus := 1 }, w.warn p abort.message)

/-- What a session does with a line is what parsing finds in it: it ends at the command
`exit`, and any other line that is not too long is executed. -/
structure AgreesOnExit (p : Platform σ) (line : String) (s : Session) (w : World σ) : Prop where
  /-- The session ends at the command `exit` only. -/
  leaves : (s.handle p line w).1 = .leave ↔ ReadsExit line.toList
  /-- It executes everything else. -/
  executes : ¬ ReadsExit line.toList → line.utf8ByteSize ≤ s.maxLine →
    s.handle p line w = s.handleCommand p line w

/-- Parsing finds the command `exit` where nothing but blanks stand around this word. **A
session agrees with that at every line** but those that say `exit` next to a space that is
no blank. -/
theorem agreesOnExit_iff (p : Platform σ) (line : String) (s : Session) (w : World σ) :
    (ReadsExit line.toList ↔ ∃ before after : List Char, (∀ c ∈ before, isBlank c = true) ∧
      (∀ c ∈ after, isBlank c = true) ∧
        line.toList = before ++ (['e', 'x', 'i', 't'] ++ after)) ∧
      (AgreesOnExit p line s w ↔
        (isExit line = true → ∀ c ∈ line.toList, isSpace c = true → isBlank c = true)) := by
  refine ⟨readsExit_iff, ?_⟩
  have hleave := s.handle_eq_leave_iff p line w
  constructor
  · intro h hexit
    exact (readsExit_iff_isExit.mp (h.leaves.mp (hleave.mpr hexit))).2
  · intro hblank
    have hreads : isExit line = true ↔ ReadsExit line.toList := by
      rw [readsExit_iff_isExit, iff_self_and]
      exact hblank
    exact ⟨hleave.trans hreads, fun hnot hlength =>
      s.handle_of_le p line w (mt hreads.mp hnot) hlength⟩

/-- After a no-break space the session ends, though there is a program of another name to
be run. -/
theorem not_agreesOnExit_nbsp :
    let line := "\u00a0exit"
    let w : World Rehearsal := { state := {} }
    isExit line = true ∧ (({} : Session).handle Rehearsal.platform line w).1 = .leave ∧
      Pipeline.ofLine? line.toList = some ⟨[⟨[line], none, none⟩], by simp⟩ ∧
      ¬ ReadsExit line.toList ∧ line.utf8ByteSize ≤ ({} : Session).maxLine ∧
      ¬ AgreesOnExit Rehearsal.platform line {} w := by
  intro line w
  have hexit : isExit line = true := by decide
  have hleave := (Session.handle_eq_leave_iff Rehearsal.platform line {} w).mpr hexit
  have hspace : ¬ ReadsExit line.toList := by
    intro h
    have := (readsExit_iff_isExit.mp h).2 '\u00a0' (by decide) (by decide)
    simp [isSpace_nbsp.2] at this
  exact ⟨hexit, hleave, by decide, hspace, by decide, fun h => hspace (h.leaves.mp hleave)⟩

end Agreement

end LineShell
