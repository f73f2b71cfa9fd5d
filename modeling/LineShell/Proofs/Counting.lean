import LineShell.Proofs.Lexing
import LineShell.Proofs.Reading

/-!
# Counting words ahead

The arguments of a stage are counted before the stage is built, so that there is room for
all of them from the first one on.  The count is a pass of its own over the characters: it
knows no tokens, remembers only whether it is within a word, and stops at the first
operator.  The stage is built from the tokens, in a draft that grows from left to right.

The two passes share nothing but the grammar of tokens, and they are compared through it:
blanks, an operator and a word in front of a text each do to the count what they do to the
words before the first operator.  What a draft comes to, once the rest of the tokens has
been read, does not change from token to token.  So it ends as the reading that
`Reading.ofText` finds by recursion, and on the way there it never has more arguments than
that reading, which are as many as were counted.

## Main definitions

* `Reading.followedBy` — what is read in two parts of a stage.
* `Draft` — a stage that is being built, with the room for its arguments.
* `Draft.prospect` — what a draft comes to with the rest of the tokens.
* `AgreesOnCount` — the count of a text agrees with the stage that is built from it.

## Main results

* `countWords_of_spells` — the count of a text, from the tokens that it spells.
* `Draft.prospect_step`, `Draft.prospect_read` — to read tokens changes nothing about what
  a draft comes to.
* `Draft.fits_of_scan` — the arguments of a draft do not outgrow their room.
* `agreesOnCount` — the count agrees with the stage for every text.
-/

namespace LineShell

/-! ### Counting and the grammar -/

/-- A blank is no operator. -/
theorem Direction.ofChar?_of_isBlank {c : Char} (h : isBlank c = true) : ofChar? c = none := by
  rcases hchar : ofChar? c with - | d
  · rfl
  · rw [← char_of_ofChar? hchar, isBlank_char] at h
    cases h

section Count

variable {inWord : Bool}

/-- A blank ends a word, which is counted now. -/
theorem countWordsFrom_blank {c : Char} (h : isBlank c = true) (text : List Char) :
    countWordsFrom inWord (c :: text) = inWord.toNat + countWords text := by
  rw [countWordsFrom, Direction.ofChar?_of_isBlank h, Option.isSome_none,
    if_neg Bool.false_ne_true, if_pos h, countWords]

/-- An operator ends a word and with it the count. -/
theorem countWordsFrom_operator (d : Direction) (text : List Char) :
    countWordsFrom inWord (d.char :: text) = inWord.toNat := by
  rw [countWordsFrom, Direction.ofChar?_char, Option.isSome_some, if_pos rfl]

/-- Any other character belongs to a word. -/
theorem countWordsFrom_wordChar {c : Char} (h : isWordChar c = true) (text : List Char) :
    countWordsFrom inWord (c :: text) = countWordsFrom true text := by
  rw [countWordsFrom, ofChar?_of_isWordChar h, isBlank_of_isWordChar h, Option.isSome_none,
    if_neg Bool.false_ne_true, if_neg Bool.false_ne_true]

/-- Blanks before a text are not counted. -/
theorem countWords_blanks {gap : List Char} (h : ∀ c ∈ gap, isBlank c = true)
    (text : List Char) : countWords (gap ++ text) = countWords text := by
  induction gap with
  | nil => rfl
  | cons c gap ih =>
    have hc := h c List.mem_cons_self
    have hrest := ih fun d hd => h d (List.mem_cons_of_mem _ hd)
    rw [List.cons_append, countWords, countWordsFrom_blank hc, hrest, Bool.toNat_false,
      Nat.zero_add]

/-- A word is not counted before it ends. -/
theorem countWordsFrom_word {w : List Char} (hw : IsWord w) (text : List Char) :
    countWordsFrom inWord (w ++ text) = countWordsFrom true text := by
  obtain ⟨hne, hchars⟩ := hw
  induction w generalizing inWord with
  | nil => exact absurd rfl hne
  | cons c w ih =>
    have hc := hchars c List.mem_cons_self
    have hrest := fun d hd => hchars d (List.mem_cons_of_mem _ hd)
    rw [List.cons_append, countWordsFrom_wordChar hc]
    by_cases hlast : w = []
    · rw [hlast, List.nil_append]
    · exact ih hlast hrest

/-- A word that ends where the text goes on is counted once. -/
theorem countWordsFrom_of_endsWord {text : List Char} (h : Token.EndsWord text) :
    countWordsFrom true text = countWords text + 1 := by
  cases text with
  | nil => rfl
  | cons c rest =>
    have hc : isWordChar c = false := h c rfl
    by_cases hblank : isBlank c = true
    · rw [countWords, countWordsFrom_blank hblank, countWordsFrom_blank hblank, Bool.toNat_true,
        Bool.toNat_false]
      omega
    · -- what is neither a blank nor part of a word is an operator
      rcases hchar : Direction.ofChar? c with - | d
      · simp [isWordChar, hblank, hchar] at hc
      · rw [← Direction.char_of_ofChar? hchar, countWords, countWordsFrom_operator,
          countWordsFrom_operator, Bool.toNat_true, Bool.toNat_false]

end Count

/-- The words before the first operator are counted, whatever text spells them. -/
theorem countWords_of_spells {tokens : List Token} {text : List Char}
    (h : Token.Spells tokens text) : countWords text = (leadingWords tokens).length := by
  induction h with
  | @blanks gap hgap =>
    have hcount := countWords_blanks hgap []
    rw [List.append_nil] at hcount
    exact hcount
  | operator hgap d rest ih =>
    rw [countWords_blanks hgap, countWords, countWordsFrom_operator, leadingWords_cons_operator,
      Bool.toNat_false, List.length_nil]
  | word hgap hw hend rest ih =>
    rw [countWords_blanks hgap, countWords, countWordsFrom_word hw,
      countWordsFrom_of_endsWord hend, ih, leadingWords_cons_word, List.length_cons]

/-- The tokens before the first operator are words, one each. -/
theorem length_leadingWords (tokens : List Token) :
    (leadingWords tokens).length = (tokens.takeWhile Token.isWord).length := by
  induction tokens with
  | nil => rfl
  | cons t tokens ih =>
    cases t with
    | operator d => rfl
    | word w =>
      rw [leadingWords_cons_word, List.takeWhile_cons_of_pos (Token.isWord_word w),
        List.length_cons, List.length_cons, ih]

/-! ### One part of a stage after another -/

namespace Reading

/-- What is read in two parts of a stage, one after the other. A target in the second part
takes the place of one in the first part. -/
def followedBy (first second : Reading) : Reading where
  stage :=
    { arguments := first.stage.arguments ++ second.stage.arguments
      inputFile := second.stage.inputFile.or first.stage.inputFile
      outputFile := second.stage.outputFile.or first.stage.outputFile }
  notes := first.notes ++ second.notes

theorem empty_followedBy (r : Reading) : ({} : Reading).followedBy r = r := by
  simp [followedBy]

theorem followedBy_empty (r : Reading) : r.followedBy {} = r := by
  simp [followedBy]

end Reading

/-! ### Building a stage from left to right -/

/-- A stage that is being built. -/
structure Draft where
  /-- The number of arguments that room was made for. -/
  room : Nat
  /-- What has been read so far. -/
  reading : Reading := {}
  /-- Where in the stage the next token stands. -/
  place : Reading.Place := .leading
deriving DecidableEq, Repr

namespace Draft

/-- The draft of a text before its first token: the words are counted, and none is read. -/
def ofText (text : List Char) : Draft := { room := countWords text }

/-- Reads a word, which is an argument, the target of an operator, or to be ignored. -/
def push (w : String) (draft : Draft) : Draft :=
  match draft.place with
  | .leading =>
    { draft with reading.stage.arguments := draft.reading.stage.arguments ++ [w] }
  | .awaiting .input =>
    { draft with reading.stage.inputFile := some w, place := .trailing }
  | .awaiting .output =>
    { draft with reading.stage.outputFile := some w, place := .trailing }
  | .trailing =>
    { draft with reading.notes := draft.reading.notes ++ [.ignored w] }

/-- Reads a token. An operator is the one that waits for its target from now on. -/
def step (draft : Draft) : Token → Draft
  | .operator d => { draft with place := .awaiting d }
  | .word w => draft.push w

/-- Reads tokens one after the other. -/
def read (tokens : List Token) (draft : Draft) : Draft := tokens.foldl step draft

/-- What has been read when there are no more tokens. -/
def finish (draft : Draft) : Reading :=
  match draft.place with
  | .awaiting d => { draft.reading with notes := draft.reading.notes ++ [.dangling d] }
  | _ => draft.reading

/-- The arguments find place in the room that was made for them. -/
def Fits (draft : Draft) : Prop := draft.reading.stage.arguments.length ≤ draft.room

/-- What a draft comes to when the rest of the tokens is read. -/
def prospect (draft : Draft) (rest : List Token) : Reading :=
  draft.reading.followedBy (Reading.ofTokensAt draft.place rest)

section Prospect

variable (draft : Draft) (t : Token) (tokens rest : List Token) (text : List Char)

/-- Before its first token a draft comes to what all the tokens describe. -/
theorem prospect_ofText : (ofText text).prospect tokens = Reading.ofTokens tokens :=
  Reading.empty_followedBy (Reading.ofTokens tokens)

/-- Without further tokens a draft comes to what it is. -/
theorem prospect_nil : draft.prospect [] = draft.finish := by
  unfold prospect finish
  cases draft.place with
  | leading => exact Reading.followedBy_empty draft.reading
  | awaiting d => simp [Reading.followedBy, Reading.ofTokensAt]
  | trailing => exact Reading.followedBy_empty draft.reading

/-- To read the next token changes nothing about what a draft comes to. -/
theorem prospect_step : (draft.step t).prospect rest = draft.prospect (t :: rest) := by
  cases t with
  | operator d =>
    rw [prospect, prospect, Reading.ofTokensAt_operator]
    rfl
  | word w =>
    obtain ⟨room, reading, place⟩ := draft
    -- the word goes from the front of what is to be read to the end of what has been read
    cases place with
    | leading =>
      simp [prospect, step, push, Reading.ofTokensAt, Reading.followedBy, Stage.withArgument]
    | awaiting d =>
      cases d <;>
        simp [prospect, step, push, Reading.ofTokensAt, Reading.followedBy, Stage.withTarget]
    | trailing =>
      simp [prospect, step, push, Reading.ofTokensAt, Reading.followedBy]

/-- Nor is it changed by reading several tokens. -/
theorem prospect_read : (draft.read tokens).prospect rest = draft.prospect (tokens ++ rest) := by
  induction tokens generalizing draft with
  | nil => rfl
  | cons t tokens ih => exact (ih (draft.step t)).trans (prospect_step draft t (tokens ++ rest))

/-- What a draft has of arguments, it will have. -/
theorem length_arguments_le :
    draft.reading.stage.arguments.length ≤ (draft.prospect rest).stage.arguments.length := by
  rw [prospect, Reading.followedBy, List.length_append]
  omega

/-- The room is made before the first token and not touched by any. -/
theorem room_step : (draft.step t).room = draft.room := by
  cases t with
  | operator d => rfl
  | word w =>
    obtain ⟨room, reading, place⟩ := draft
    rcases place with - | (- | -) | - <;> rfl

theorem room_read : (draft.read tokens).room = draft.room := by
  induction tokens generalizing draft with
  | nil => rfl
  | cons t tokens ih => exact (ih (draft.step t)).trans (room_step draft t)

end Prospect

end Draft

/-! ### The count is right -/

/-- As many words are counted as the stage has arguments. -/
theorem countWords_eq_length_arguments (text : List Char) :
    countWords text = (Reading.ofText text).stage.arguments.length := by
  rw [countWords_of_spells (Token.scan_eq_iff.mp rfl), Reading.ofText, Reading.arguments_ofTokens]

namespace Draft

variable {text : List Char} {before after : List Token}

/-- Wherever the tokens of a text are cut, what has been read of them comes to the reading
of the text. -/
theorem prospect_of_scan (h : before ++ after = Token.scan text) :
    ((ofText text).read before).prospect after = Reading.ofText text := by
  rw [prospect_read, h, prospect_ofText, Reading.ofText]

/-- Wherever the tokens of a text are cut, there was room for the arguments before. -/
theorem fits_of_scan (h : before ++ after = Token.scan text) :
    ((ofText text).read before).Fits := by
  have hroom : ((ofText text).read before).room = countWords text := room_read _ before
  have hle := length_arguments_le ((ofText text).read before) after
  rw [prospect_of_scan h, ← countWords_eq_length_arguments] at hle
  rw [Fits, hroom]
  exact hle

end Draft

/-- The count of a text agrees with the stage that is built from it. -/
structure AgreesOnCount (text : List Char) : Prop where
  /-- As many words are counted as the stage has arguments. -/
  arguments : countWords text = (Reading.ofText text).stage.arguments.length
  /-- As many words are counted as word tokens stand before the first operator token. -/
  tokens : countWords text = ((Token.scan text).takeWhile Token.isWord).length
  /-- Room is made for so many arguments, and whatever number of tokens has been read, the
  arguments do not outgrow it. -/
  room : ∀ before, before <+: Token.scan text →
    ((Draft.ofText text).read before).room = countWords text ∧
      ((Draft.ofText text).read before).Fits
  /-- When all tokens have been read, the draft is the reading of the text. -/
  built : ((Draft.ofText text).read (Token.scan text)).finish = Reading.ofText text

/-- **The words that are counted ahead are the arguments of the stage**, whatever the text
is: with operators first, glued to words or without a target, and with a word that the end
of the text cuts off. -/
theorem agreesOnCount (text : List Char) : AgreesOnCount text where
  arguments := countWords_eq_length_arguments text
  tokens := by
    rw [countWords_of_spells (Token.scan_eq_iff.mp rfl), length_leadingWords]
  room := by
    rintro before ⟨after, hscan⟩
    exact ⟨Draft.room_read (Draft.ofText text) before, Draft.fits_of_scan hscan⟩
  built := by
    have hscan : Token.scan text ++ [] = Token.scan text := List.append_nil _
    rw [← Draft.prospect_nil, Draft.prospect_of_scan hscan]

example : ["sort<in.txt", "cat > out a b", "< in cat", " grep\t-n foo"].map
    (fun text => countWords text.toList) = [1, 1, 0, 3] := by decide

end LineShell
