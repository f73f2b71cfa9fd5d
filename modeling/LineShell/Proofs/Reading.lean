import LineShell.Stage

/-!
# What the tokens of a stage mean

Reading goes from token to token and remembers where in the stage it is.  What comes
out depends on less than that: what a word is, is decided by the token right before it
and by whether an operator came before.  A word before the first operator is an
argument, a word right after an operator is a target, and any other word is ignored.

## Main definitions

* `leadingWords`, `wordsAfter`, `targetWords`, `ignoredWords` — the words of each kind.
* `danglingNotes` — what is noted of an operator at the end.
* `Interprets` — a reading says what the tokens mean.

## Main results

* `wordsAfter_append_operator` — an operator that no word follows changes no target.
* `perm_words` — each word is of exactly one kind.
* `ofText_interprets` — reading a stage finds what its tokens mean.
-/

namespace LineShell

/-! ### Words and their neighbours -/

namespace Token

/-- The word of a token, if it is one. -/
def word? : Token → Option String
  | .word w => some w
  | .operator _ => none

/-- The direction of a token, if it is an operator. -/
def direction? : Token → Option Direction
  | .word _ => none
  | .operator d => some d

/-- Whether a token is a word. -/
def isWord (t : Token) : Bool := t.word?.isSome

section Equations

variable (w : String) (d : Direction)

@[simp] theorem word?_word : (word w).word? = some w := rfl

@[simp] theorem word?_operator : (operator d).word? = none := rfl

@[simp] theorem isWord_word : (word w).isWord = true := rfl

@[simp] theorem isWord_operator : (operator d).isWord = false := rfl

end Equations

end Token

/-- The words among some tokens. -/
def wordsIn (tokens : List Token) : List String := tokens.filterMap Token.word?

/-- The words before the first operator. -/
def leadingWords (tokens : List Token) : List String := wordsIn (tokens.takeWhile Token.isWord)

/-- The words right after a token for which `test` holds. -/
def wordsAfter (test : Token → Bool) (tokens : List Token) : List String :=
  (tokens.zip tokens.tail).filterMap fun x => if test x.1 then x.2.word? else none

/-- The words right after an operator of a direction. -/
def targetWords (d : Direction) (tokens : List Token) : List String :=
  wordsAfter (· = .operator d) tokens

/-- The words that come after the first operator and right after another word. -/
def ignoredWords (tokens : List Token) : List String :=
  wordsAfter Token.isWord (tokens.dropWhile Token.isWord)

/-- What is noted of an operator at the very end. -/
def danglingNotes (tokens : List Token) : List Note :=
  ((tokens.getLast?.bind Token.direction?).map Note.dangling).toList

section Cons

variable (w : String) (d : Direction) (tokens : List Token)

@[simp] theorem wordsIn_cons_word : wordsIn (.word w :: tokens) = w :: wordsIn tokens := rfl

@[simp] theorem wordsIn_cons_operator : wordsIn (.operator d :: tokens) = wordsIn tokens := rfl

@[simp] theorem leadingWords_cons_word :
    leadingWords (.word w :: tokens) = w :: leadingWords tokens := rfl

@[simp] theorem leadingWords_cons_operator : leadingWords (.operator d :: tokens) = [] := rfl

@[simp] theorem ignoredWords_cons_word :
    ignoredWords (.word w :: tokens) = ignoredWords tokens := rfl

theorem ignoredWords_cons_operator :
    ignoredWords (.operator d :: tokens) = wordsAfter Token.isWord (.operator d :: tokens) := rfl

end Cons

section WordsAfter

variable (test : Token → Bool)

@[simp] theorem wordsAfter_nil : wordsAfter test [] = [] := rfl

@[simp] theorem wordsAfter_singleton (t : Token) : wordsAfter test [t] = [] := rfl

theorem wordsAfter_cons_cons (t next : Token) (tokens : List Token) :
    wordsAfter test (t :: next :: tokens) =
      (if test t then next.word? else none).toList ++ wordsAfter test (next :: tokens) := by
  rw [wordsAfter, List.tail_cons, List.zip_cons_cons, List.filterMap_cons]
  split <;> simp_all [wordsAfter]

/-- An operator is right after nothing that matters. -/
@[simp] theorem wordsAfter_cons_operator (t : Token) (d : Direction) (tokens : List Token) :
    wordsAfter test (t :: .operator d :: tokens) = wordsAfter test (.operator d :: tokens) := by
  simp [wordsAfter_cons_cons]

/-- The words after a token that fails the test are those after the next tokens. -/
theorem wordsAfter_cons_of_not {t : Token} (h : test t = false) (tokens : List Token) :
    wordsAfter test (t :: tokens) = wordsAfter test tokens := by
  cases tokens with
  | nil => rfl
  | cons next tokens => simp [wordsAfter_cons_cons, h]

/-- An operator that no word follows neither adds a word nor takes one away. -/
theorem wordsAfter_append_operator (before : List Token) (d : Direction) {after : List Token}
    (hafter : ∀ w, after.head? ≠ some (.word w)) :
    wordsAfter test (before ++ .operator d :: after) =
      wordsAfter test before ++ wordsAfter test after := by
  induction before with
  | nil =>
    rcases after with - | ⟨w | e, after⟩
    · rfl
    · exact absurd rfl (hafter w)
    · simp
  | cons t before ih =>
    cases before with
    | nil => simpa using ih
    | cons next before =>
      rw [List.cons_append, List.cons_append, wordsAfter_cons_cons, ← List.cons_append, ih,
        wordsAfter_cons_cons, List.append_assoc]

end WordsAfter

@[simp] theorem targetWords_cons_word (d : Direction) (w : String) (tokens : List Token) :
    targetWords d (.word w :: tokens) = targetWords d tokens :=
  wordsAfter_cons_of_not _ (by simp) tokens

/-- The word right after an operator is a target of its direction. -/
theorem targetWords_operator_word (d e : Direction) (w : String) (tokens : List Token) :
    targetWords d (.operator e :: .word w :: tokens) =
      (if e = d then [w] else []) ++ targetWords d tokens := by
  rw [targetWords, wordsAfter_cons_cons, ← targetWords, targetWords_cons_word]
  by_cases h : e = d <;> simp [h]

/-! ### Reading after a token -/

namespace Stage

/-- The target of a direction, if there is one. -/
def target? (s : Stage) : Direction → Option String
  | .input => s.inputFile
  | .output => s.outputFile

@[simp] theorem target?_withArgument (s : Stage) (w : String) (d : Direction) :
    (s.withArgument w).target? d = s.target? d := by
  cases d <;> rfl

/-- A later target of the same direction takes the place of an earlier one. -/
theorem target?_withTarget (s : Stage) (e : Direction) (w : String) (d : Direction) :
    (s.withTarget e w).target? d =
      if e = d then (s.target? d).or (some w) else s.target? d := by
  cases d <;> cases e <;> rfl

@[simp] theorem arguments_withTarget (s : Stage) (e : Direction) (w : String) :
    (s.withTarget e w).arguments = s.arguments := by
  cases e <;> rfl

end Stage

namespace Reading

/-- The place after a token, once an operator has been read. -/
def Place.after : Token → Place
  | .word _ => .trailing
  | .operator d => .awaiting d

theorem ofTokensAt_operator (place : Place) (d : Direction) (tokens : List Token) :
    ofTokensAt place (.operator d :: tokens) = ofTokensAt (.after (.operator d)) tokens := by
  cases place <;> rfl

/-- After the first operator no word is an argument. -/
theorem arguments_ofTokensAt_after (t : Token) (tokens : List Token) :
    (ofTokensAt (.after t) tokens).stage.arguments = [] := by
  induction tokens generalizing t with
  | nil => cases t <;> rfl
  | cons next tokens ih =>
    cases next with
    | operator d => rw [ofTokensAt_operator, ih]
    | word w =>
      have hrest := ih (.word w)
      cases t with
      | word v => exact hrest
      | operator d => rw [Place.after, ofTokensAt, Stage.arguments_withTarget]; exact hrest

/-- The last of the target words is the target. -/
theorem target?_ofTokensAt_after (t : Token) (tokens : List Token) (d : Direction) :
    (ofTokensAt (.after t) tokens).stage.target? d = (targetWords d (t :: tokens)).getLast? := by
  induction tokens generalizing t with
  | nil => cases t <;> cases d <;> rfl
  | cons next tokens ih =>
    cases next with
    | operator e =>
      rw [ofTokensAt_operator, ih, targetWords, targetWords, wordsAfter_cons_operator]
    | word w =>
      have hrest := ih (.word w)
      rw [targetWords_cons_word] at hrest
      cases t with
      | word v =>
        rw [targetWords_cons_word, targetWords_cons_word]
        exact hrest
      | operator e =>
        have hread : (ofTokensAt (.after (.operator e)) (.word w :: tokens)).stage =
            (ofTokensAt (.after (.word w)) tokens).stage.withTarget e w := rfl
        rw [hread, Stage.target?_withTarget, hrest, targetWords_operator_word]
        split
        · rw [List.getLast?_append, List.getLast?_singleton]
        · rfl

/-- Words right after words are ignored, and an operator at the end is left without a
target. -/
theorem notes_ofTokensAt_after (t : Token) (tokens : List Token) :
    (ofTokensAt (.after t) tokens).notes =
      (wordsAfter Token.isWord (t :: tokens)).map .ignored ++ danglingNotes (t :: tokens) := by
  induction tokens generalizing t with
  | nil => cases t <;> rfl
  | cons next tokens ih =>
    have hlast : danglingNotes (t :: next :: tokens) = danglingNotes (next :: tokens) := by
      rw [danglingNotes, List.getLast?_cons_cons, danglingNotes]
    cases next with
    | operator d => rw [ofTokensAt_operator, ih, hlast, wordsAfter_cons_operator]
    | word w =>
      have hrest := ih (.word w)
      rw [hlast, wordsAfter_cons_cons]
      cases t with
      | word v => simpa [ofTokensAt, Place.after] using hrest
      | operator d => exact hrest

/-! ### Reading from the start -/

section Start

variable (tokens : List Token)

theorem arguments_ofTokens : (ofTokens tokens).stage.arguments = leadingWords tokens := by
  induction tokens with
  | nil => rfl
  | cons t tokens ih =>
    cases t with
    | word w => exact congrArg (w :: ·) ih
    | operator d =>
      rw [ofTokens, ofTokensAt_operator, arguments_ofTokensAt_after, leadingWords_cons_operator]

theorem target?_ofTokens (d : Direction) :
    (ofTokens tokens).stage.target? d = (targetWords d tokens).getLast? := by
  induction tokens with
  | nil => cases d <;> rfl
  | cons t tokens ih =>
    cases t with
    | word w => simpa [ofTokens, ofTokensAt] using ih
    | operator e => rw [ofTokens, ofTokensAt_operator, target?_ofTokensAt_after]

theorem notes_ofTokens :
    (ofTokens tokens).notes = (ignoredWords tokens).map .ignored ++ danglingNotes tokens := by
  induction tokens with
  | nil => rfl
  | cons t tokens ih =>
    cases t with
    | operator d =>
      rw [ofTokens, ofTokensAt_operator, notes_ofTokensAt_after, ignoredWords_cons_operator]
    | word w =>
      have hread : (ofTokens (.word w :: tokens)).notes = (ofTokens tokens).notes := rfl
      have hlast : danglingNotes (.word w :: tokens) = danglingNotes tokens := by
        cases tokens with
        | nil => rfl
        | cons next tokens => rw [danglingNotes, List.getLast?_cons_cons, danglingNotes]
      rw [hread, ih, ignoredWords_cons_word, hlast]

end Start

end Reading

/-! ### Each word is of one kind -/

/-- After the first operator a word is a target or it is ignored. -/
theorem perm_words_after (t : Token) (tokens : List Token) :
    (wordsIn tokens).Perm (targetWords .input (t :: tokens) ++ targetWords .output (t :: tokens) ++
      wordsAfter Token.isWord (t :: tokens)) := by
  induction tokens generalizing t with
  | nil => cases t <;> simp [wordsIn, targetWords]
  | cons next tokens ih =>
    have hrest := ih next
    cases next with
    | operator d => simpa [targetWords] using hrest
    | word w =>
      rw [targetWords_cons_word, targetWords_cons_word] at hrest
      rw [wordsIn_cons_word, wordsAfter_cons_cons]
      refine (hrest.cons w).trans ?_
      -- the word joins the words of its own kind
      rcases t with v | d | d
      · simp only [targetWords_cons_word]
        exact List.perm_middle.symm
      · simp [targetWords_operator_word]
      · simpa [targetWords_operator_word] using List.perm_middle.symm

/-- Each word is an argument, the target of an operator, or ignored. -/
theorem perm_words (tokens : List Token) :
    (wordsIn tokens).Perm (leadingWords tokens ++
      (targetWords .input tokens ++ targetWords .output tokens ++ ignoredWords tokens)) := by
  induction tokens with
  | nil => simp [wordsIn, leadingWords, targetWords, ignoredWords]
  | cons t tokens ih =>
    cases t with
    | word w => simpa using ih
    | operator d => simpa [ignoredWords_cons_operator] using perm_words_after (.operator d) tokens

/-! ### The meaning of a stage -/

/-- A reading says what the tokens mean. -/
structure Interprets (tokens : List Token) (r : Reading) : Prop where
  /-- The arguments are the words before the first operator. -/
  arguments : r.stage.arguments = leadingWords tokens
  /-- The input file is the last word that stands right after `<`. -/
  inputFile : r.stage.inputFile = (targetWords .input tokens).getLast?
  /-- The output file is the last word that stands right after `>`. -/
  outputFile : r.stage.outputFile = (targetWords .output tokens).getLast?
  /-- An operator that no word follows sets no target, and those that were read before
  it stand unless a later one takes their place. -/
  idle : ∀ before d after, tokens = before ++ .operator d :: after →
    (∀ w, after.head? ≠ some (.word w)) → ∀ e, r.stage.target? e =
      ((Reading.ofTokens after).stage.target? e).or ((Reading.ofTokens before).stage.target? e)
  /-- The ignored words are noted in order, and then an operator at the very end. -/
  notes : r.notes = (ignoredWords tokens).map .ignored ++ danglingNotes tokens
  /-- Each word is an argument, the target of an operator, or ignored. -/
  words : (wordsIn tokens).Perm (r.stage.arguments ++
    (targetWords .input tokens ++ targetWords .output tokens ++ ignoredWords tokens))

theorem interprets_ofTokens (tokens : List Token) :
    Interprets tokens (Reading.ofTokens tokens) where
  arguments := Reading.arguments_ofTokens tokens
  inputFile := Reading.target?_ofTokens tokens .input
  outputFile := Reading.target?_ofTokens tokens .output
  idle := by
    rintro before d after rfl hafter e
    rw [Reading.target?_ofTokens, Reading.target?_ofTokens, Reading.target?_ofTokens, targetWords,
      wordsAfter_append_operator _ before d hafter, List.getLast?_append, targetWords, targetWords]
  notes := Reading.notes_ofTokens tokens
  words := by
    rw [Reading.arguments_ofTokens]
    exact perm_words tokens

/-- **Reading a stage finds what its tokens mean**, and no word is lost unnoticed. -/
theorem ofText_interprets (text : List Char) :
    Interprets (Token.scan text) (Reading.ofText text) :=
  interprets_ofTokens (Token.scan text)

example : Reading.ofText "a < b c < > d e >".toList =
    { stage := ⟨["a"], some "b", some "d"⟩,
      notes := [.ignored "c", .ignored "e", .dangling .output] } := by decide

end LineShell
