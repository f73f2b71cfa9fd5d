import LineShell.Token

/-!
# The grammar of tokens

A text spells a list of tokens when it is these tokens in order with runs of blanks
around them.  Such a run may be empty, except between two words, which would
otherwise be one.  Every text spells exactly one list of tokens, and `Token.scan`
finds it.

## Main definitions

* `isWordChar`, `IsWord` — what a word is made of.
* `Token.Spells` — a text spells a list of tokens.

## Main results

* `Token.scan_eq_iff` — scanning finds the tokens that a text spells.
-/

namespace LineShell

/-! ### Words -/

/-- The characters of a word: neither blanks nor operators. -/
def isWordChar (c : Char) : Bool := !isBlank c && (Direction.ofChar? c).isNone

/-- The characters of a word, at least one. -/
def IsWord (w : List Char) : Prop := w ≠ [] ∧ ∀ c ∈ w, isWordChar c = true

theorem isBlank_of_isWordChar {c : Char} (h : isWordChar c = true) : isBlank c = false := by
  simp only [isWordChar, Bool.and_eq_true, Bool.not_eq_true'] at h
  exact h.1

theorem ofChar?_of_isWordChar {c : Char} (h : isWordChar c = true) :
    Direction.ofChar? c = none := by
  simp only [isWordChar, Bool.and_eq_true, Option.isNone_iff_eq_none] at h
  exact h.2

theorem isWordChar_of_isBlank {c : Char} (h : isBlank c = true) : isWordChar c = false := by
  simp [isWordChar, h]

/-- The characters of a word, one by one. -/
theorem isWordChar_iff {c : Char} :
    isWordChar c = true ↔ isBlank c = false ∧ c ≠ '<' ∧ c ≠ '>' := by
  simp only [isWordChar, Direction.ofChar?, Bool.and_eq_true, Bool.not_eq_true']
  refine and_congr_right fun _ => ?_
  split
  · next h => simp [h]
  · split
    · next h => simp [h]
    · next h₁ h₂ => simp [h₁, h₂]

@[simp] theorem isBlank_char (d : Direction) : isBlank d.char = false := by
  cases d <;> decide

@[simp] theorem isWordChar_char (d : Direction) : isWordChar d.char = false := by
  simp [isWordChar]

/-- An operator character is the character of its direction. -/
theorem Direction.char_of_ofChar? {c : Char} {d : Direction} (h : ofChar? c = some d) :
    d.char = c := by
  unfold ofChar? at h
  split at h
  · next hc => cases h; exact hc.symm
  · split at h
    · next hc => cases h; exact hc.symm
    · cases h

namespace Token

/-! ### Scanning step by step -/

/-- Whether a word that stands before a text ends there. -/
def EndsWord (text : List Char) : Prop := ∀ c ∈ text.head?, isWordChar c = false

/-- Blanks before a text are not seen. -/
theorem scan_blanks {gap : List Char} (h : ∀ c ∈ gap, isBlank c = true) (text : List Char) :
    scan (gap ++ text) = scan text := by
  induction gap with
  | nil => rfl
  | cons c gap ih =>
    have hc := h c List.mem_cons_self
    have hrest := ih fun d hd => h d (List.mem_cons_of_mem _ hd)
    simp only [scan] at hrest ⊢
    simp [scanFrom, hc, hrest]

/-- An operator is a token of its own. -/
theorem scan_operator (d : Direction) (text : List Char) :
    scan (d.char :: text) = .operator d :: scan text := by
  simp [scan, scanFrom]

/-- The characters of a word are collected one by one. -/
theorem scanFrom_wordChars {w : List Char} (h : ∀ c ∈ w, isWordChar c = true)
    (held text : List Char) : scanFrom held (w ++ text) = scanFrom (w.reverse ++ held) text := by
  induction w generalizing held with
  | nil => rfl
  | cons c w ih =>
    have hc := h c List.mem_cons_self
    rw [List.cons_append, scanFrom, if_neg (by simp [isBlank_of_isWordChar hc]),
      ofChar?_of_isWordChar hc]
    simp only [ih fun d hd => h d (List.mem_cons_of_mem _ hd)]
    simp

/-- A text that ends a word is scanned by itself. -/
theorem scanFrom_of_endsWord {text : List Char} (h : EndsWord text) (held : List Char) :
    scanFrom held text = ofReversed held ++ scan text := by
  cases text with
  | nil => simp [scan, scanFrom]
  | cons c rest =>
    have hc : isWordChar c = false := h c rfl
    by_cases hblank : isBlank c = true
    · simp [scan, scanFrom, hblank]
    · rcases hchar : Direction.ofChar? c with - | d
      · simp [isWordChar, hblank, hchar] at hc
      · simp [scan, scanFrom, hblank, hchar]

/-- A word that ends where the text goes on is one token. -/
theorem scan_word {w : List Char} (hw : IsWord w) {text : List Char} (h : EndsWord text) :
    scan (w ++ text) = .word (String.ofList w) :: scan text := by
  have hheld : ofReversed w.reverse = [.word (String.ofList w)] := by
    cases hr : w.reverse with
    | nil => exact absurd (List.reverse_eq_nil_iff.mp hr) hw.1
    | cons c held =>
      have hrev : (c :: held).reverse = w := by rw [← hr, List.reverse_reverse]
      simp only [ofReversed, hrev]
  rw [scan, scanFrom_wordChars hw.2, List.append_nil, scanFrom_of_endsWord h, hheld]
  rfl

/-! ### The grammar -/

/-- A text spells a list of tokens. -/
inductive Spells : List Token → List Char → Prop
  /-- Blanks spell no token. -/
  | blanks {gap : List Char} (hgap : ∀ c ∈ gap, isBlank c = true) : Spells [] gap
  /-- An operator stands after blanks. -/
  | operator {gap : List Char} {tokens : List Token} {text : List Char}
      (hgap : ∀ c ∈ gap, isBlank c = true) (d : Direction) (rest : Spells tokens text) :
      Spells (.operator d :: tokens) (gap ++ d.char :: text)
  /-- A word stands after blanks, and the text does not go on with a character of a
  word. -/
  | word {gap w : List Char} {tokens : List Token} {text : List Char}
      (hgap : ∀ c ∈ gap, isBlank c = true) (hw : IsWord w) (hend : EndsWord text)
      (rest : Spells tokens text) : Spells (.word (String.ofList w) :: tokens) (gap ++ (w ++ text))

/-- Scanning finds tokens that are spelled. -/
theorem scan_of_spells {tokens : List Token} {text : List Char} (h : Spells tokens text) :
    scan text = tokens := by
  induction h with
  | blanks hgap => simpa using scan_blanks hgap []
  | operator hgap d rest ih => rw [scan_blanks hgap, scan_operator, ih]
  | word hgap hw hend rest ih => rw [scan_blanks hgap, scan_word hw hend, ih]

/-- More blanks before a text spell no more tokens. -/
theorem Spells.prepend {tokens : List Token} {text gap : List Char} (h : Spells tokens text)
    (hgap : ∀ c ∈ gap, isBlank c = true) : Spells tokens (gap ++ text) := by
  have hboth : ∀ {inner : List Char}, (∀ c ∈ inner, isBlank c = true) →
      ∀ c ∈ gap ++ inner, isBlank c = true := by
    intro inner hinner c hc
    exact (List.mem_append.mp hc).elim (hgap c) (hinner c)
  cases h with
  | blanks hinner => exact .blanks (hboth hinner)
  | operator hinner d rest =>
    rw [← List.append_assoc]
    exact .operator (hboth hinner) d rest
  | word hinner hw hend rest =>
    rw [← List.append_assoc]
    exact .word (hboth hinner) hw hend rest

/-- Every text spells the tokens that scanning finds; so does a text that continues a
word. -/
theorem spells_scanFrom {held : List Char} (hheld : ∀ c ∈ held, isWordChar c = true)
    (text : List Char) : Spells (scanFrom held text) (held.reverse ++ text) := by
  -- what is held is a word of its own where the text does not continue it
  have hdone : ∀ {held : List Char}, (∀ c ∈ held, isWordChar c = true) →
      ∀ {tokens : List Token} {text : List Char}, EndsWord text → Spells tokens text →
        Spells (ofReversed held ++ tokens) (held.reverse ++ text) := by
    intro held hheld tokens text hend h
    cases held with
    | nil => exact h
    | cons c held =>
      have hw : IsWord (c :: held).reverse :=
        ⟨by simp, fun d hd => hheld d (List.mem_reverse.mp hd)⟩
      exact .word (List.forall_mem_nil _) hw hend h
  induction text generalizing held with
  | nil => simpa [scanFrom] using hdone hheld (by simp [EndsWord]) (.blanks (List.forall_mem_nil _))
  | cons c rest ih =>
    have hrest : Spells (scanFrom [] rest) rest := ih (List.forall_mem_nil _)
    rw [scanFrom]
    split
    · next hblank =>
      refine hdone hheld (by simpa [EndsWord] using isWordChar_of_isBlank hblank) ?_
      have hgap : ∀ d ∈ [c], isBlank d = true := by simpa using hblank
      exact hrest.prepend hgap
    · next hblank =>
      rcases hchar : Direction.ofChar? c with - | d
      · have hc : isWordChar c = true := by simp [isWordChar, hblank, hchar]
        have hcons : ∀ d ∈ c :: held, isWordChar d = true := by
          simpa using ⟨hc, hheld⟩
        simpa using ih hcons
      · have hd := Direction.char_of_ofChar? hchar
        refine hdone hheld ?_ ?_
        · simp [EndsWord, ← hd]
        · rw [← hd]
          exact .operator (List.forall_mem_nil _) d hrest

/-- Every text spells exactly one list of tokens, and scanning finds it. -/
theorem scan_eq_iff {tokens : List Token} {text : List Char} :
    scan text = tokens ↔ Spells tokens text := by
  constructor
  · rintro rfl
    exact spells_scanFrom (by simp) text
  · exact scan_of_spells

/-- The words among the tokens are words of the text. -/
theorem Spells.of_word_mem {tokens : List Token} {text : List Char} (h : Spells tokens text)
    {w : String} (hw : .word w ∈ tokens) : IsWord w.toList ∧ w.toList ⊆ text := by
  induction h with
  | blanks => cases hw
  | operator hgap d rest ih =>
    obtain ⟨hword, hsub⟩ := ih (by simpa using hw)
    refine ⟨hword, fun c hc => ?_⟩
    simp [hsub hc]
  | @word gap v tokens text hgap hv hend rest ih =>
    rcases List.mem_cons.mp hw with heq | hmem
    · cases heq
      rw [String.toList_ofList]
      exact ⟨hv, fun c hc => by simp [hc]⟩
    · obtain ⟨hword, hsub⟩ := ih hmem
      refine ⟨hword, fun c hc => ?_⟩
      simp [hsub hc]

end Token

end LineShell
