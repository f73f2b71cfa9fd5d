import LineShell.Proofs.Layout
import LineShell.Proofs.Reading
import Mathlib.Data.List.Chain

/-!
# How tokens are written down

A list of tokens is written down by choosing a gap in front of each token and one more
at the end.  Any choice will do, as long as two words that follow one another are kept
apart.  Scanning undoes every such choice, and every text comes from one, so that no
character but the blanks is lost on the way from a text to its tokens.

## Main definitions

* `Token.chars`, `Token.Sound` — the characters of a token, and what they may be.
* `Token.Spelling` — tokens with the gaps around them.

## Main results

* `Token.spells_iff` — the grammar of tokens, in terms of spellings.
* `Token.scan_append` — a text is scanned part by part where no word is cut.
* `Token.flatMap_chars_of_spells` — only the blanks are lost.
* `Token.scan_grammar` — scanning finds the tokens whose spelling a text is.
-/

namespace LineShell

namespace Token

/-! ### Tokens and their characters -/

/-- The characters of a token. -/
def chars : Token → List Char
  | .word w => w.toList
  | .operator d => [d.char]

/-- A token that can be written down: a word has characters, and each of them belongs to a
word wherever it stands. -/
def Sound : Token → Prop
  | .word w => w ≠ "" ∧ ∀ c ∈ w.toList, isBlank c = false ∧ c ≠ '<' ∧ c ≠ '>'
  | .operator _ => True

instance : DecidablePred Sound
  | .word w => @instDecidableAnd (w ≠ "") _ inferInstance (List.decidableBAll _ w.toList)
  | .operator _ => inferInstanceAs (Decidable True)

theorem sound_word_iff {w : String} : (word w).Sound ↔ IsWord w.toList := by
  simp only [Sound, IsWord, isWordChar_iff, ne_eq, String.toList_eq_nil_iff]

/-- No token is written with blanks. -/
theorem Sound.filter_chars {t : Token} (h : t.Sound) : t.chars.filter (!isBlank ·) = t.chars := by
  rw [List.filter_eq_self]
  cases t with
  | word w =>
    intro c hc
    simp [(h.2 c hc).1]
  | operator d => simp [chars]

/-! ### Spellings -/

/-- The text of some tokens, each after a gap, with another gap at the end. -/
def laidText (laid : List (Gap × Token)) (trail : Gap) : List Char :=
  laid.flatMap (fun x => x.1.text ++ x.2.chars) ++ trail.text

/-- One token and the next, each with the gap in front of it: two words need blanks
between them. -/
def KeptApart (first second : Gap × Token) : Prop :=
  first.2.isWord = true → second.2.isWord = true → second.1.text ≠ []

/-- Tokens with the gaps around them. -/
structure Spelling where
  /-- The tokens, each with the gap in front of it. -/
  laid : List (Gap × Token)
  /-- The gap after the last token. -/
  trail : Gap := .empty
  /-- Words that follow one another are kept apart. -/
  apart : laid.IsChain KeptApart

namespace Spelling

/-- The tokens without the gaps. -/
def tokens (s : Spelling) : List Token := s.laid.map Prod.snd

/-- The tokens and the gaps in one text. -/
def text (s : Spelling) : List Char := laidText s.laid s.trail

end Spelling

section Laid

variable (gap : Gap) (t : Token) (laid : List (Gap × Token)) (trail : Gap)

@[simp] theorem laidText_nil : laidText [] trail = trail.text := rfl

@[simp] theorem laidText_cons :
    laidText ((gap, t) :: laid) trail = gap.text ++ (t.chars ++ laidText laid trail) := by
  simp [laidText]

/-- A word ends before tokens that are written down, unless another word follows without
a gap. -/
theorem endsWord_laidText_iff {laid : List (Gap × Token)} (h : ∀ x ∈ laid, x.2.Sound) :
    EndsWord (laidText laid trail) ↔
      ∀ x ∈ laid.head?, x.2.isWord = true → x.1.text ≠ [] := by
  have hnil : EndsWord [] := by simp [EndsWord]
  rcases laid with - | ⟨⟨gap, t⟩, laid⟩
  · simpa using endsWord_gap trail (Or.inr hnil)
  · simp only [laidText_cons, List.head?_cons, Option.mem_some_iff, forall_eq']
    cases t with
    | operator d =>
      have hend : EndsWord ((operator d).chars ++ laidText laid trail) := by
        simp [EndsWord, chars]
      exact iff_of_true (endsWord_gap gap (Or.inr hend)) (by simp)
    | word w =>
      simp only [isWord_word, forall_const]
      constructor
      · -- without a gap the text goes on with the first character of the word
        intro hend hgap
        obtain ⟨hne, hchars⟩ := sound_word_iff.mp (h (gap, .word w) List.mem_cons_self)
        obtain ⟨c, rest, hw⟩ := List.exists_cons_of_ne_nil hne
        have hc : isWordChar c = true := hchars c (by simp [hw])
        have hnot : isWordChar c = false := hend c (by simp [hgap, chars, hw])
        simp [hc] at hnot
      · exact fun hgap => endsWord_gap gap (Or.inl hgap)

end Laid

/-! ### The grammar in terms of spellings -/

/-- Tokens that are written down are spelled by their text. -/
theorem spells_laidText {laid : List (Gap × Token)} (trail : Gap)
    (hsound : ∀ x ∈ laid, x.2.Sound) (hapart : laid.IsChain KeptApart) :
    Spells (laid.map Prod.snd) (laidText laid trail) := by
  induction laid with
  | nil => exact .blanks trail.isBlank_of_mem
  | cons x laid ih =>
    obtain ⟨gap, t⟩ := x
    obtain ⟨hnext, hrest⟩ := List.isChain_cons.mp hapart
    have hsound' := fun x hx => hsound x (List.mem_cons_of_mem _ hx)
    rw [List.map_cons, laidText_cons]
    cases t with
    | operator d => exact .operator gap.isBlank_of_mem d (ih hsound' hrest)
    | word w =>
      have hw : IsWord w.toList := sound_word_iff.mp (hsound (gap, .word w) List.mem_cons_self)
      have hend : EndsWord (laidText laid trail) :=
        (endsWord_laidText_iff trail hsound').mpr fun y hy => hnext y hy rfl
      simpa [chars] using Spells.word gap.isBlank_of_mem hw hend (ih hsound' hrest)

/-- What a text spells has sound tokens, and the text is one of its spellings. -/
theorem Spells.exists_spelling {tokens : List Token} {text : List Char} (h : Spells tokens text) :
    (∀ t ∈ tokens, t.Sound) ∧ ∃ s : Spelling, s.tokens = tokens ∧ s.text = text := by
  induction h with
  | @blanks gap hgap => exact ⟨by simp, ⟨[], ⟨gap, hgap⟩, .nil⟩, rfl, rfl⟩
  | @operator gap tokens text hgap d rest ih =>
    obtain ⟨hsound, s, rfl, rfl⟩ := ih
    refine ⟨?_, ⟨(⟨gap, hgap⟩, .operator d) :: s.laid, s.trail, ?_⟩, rfl, ?_⟩
    · simpa [Sound] using hsound
    · exact List.isChain_cons.mpr ⟨fun _ _ hword => by simp at hword, s.apart⟩
    · exact laidText_cons _ _ _ _
  | @word gap w tokens text hgap hw hend rest ih =>
    obtain ⟨hsound, s, rfl, rfl⟩ := ih
    have hword : (Token.word (String.ofList w)).Sound := by
      rwa [sound_word_iff, String.toList_ofList]
    have hlaid : ∀ x ∈ s.laid, x.2.Sound := fun x hx => hsound x.2 (List.mem_map_of_mem hx)
    refine ⟨?_, ⟨(⟨gap, hgap⟩, .word (String.ofList w)) :: s.laid, s.trail, ?_⟩, rfl, ?_⟩
    · simpa [hword] using hsound
    · -- the rest of the text does not continue the word, so the next one is kept apart
      refine List.isChain_cons.mpr ⟨fun x hx _ => ?_, s.apart⟩
      exact (endsWord_laidText_iff s.trail hlaid).mp hend x hx
    · rw [Spelling.text, laidText_cons, chars, String.toList_ofList]
      rfl

/-- A text spells tokens exactly if these are sound and the text is a spelling of them. -/
theorem spells_iff {tokens : List Token} {text : List Char} :
    Spells tokens text ↔
      (∀ t ∈ tokens, t.Sound) ∧ ∃ s : Spelling, s.tokens = tokens ∧ s.text = text := by
  constructor
  · exact Spells.exists_spelling
  · rintro ⟨hsound, s, rfl, rfl⟩
    exact spells_laidText s.trail (fun x hx => hsound x.2 (List.mem_map_of_mem hx)) s.apart

/-- Only the blanks of a text are in none of its tokens. -/
theorem flatMap_chars_of_spells {tokens : List Token} {text : List Char}
    (h : Spells tokens text) : tokens.flatMap chars = text.filter (!isBlank ·) := by
  have hblanks : ∀ {gap : List Char}, (∀ c ∈ gap, isBlank c = true) →
      gap.filter (!isBlank ·) = [] := by
    intro gap hgap
    simpa [List.filter_eq_nil_iff] using hgap
  induction h with
  | blanks hgap => exact (hblanks hgap).symm
  | operator hgap d rest ih =>
    rw [List.flatMap_cons, List.filter_append, hblanks hgap, ih]
    simp [chars]
  | @word gap w tokens text hgap hw hend rest ih =>
    have hword : (word (String.ofList w)).Sound := by
      rwa [sound_word_iff, String.toList_ofList]
    have hchars : (word (String.ofList w)).chars = w := String.toList_ofList
    rw [List.flatMap_cons, List.filter_append, List.filter_append, hblanks hgap, ih, hchars,
      ← hchars, hword.filter_chars]
    rfl

/-! ### Scanning part by part -/

/-- A text that does not end within a word is scanned to its end before the rest is. -/
theorem scanFrom_append {first : List Char} (hne : first ≠ [])
    (hlast : ∀ c ∈ first.getLast?, isWordChar c = false) (held rest : List Char) :
    scanFrom held (first ++ rest) = scanFrom held first ++ scan rest := by
  induction first generalizing held with
  | nil => exact absurd rfl hne
  | cons c first ih =>
    -- after the last character no word is held any more
    have hafter : ∀ held, first ≠ [] ∨ held = [] →
        scanFrom held (first ++ rest) = scanFrom held first ++ scan rest := by
      intro held h
      by_cases hfirst : first = []
      · rw [hfirst, h.resolve_left (not_not_intro hfirst)]
        rfl
      · refine ih hfirst ?_ held
        obtain ⟨d, others, rfl⟩ := List.exists_cons_of_ne_nil hfirst
        simpa using hlast
    rw [List.cons_append, scanFrom, scanFrom]
    split
    · rw [hafter [] (Or.inr rfl), List.append_assoc]
    · next hblank =>
      rcases hchar : Direction.ofChar? c with - | d
      · have hc : isWordChar c = true := by simp [isWordChar, hblank, hchar]
        refine hafter (c :: held) (Or.inl ?_)
        rintro rfl
        simp [hc] at hlast
      · simp only [hafter [] (Or.inr rfl), List.append_assoc, List.cons_append]

/-- A text is scanned part by part where no word is cut. -/
theorem scan_append {first : List Char} (hlast : ∀ c ∈ first.getLast?, isWordChar c = false)
    (rest : List Char) : scan (first ++ rest) = scan first ++ scan rest := by
  by_cases hne : first = []
  · rw [hne]
    rfl
  · exact scanFrom_append hne hlast [] rest

/-- **Scanning finds exactly the tokens whose spelling a text is**, whatever gaps were
chosen.  Nothing but blanks is lost, and the characters of a word that stand together in the
text are one token, in its place. -/
theorem scan_grammar (text : List Char) :
    (∀ tokens, scan text = tokens ↔
      (∀ t ∈ tokens, t.Sound) ∧ ∃ s : Spelling, s.tokens = tokens ∧ s.text = text) ∧
    (scan text).flatMap chars = text.filter (!isBlank ·) ∧
    ∀ before run after, text = before ++ (run ++ after) → IsWord run →
      (∀ c ∈ before.getLast?, isWordChar c = false) → EndsWord after →
      scan text = scan before ++ .word (String.ofList run) :: scan after := by
  refine ⟨fun tokens => scan_eq_iff.trans spells_iff, flatMap_chars_of_spells (scan_eq_iff.mp rfl),
    ?_⟩
  rintro before run after rfl hrun hbefore hafter
  rw [scan_append hbefore, scan_word hrun hafter]

/-- The run `out` in ` a  b<c >out` is a token, which neither gap nor operator cuts. -/
theorem scan_grammar_glued :
    let s : Spelling := ⟨[(.space, .word "a"), (⟨[' ', '\t'], by simp [isBlank]⟩, .word "b"),
      (.empty, .operator .input), (.empty, .word "c"), (.space, .operator .output),
      (.empty, .word "out")], .empty, by simp [KeptApart, Gap.space]⟩
    s.text = " a \tb<c >out".toList ∧ IsWord "out".toList ∧ EndsWord [] ∧
      scan s.text = s.tokens ∧
      scan " a \tb<c >out".toList = scan " a \tb<c >".toList ++ [.word "out"] := by
  intro s
  have htext : s.text = " a \tb<c >out".toList := by decide
  have hsound : ∀ t ∈ s.tokens, t.Sound := by decide
  have hrun : IsWord "out".toList := sound_word_iff.mp (hsound (.word "out") (by decide))
  have hlast : ∀ c ∈ " a \tb<c >".toList.getLast?, isWordChar c = false := by
    intro c hc
    obtain rfl : '>' = c := by simpa using hc
    decide
  refine ⟨htext, hrun, by simp [EndsWord], ?_, ?_⟩
  · exact ((scan_grammar s.text).1 s.tokens).mpr ⟨hsound, s, rfl, rfl⟩
  · exact (scan_grammar _).2.2 " a \tb<c >".toList "out".toList [] (by decide) hrun hlast
      (by simp [EndsWord])

end Token

end LineShell
