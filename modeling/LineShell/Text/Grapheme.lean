import LineShell.Text.GraphemeBreak

/-!
# Graphemes

A text is cut into graphemes, the pieces that a reader takes for single characters.
Between two neighbours there is a cut unless a rule joins them; some rules look further
back than to the one before, so what they need of it is kept in a `Trace`.

## Main definitions

* `Trace` — what the rules need to know of the characters before a place.
* `Trace.joins` — whether a character belongs to the grapheme before it.
* `graphemes` — the graphemes of a text.
-/

namespace LineShell

/-- How far a sequence of joined emoji has come. -/
inductive EmojiTrace where
  /-- There is none. -/
  | none
  /-- A pictograph, maybe with marks. -/
  | pictograph
  /-- A joiner after them: another pictograph belongs to it. -/
  | joined
deriving DecidableEq, Repr

/-- How far a conjunct of consonants has come. -/
inductive ConjunctTrace where
  /-- There is none. -/
  | none
  /-- A consonant, maybe with marks. -/
  | consonant
  /-- A linker among the marks: another consonant belongs to it. -/
  | linked
deriving DecidableEq, Repr

/-- What the rules need to know of the characters before a place. -/
structure Trace where
  /-- The class of the character before it. -/
  last : GraphemeBreak
  /-- The emoji sequence that ends there. -/
  emoji : EmojiTrace := .none
  /-- The conjunct that ends there. -/
  conjunct : ConjunctTrace := .none
  /-- Whether half a flag stands alone there. -/
  halfFlag : Bool := false
deriving DecidableEq, Repr

namespace Trace

/-- The emoji sequence after one more character. -/
def nextEmoji (t : Trace) (c : Char) : EmojiTrace :=
  if isPictograph c then .pictograph
  else match t.emoji, GraphemeBreak.ofChar c with
    | .pictograph, .extend => .pictograph
    | .pictograph, .joiner => .joined
    | _, _ => .none

/-- The conjunct after one more character. -/
def nextConjunct (t : Trace) (c : Char) : ConjunctTrace :=
  match t.conjunct, Conjunct.ofChar c with
  | _, .consonant => .consonant
  | .none, _ | _, .none => .none
  | _, .linker => .linked
  | trace, .extend => trace

/-- What is known after one more character. -/
def next (t : Trace) (c : Char) : Trace where
  last := .ofChar c
  emoji := t.nextEmoji c
  conjunct := t.nextConjunct c
  halfFlag := GraphemeBreak.ofChar c = .regional && !t.halfFlag

/-- What is known at the beginning of a text. -/
def start : Trace := { last := .control }

/-- Whether a character belongs to the grapheme before it. -/
def joins (t : Trace) (c : Char) : Bool :=
  match t.last, GraphemeBreak.ofChar c with
  | .carriageReturn, .lineFeed => true
  | .carriageReturn, _ | .lineFeed, _ | .control, _ => false
  | _, .carriageReturn | _, .lineFeed | _, .control => false
  | _, .extend | _, .joiner | _, .spacing => true
  | .prepend, _ => true
  | .leading, .leading | .leading, .vowel => true
  | .leading, .openSyllable | .leading, .closedSyllable => true
  | .openSyllable, .vowel | .openSyllable, .trailing => true
  | .vowel, .vowel | .vowel, .trailing => true
  | .closedSyllable, .trailing | .trailing, .trailing => true
  | .regional, .regional => t.halfFlag
  | _, _ =>
    (t.conjunct = .linked && Conjunct.ofChar c = .consonant) ||
      (t.emoji = .joined && isPictograph c)

end Trace

/-- The graphemes of the text that follows the unfinished grapheme `held`, which is given
last character first. -/
def graphemesFrom (t : Trace) (held : List Char) : List Char → List (List Char)
  | [] => if held.isEmpty then [] else [held.reverse]
  | c :: rest =>
    if held.isEmpty || t.joins c then graphemesFrom (t.next c) (c :: held) rest
    else held.reverse :: graphemesFrom (t.next c) [c] rest

/-- The graphemes of a text. -/
def graphemes (text : List Char) : List (List Char) := graphemesFrom .start [] text

end LineShell
