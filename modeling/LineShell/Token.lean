import LineShell.Text.Space

/-!
# Tokens

The text of one stage is a sequence of words and redirection operators.  An
operator ends the word before it without any blank in between; everything that
is neither a blank nor an operator belongs to a word.

## Main definitions

* `Direction` — the two redirections, written `<` and `>`.
* `Token` — a word or a redirection operator.
* `Token.scan` — the tokens of a text.
* `countWords` — the number of words before the first operator, found without
  building a token.
-/

namespace LineShell

/-- Which way a redirection goes. -/
inductive Direction where
  /-- `<`: the standard input comes from a file. -/
  | input
  /-- `>`: the standard output goes to a file. -/
  | output
deriving DecidableEq, Repr

/-- The direction that an operator character stands for. -/
def Direction.ofChar? (c : Char) : Option Direction :=
  if c = '<' then some .input else if c = '>' then some .output else none

/-- The character of the operator. -/
def Direction.char : Direction → Char
  | .input => '<'
  | .output => '>'

/-- Each direction is read back from its own character. -/
@[simp] theorem Direction.ofChar?_char (d : Direction) : ofChar? d.char = some d := by
  cases d <;> rfl

/-- One token of a stage. -/
inductive Token where
  /-- A maximal run of characters that are neither blanks nor operators. -/
  | word (text : String)
  /-- A redirection operator. -/
  | operator (direction : Direction)
deriving DecidableEq, Repr

namespace Token

/-- The token of a finished word, whose characters were collected last first.
A word of no characters is no token. -/
def ofReversed : List Char → List Token
  | [] => []
  | held => [.word (String.ofList held.reverse)]

@[simp] theorem ofReversed_nil : ofReversed [] = [] := rfl

/-- The tokens of a text that continues a word, whose characters so far are
`held`, last first. -/
def scanFrom (held : List Char) : List Char → List Token
  | [] => ofReversed held
  | c :: rest =>
    if isBlank c then ofReversed held ++ scanFrom [] rest
    else match Direction.ofChar? c with
      | some d => ofReversed held ++ .operator d :: scanFrom [] rest
      | none => scanFrom (c :: held) rest

/-- The tokens of the text of one stage. -/
def scan (text : List Char) : List Token := scanFrom [] text

@[simp] theorem scan_nil : scan [] = [] := rfl

end Token

/-- The number of words before the first operator in a text; `inWord` says that
the text continues a word. -/
def countWordsFrom (inWord : Bool) : List Char → Nat
  | [] => inWord.toNat
  | c :: rest =>
    if (Direction.ofChar? c).isSome then inWord.toNat
    else if isBlank c then inWord.toNat + countWordsFrom false rest
    else countWordsFrom true rest

/-- The number of words before the first operator in the text of one stage. -/
def countWords (text : List Char) : Nat := countWordsFrom false text

end LineShell
