import LineShell.Token

/-!
# Stages

A stage is one command of a pipeline: its argument words and the files its
standard streams are redirected to.  Reading a stage never fails.  Words after
the first operator that are no target are left out, and so is an operator that
gets no target; each is recorded as a `Note`.

## Main definitions

* `Stage` — the arguments and the two redirections.
* `Note` — what was left out of a stage.
* `Reading` — a stage together with its notes.
* `Reading.ofTokens`, `Reading.ofText` — the reading of one stage.
-/

namespace LineShell

/-- One command of a pipeline. -/
structure Stage where
  /-- The program's name followed by its arguments; empty if no command is given. -/
  arguments : List String := []
  /-- The file that the standard input is taken from. -/
  inputFile : Option String := none
  /-- The file that the standard output goes to. -/
  outputFile : Option String := none
deriving DecidableEq, Repr

namespace Stage

/-- The name of the program, if there is one. -/
def program? (s : Stage) : Option String := s.arguments.head?

/-- The arguments after the program's name. -/
def operands (s : Stage) : List String := s.arguments.tail

/-- A word of the stage was read before its other arguments. -/
def withArgument (word : String) (s : Stage) : Stage :=
  { s with arguments := word :: s.arguments }

/-- A target was read before the rest of the stage, where a later target of the
same direction takes its place. -/
def withTarget (direction : Direction) (path : String) (s : Stage) : Stage :=
  match direction with
  | .input => { s with inputFile := s.inputFile.or (some path) }
  | .output => { s with outputFile := s.outputFile.or (some path) }

end Stage

/-- Something that was read and is no part of the stage. -/
inductive Note where
  /-- A word after the first operator that is not the target of one. -/
  | ignored (word : String)
  /-- The stage ended before the last operator got its target. -/
  | dangling (direction : Direction)
deriving DecidableEq, Repr

/-- A stage and what was left out of it, in the order in which it was read. -/
structure Reading where
  /-- The stage that was read. -/
  stage : Stage := {}
  /-- What was left out. -/
  notes : List Note := []
deriving DecidableEq, Repr

namespace Reading

/-- Where in a stage the next token stands. -/
inductive Place where
  /-- Before the first operator: a word is an argument. -/
  | leading
  /-- After an operator: a word is its target. -/
  | awaiting (direction : Direction)
  /-- After a target or an ignored word: a word is ignored. -/
  | trailing
deriving DecidableEq, Repr

/-- Reads the tokens of a stage from a place in it. An operator takes the place
of one that is still waiting for its target. -/
def ofTokensAt : Place → List Token → Reading
  | .awaiting d, [] => { notes := [.dangling d] }
  | _, [] => {}
  | _, .operator d :: rest => ofTokensAt (.awaiting d) rest
  | .leading, .word w :: rest =>
    let r := ofTokensAt .leading rest
    { r with stage := r.stage.withArgument w }
  | .awaiting d, .word w :: rest =>
    let r := ofTokensAt .trailing rest
    { r with stage := r.stage.withTarget d w }
  | .trailing, .word w :: rest =>
    let r := ofTokensAt .trailing rest
    { r with notes := .ignored w :: r.notes }

/-- The stage that a list of tokens describes. -/
def ofTokens (tokens : List Token) : Reading := ofTokensAt .leading tokens

/-- The stage that a text describes. -/
def ofText (text : List Char) : Reading := ofTokens (Token.scan text)

end Reading

end LineShell
