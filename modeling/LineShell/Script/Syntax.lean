import LineShell.Text.Octets

/-!
# Scripts

A script is made of commands, and commands of words.  A word is a row of segments: bytes,
which quotes may protect, and places where something is put in when the command is run.

## Main definitions

* `Segment`, `Word` — words and what they are made of.
* `Redirection` — where a descriptor of a command leads.
* `Command` — commands.
* `isName`, `Word.assignment?` — names of variables, and words that give one a value.
-/

namespace LineShell.Script

/-! ### Words -/

/-- What is done with the value of a parameter. -/
inductive Action where
  /-- It is put in. -/
  | value
  /-- Its length is put in. -/
  | length
  /-- If there is none, a word is put in. -/
  | instead
  /-- If there is none, the parameter gets one. -/
  | assign
  /-- If there is none, that is an error. -/
  | require
  /-- If there is one, a word is put in. -/
  | replace
  /-- A pattern is taken away from its start; the flag asks for the longest match. -/
  | trimStart (longest : Bool)
  /-- A pattern is taken away from its end; the flag asks for the longest match. -/
  | trimEnd (longest : Bool)
  /-- There is no such action. -/
  | unknown
deriving DecidableEq, Repr

/-- What a redirection does. -/
inductive Route where
  /-- A file is read. -/
  | input
  /-- A file is written from its start, which an option may forbid if it exists. -/
  | output
  /-- A file is written from its start, whatever the option says. -/
  | overwrite
  /-- A file is written at its end. -/
  | addition
  /-- A file is read and written. -/
  | update
  /-- The descriptor becomes the same as another one. -/
  | copy
  /-- A document in the script is read; it has a number. -/
  | document (number : Nat)
deriving DecidableEq, Repr

mutual

/-- A part of a word. -/
inductive Segment where
  /-- A byte. -/
  | plain (c : Char)
  /-- A byte that is protected. -/
  | quoted (c : Char)
  /-- A place where there are quotes, so that there is a word even if it is empty. -/
  | mark
  /-- The value of a parameter. The flags tell whether an empty value counts as none, and whether
  the place is within quotes. -/
  | parameter (name : Octets) (action : Action) (emptyIsNone : Bool) (word : List Segment)
      (isQuoted : Bool)
  /-- The output of a command. -/
  | command (command : Option Command) (isQuoted : Bool)
  /-- The value of an arithmetic expression. -/
  | arithmetic (expression : List Segment) (isQuoted : Bool)

/-- Where a descriptor of a command leads. -/
inductive Redirection where
  | mk (descriptor : Nat) (route : Route) (word : List Segment)

/-- A command. Some know the line in which they begin. -/
inductive Command where
  /-- Words, of which the first one names a builtin, a function or a program. -/
  | simple (line : Nat) (assignments words : List (List Segment))
      (redirections : List Redirection)
  /-- Commands whose output the next ones read. -/
  | pipeline (commands : List Command)
  | and (first second : Command)
  | or (first second : Command)
  | sequence (first second : Command)
  | not (command : Command)
  /-- A command that nobody waits for. -/
  | background (line : Nat) (command : Command) (redirections : List Redirection)
  /-- A command that is run by a process of its own. -/
  | subshell (line : Nat) (command : Command) (redirections : List Redirection)
  | redirected (line : Nat) (command : Command) (redirections : List Redirection)
  | conditional (condition : Command) (yes : Command) (no : Option Command)
  /-- A command that is repeated while another one succeeds, or until it does. -/
  | loop (untilHolds : Bool) (condition body : Command)
  | each (line : Nat) (name : Octets) (words : List (List Segment)) (body : Command)
  | choice (line : Nat) (word : List Segment)
      (cases : List (List (List Segment) × Option Command))
  | define (name : Octets) (body : Command)

end

/-- A row of segments. -/
abbrev Word := List Segment

instance : Inhabited Command := ⟨.pipeline []⟩

namespace Redirection

/-- The descriptor. -/
def descriptor : Redirection → Nat
  | .mk descriptor _ _ => descriptor

/-- What is done. -/
def route : Redirection → Route
  | .mk _ route _ => route

/-- The word that names the file or the other descriptor. -/
def word : Redirection → Word
  | .mk _ _ word => word

end Redirection

/-! ### Names -/

/-- Whether a byte may begin a name. -/
def beginsName (c : Char) : Bool := c.isAlpha || c = '_'

/-- Whether a byte may stand in a name. -/
def continuesName (c : Char) : Bool := c.isAlphanum || c = '_'

/-- Whether a string is a name. -/
def isName (text : Octets) : Bool :=
  text.head?.any beginsName && text.all continuesName

/-- The name and the value in a string that gives a variable a value. -/
def assignmentOf? (text : Octets) : Option (Octets × Octets) :=
  let name := text.takeWhile (· ≠ '=')
  if isName name && name.length < text.length then some (name, text.drop (name.length + 1))
  else none

namespace Segment

/-- The byte of a segment that is not protected. -/
def plain? : Segment → Option Char
  | .plain c => some c
  | _ => none

end Segment

namespace Word

/-- A word of bytes that are not protected. -/
def ofOctets (text : Octets) : Word := text.map .plain

/-- A word of bytes that are protected. -/
def ofQuoted (text : Octets) : Word := text.map .quoted

/-- The bytes of a word none of which is protected. -/
def plain? (word : Word) : Option Octets := word.mapM Segment.plain?

/-- The bytes of a word in which nothing is put in when it is used; its quotes are removed. -/
def text (word : Word) : Octets :=
  word.filterMap fun segment =>
    match segment with
    | .plain c | .quoted c => some c
    | _ => none

/-- The name and the value in a word that gives a variable a value. -/
def assignment? (word : Word) : Option (Octets × Word) :=
  let start := word.takeWhile fun segment => segment.plain?.any (· ≠ '=')
  match word.drop start.length with
  | .plain '=' :: value =>
    let name := text start
    if isName name then some (name, value) else none
  | _ => none

end Word

end LineShell.Script
