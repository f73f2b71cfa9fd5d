import LineShell.Regex.Pattern
import LineShell.Tool.Block
import LineShell.Tool.Options

/-!
# tac

Writes the records of its inputs in reverse order.  A record is a line, or what ends or begins
with another separator.

## Main definitions

* `Tool.Tac.records` — the records of a text, the last one first.
* `Tool.Tac.recordsBy` — the records where the separator is a regular expression.
* `Tool.tac` — the tool.
-/

namespace LineShell.Tool

namespace Tac

/-- What separates records. -/
inductive Separator where
  | text (text : Octets)
  | expression (regex : Regex)
deriving DecidableEq, Repr

/-- The records of a text, the last one first. The text is given in reverse, as far as it has
not been read; `held` is the record after that, of which the separator is a part unless
`before` holds. At the end of the text nothing may follow the separator. -/
def records (separator : Octets) (before atEnd : Bool) (held : Octets) :
    Nat → Octets → List Octets
  | 0, _ => [held]
  | _, [] => [held]
  | fuel + 1, c :: rest =>
    if separator.reverse.isPrefixOf (c :: rest) then
      let rest := (c :: rest).drop separator.length
      if before then (separator ++ held) :: records separator before false [] fuel rest
      else
        let later := records separator before false separator fuel rest
        if atEnd && held.isEmpty then later else held :: later
    else records separator before atEnd (c :: held) fuel rest

/-- The last place before a given one at which an expression matches, with the end of the
longest match there. -/
def lastMatch? (r : Regex) (text : Octets) : Nat → Option (Nat × Nat)
  | 0 => none
  | place + 1 =>
    let cursor : Regex.Cursor := {
      previous := if place = 0 then none else text[place - 1]?
      rest := text.drop place
      position := place }
    match r.matchAt? (fun _ => true) cursor with
    | some finish => some (place, finish.position)
    | none => lastMatch? r text place

/-- The records of a text before a place, the last one first; `finish` is where the record
ends that is being read. -/
def recordsBy (r : Regex) (before atEnd : Bool) (text : Octets) (finish : Nat) :
    Nat → Nat → List Octets
  | 0, _ => []
  | fuel + 1, place =>
    let part (start : Nat) : Octets := (text.take finish).drop start
    match lastMatch? r (text.take place) place with
    | none => [part 0]
    | some (start, last) =>
      if before then part start :: recordsBy r before false text start fuel start
      else
        let later := recordsBy r before false text last fuel start
        if atEnd && last = finish then later else part last :: later

/-- The records of a text, the last one first. -/
def Separator.records (s : Separator) (before : Bool) (text : Octets) : List Octets :=
  match s with
  | .text separator => Tac.records separator before true [] text.length text.reverse
  | .expression r => recordsBy r before true text text.length (text.length + 1) text.length

/-- Why an input cannot be read: the end of a directory is beyond all that can be read. -/
def readFault (e : Errno) : Octets := if e = .EISDIR then Errno.EINVAL.text else e.text

/-- How much of a file is read at once, from its end on. -/
def blockSize : Nat := 2 * Program.blockSize

/-- All that is in a file, from its very beginning if one can go there. What is read last is the
first block. -/
def contents (descriptor : Nat) : Program (Except Errno ByteArray) := do
  match ← Program.call (.seek descriptor 0 .finish) with
  | .error _ => Program.readAll descriptor
  | .ok size =>
    let _ ← Program.call (.seek descriptor 0 .start)
    let data ← Program.readAll descriptor
    if size > blockSize then
      let _ ← Program.call (.seek descriptor blockSize .start)
    pure data

/-- Writes the records of an operand in reverse order. -/
def operand (i : Invocation) (separator : Separator) (before : Bool) (name : Octets) :
    Program Bool := do
  match ← openOperand name with
  | .error e =>
    complain i ("failed to open " ++ Octets.shellQuoted name ++ " for reading: " ++ e.text)
    pure false
  | .ok descriptor =>
    let data ← contents descriptor
    closeOperand name descriptor
    match data with
    | .error e =>
      complain i (Octets.fileName (inputName name) ++ ": read error: " ++ readFault e)
      pure false
    | .ok data =>
      print i (separator.records before (Octets.ofData data)).flatten
      pure true

/-- The separator that is asked for. -/
def separatorOf (isExpression : Bool) (text : Octets) : Except Octets Separator :=
  if !isExpression then .ok (.text (if text.isEmpty then ['\x00'] else text))
  else if text.isEmpty then .error "separator cannot be empty"
  else match Regex.read { loose := true } text with
    | .ok r => .ok (.expression r)
    | .error fault => .error fault.text

/-- The options. -/
def grammar : Grammar where
  letters := "brs:"
  long := [⟨"before", .none, 'b'⟩, ⟨"regex", .none, 'r'⟩, ⟨"separator", .required, 's'⟩]

/-- How the output is dealt with: it is collected apart from messages. -/
def outputRules (o : Output) : Output := { o with isOrdered := false }

end Tac

/-- Writes lines in reverse order. -/
def tac (i : Invocation) : Program Nat :=
  withOptions Tac.grammar i i.operands fun p => do
    match Tac.separatorOf (p.has 'r') ((p.value? 's').getD ['\n']) with
    | .error text => fail i text
    | .ok separator =>
      let names := orStandard p.operands
      forAll (Tac.operand i separator (p.has 'b')) names >>= closeInput i names dash

end LineShell.Tool
