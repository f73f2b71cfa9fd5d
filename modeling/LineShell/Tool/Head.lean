import LineShell.Tool.Number
import LineShell.Tool.Options

/-!
# head

Writes the first lines or bytes of its inputs, or all but the last ones.  Where an input can
be read again, what was read too much is given back.

## Main definitions

* `Tool.Head.Portion` — how much of an input is written.
* `Tool.Head.kept` — how many bytes are left when the last lines or bytes are cut off.
* `Tool.head` — the tool.
-/

namespace LineShell.Tool

/-- When the names of the inputs are written before them. -/
inductive Headings where
  /-- If there are several inputs. -/
  | several
  | always
  | never
deriving DecidableEq, Repr

/-- Whether names are written before a number of inputs. -/
def Headings.shownFor (h : Headings) (inputs : Nat) : Bool :=
  match h with
  | .several => inputs > 1
  | .always => true
  | .never => false

/-- The heading of an input, with an empty line before it unless it is the first. -/
def heading (isFirst : Bool) (name : Octets) : Octets :=
  (if isFirst then [] else ['\n']) ++ "==> " ++ inputName name ++ " <==\n"

/-- The units of counts. -/
def countUnits : List Char := "bkKmMGTPEZY0".toList

/-- What a count of lines or bytes is called when it is refused. -/
def countName (lines : Bool) : Octets :=
  if lines then "invalid number of lines" else "invalid number of bytes"

/-- Reads a count of lines or bytes. -/
def countOf (lines : Bool) (text : Octets) : Except Refusal Nat :=
  match readCount countUnits text with
  | .ok n => .ok n
  | .error fault => .error { text := fault.describe (countName lines) text }

/-- Why an input cannot be read. -/
def readFailure (name : Octets) (e : Errno) : Octets :=
  "error reading " ++ Octets.shellQuoted (inputName name) ++ ": " ++ e.text

namespace Head

/-- How much of an input is written. -/
structure Portion where
  /-- Whether lines are counted, and not bytes. -/
  lines : Bool := true
  /-- Whether the count is of what is cut off at the end. -/
  fromEnd : Bool := false
  /-- The count. -/
  count : Nat := 10
deriving DecidableEq, Repr

/-- What the options say. -/
structure Settings where
  portion : Portion := {}
  headings : Headings := .several
  separator : Char := '\n'
deriving DecidableEq, Repr

/-- Takes the option for a count into account. -/
def setCount (s : Settings) (lines : Bool) (text : Octets) : Except Refusal Settings :=
  let fromEnd := text.head? = some '-'
  match countOf lines (if fromEnd then text.tail else text) with
  | .error refusal => .error refusal
  | .ok count => .ok { s with portion := { lines, fromEnd, count } }

/-- Takes an option into account. -/
def set (s : Settings) (key : Char) (value : Option Octets) : Except Refusal Settings :=
  match key with
  | 'n' => setCount s true (value.getD [])
  | 'c' => setCount s false (value.getD [])
  | 'q' => .ok { s with headings := .never }
  | 'v' => .ok { s with headings := .always }
  | 'z' => .ok { s with separator := '\x00' }
  | c =>
    if c.isDigit then .error { text := "invalid trailing option -- " ++ [c], advised := true }
    else .ok s

/-- The options. -/
def grammar : Grammar where
  letters := "c:n:qvz0123456789"
  long := [⟨"bytes", .required, 'c'⟩, ⟨"lines", .required, 'n'⟩,
    ⟨"-presume-input-pipe", .none, 'P'⟩, ⟨"quiet", .none, 'q'⟩, ⟨"silent", .none, 'q'⟩,
    ⟨"verbose", .none, 'v'⟩, ⟨"zero-terminated", .none, 'z'⟩]

/-- The letters after a count without an option letter: the settings, and the unit. -/
def setTrailing (s : Settings) (unit : Octets) : Octets → Except Refusal (Settings × Octets)
  | [] => .ok (s, unit)
  | c :: rest =>
    match c with
    | 'c' => setTrailing { s with portion.lines := false } [] rest
    | 'b' | 'k' | 'm' => setTrailing { s with portion.lines := false } [c] rest
    | 'l' => setTrailing { s with portion.lines := true } unit rest
    | 'q' => setTrailing { s with headings := .never } unit rest
    | 'v' => setTrailing { s with headings := .always } unit rest
    | 'z' => setTrailing { s with separator := '\x00' } unit rest
    | _ => .error { text := "invalid trailing option -- " ++ [c], advised := true }

/-- The settings of a first argument that is a count after a hyphen, with the arguments after
it. -/
def startOf (operands : List Octets) : Except Refusal (Settings × List Octets) :=
  match operands with
  | ('-' :: text) :: rest =>
    let digits := text.takeWhile Char.isDigit
    if digits.isEmpty then .ok ({}, operands)
    else do
      let (s, unit) ← setTrailing {} [] (text.drop digits.length)
      let count ← countOf s.portion.lines (digits ++ unit)
      return ({ s with portion.count := count }, rest)
  | _ => .ok ({}, operands)

/-- Writes a number of bytes. -/
def copyBytes (i : Invocation) (descriptor : Nat) : Nat → Nat → Program (Option Errno)
  | 0, _ => pure none
  | calls + 1, left =>
    if left = 0 then pure none
    else do
      match ← Program.call (.read descriptor (min left (2 * Program.blockSize))) with
      | .error e => pure (some e)
      | .ok block =>
        if block.isEmpty then pure none
        else do
          printData i block
          copyBytes i descriptor calls (left - block.size)

/-- The number of bytes in a row of bytes up to the end of the `count`-th line, or else the
number of lines that are then still missing. -/
def lineEnd (separator : Char) (size : Nat) : Nat → List Char → Nat ⊕ Nat
  | 0, _ => .inl size
  | count, [] => .inr count
  | count + 1, c :: rest =>
    if c = separator then
      match count with
      | 0 => .inl (size + 1)
      | count => lineEnd separator (size + 1) count rest
    else lineEnd separator (size + 1) (count + 1) rest

/-- Writes a number of lines. What was read after them is given back. -/
def copyLines (i : Invocation) (separator : Char) (descriptor : Nat) :
    Nat → Nat → Program (Option Errno)
  | 0, _ => pure none
  | calls + 1, left =>
    if left = 0 then pure none
    else do
      match ← Program.call (.read descriptor (2 * Program.blockSize)) with
      | .error e => pure (some e)
      | .ok block =>
        if block.isEmpty then pure none
        else match lineEnd separator 0 left (Octets.ofData block) with
          | .inl size => do
            let _ ← Program.call (.seek descriptor (-(block.size - size : Int)) .here)
            printData i (block.extract 0 size)
            pure none
          | .inr left => do
            printData i block
            copyLines i separator descriptor calls left

/-- The number of bytes up to the last `count` lines of what is given in reverse; the last
line need not be ended. -/
def sizeBefore (separator : Char) : Nat → Octets → Nat
  | _, [] => 0
  | 0, rest => rest.length
  | count + 1, _ :: rest =>
    if rest.head?.any (· == separator) then
      match count with
      | 0 => rest.length
      | count => sizeBefore separator count rest
    else sizeBefore separator (count + 1) rest

/-- How many bytes are left when the last lines or bytes are cut off. -/
def kept (p : Portion) (separator : Char) (data : ByteArray) : Nat :=
  if p.lines then sizeBefore separator p.count (Octets.ofData data).reverse
  else data.size - p.count

/-- Writes all but the end of an input. -/
def copyFront (i : Invocation) (s : Settings) (descriptor : Nat) : Program (Option Errno) := do
  let start ← Program.call (.seek descriptor 0 .here)
  match ← Program.readAll descriptor with
  | .error e => pure (some e)
  | .ok data =>
    let size := kept s.portion s.separator data
    printData i (data.extract 0 size)
    match start with
    | .ok position => do
      let _ ← Program.call (.seek descriptor (position + size : Nat) .start)
      pure none
    | .error _ => pure none

/-- Writes the portion of an input. -/
def copy (i : Invocation) (s : Settings) (descriptor : Nat) : Program (Option Errno) :=
  if s.portion.fromEnd then copyFront i s descriptor
  else if s.portion.lines then
    copyLines i s.separator descriptor Program.forever s.portion.count
  else copyBytes i descriptor Program.forever s.portion.count

/-- Writes the portions of inputs one after the other. -/
def copyAll (i : Invocation) (s : Settings) (headed isFirst well : Bool) :
    List Octets → Program Nat
  | [] => pure (if well then 0 else 1)
  | name :: rest => do
    match ← openOperand name with
    | .error e =>
      complain i (openFailure name e)
      copyAll i s headed isFirst false rest
    | .ok descriptor =>
      if headed then print i (heading isFirst name)
      let failure ← copy i s descriptor
      closeOperand name descriptor
      match failure with
      | none => copyAll i s headed false well rest
      | some e =>
        complain i (readFailure name e)
        copyAll i s headed false false rest

end Head

/-- Writes the beginning of its inputs. -/
def head (i : Invocation) : Program Nat :=
  match Head.startOf i.operands with
  | .error refusal => refusal.raise i
  | .ok (start, arguments) =>
    withSettings Head.grammar i arguments start Head.set fun s operands =>
      let names := orStandard operands
      let shows := s.headings.shownFor names.length
      Head.copyAll i s shows true true names >>= closeInput i names dash

end LineShell.Tool
