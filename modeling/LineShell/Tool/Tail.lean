import LineShell.Tool.Head

/-!
# tail

Writes the last lines or bytes of its inputs, or all from some line or byte on.

## Main definitions

* `Tool.Tail.Settings` — how much of an input is written.
* `Tool.Tail.plainForm?` — the form of a call whose first argument is a bare count.
* `Tool.tail` — the tool.
-/

namespace LineShell.Tool

namespace Tail

/-- How much of an input is written. -/
structure Settings where
  /-- Whether lines are counted, and not bytes. -/
  lines : Bool := true
  /-- Whether the count says where the output starts. -/
  fromStart : Bool := false
  /-- The count. -/
  count : Nat := 10
  headings : Headings := .several
  separator : Char := '\n'
deriving DecidableEq, Repr

/-- Takes the option for a count into account. -/
def setCount (s : Settings) (lines : Bool) (text : Octets) : Except Refusal Settings :=
  let text' := if text.head? = some '-' then text.tail else text
  match countOf lines text' with
  | .error refusal => .error refusal
  | .ok count =>
    .ok { s with lines, count, fromStart := s.fromStart || text.head? = some '+' }

/-- Takes an option into account. -/
def set (s : Settings) (key : Char) (value : Option Octets) : Except Refusal Settings :=
  match key with
  | 'n' => setCount s true (value.getD [])
  | 'c' => setCount s false (value.getD [])
  | 'q' => .ok { s with headings := .never }
  | 'v' => .ok { s with headings := .always }
  | 'z' => .ok { s with separator := '\x00' }
  | c =>
    if c.isDigit then .error { text := "option used in invalid context -- " ++ [c] } else .ok s

/-- The options. -/
def grammar : Grammar where
  letters := "c:n:fFqs:vz0123456789"
  long := [⟨"bytes", .required, 'c'⟩, ⟨"follow", .optional, 'f'⟩, ⟨"lines", .required, 'n'⟩,
    ⟨"max-unchanged-stats", .required, 'M'⟩, ⟨"pid", .required, 'p'⟩,
    ⟨"-presume-input-pipe", .none, 'P'⟩, ⟨"quiet", .none, 'q'⟩, ⟨"retry", .none, 'R'⟩,
    ⟨"silent", .none, 'q'⟩, ⟨"sleep-interval", .required, 's'⟩, ⟨"verbose", .none, 'v'⟩,
    ⟨"zero-terminated", .none, 'z'⟩]

/-- Whether arguments after a bare count leave no doubt that it is one. -/
def allowsPlainForm (rest : List Octets) : Bool :=
  match rest with
  | [] => true
  | [operand] => !(operand.head? = some '-' && operand.length > 1) || operand = ['-', '-']
  | [separator, _] => separator = ['-', '-']
  | _ => false

/-- The settings of a first argument that is a bare count: digits, and letters for the unit.
There is no answer if it is none. -/
def plainForm? (argument : Octets) (rest : List Octets) :
    Option (Except Refusal Settings) :=
  match argument with
  | [] => none
  | sign :: text =>
    let digits := text.takeWhile Char.isDigit
    let after := text.drop digits.length
    let (factor, lines, after) : Nat × Bool × Octets :=
      match after with
      | 'b' :: after => (512, false, after)
      | 'c' :: after => (1, false, after)
      | 'l' :: after => (1, true, after)
      | _ => (1, true, after)
    let after := if after.head? = some 'f' then after.tail else after
    if !allowsPlainForm rest || !after.isEmpty then none
    else if sign ≠ '+' && (sign ≠ '-' || text.isEmpty || text = ['c']) then none
    else
      let s : Settings := { lines, fromStart := sign = '+' }
      if digits.isEmpty then some (.ok { s with count := 10 * factor })
      else
        let number := Octets.digitsValue digits
        let count := number * if (text.drop digits.length).head? = some 'b' then 512 else 1
        let refuse (reason : Octets) : Option (Except Refusal Settings) :=
          some (.error { text := "invalid number: " ++ Octets.quoted argument ++ reason })
        if number > largestCount then refuse (": " ++ Errno.ERANGE.text)
        else if count > largestCount then refuse []
        else some (.ok { s with count })

/-- The settings at the start, with the arguments that are left. -/
def startOf (operands : List Octets) : Except Refusal (Settings × List Octets) :=
  match operands with
  | [] => .ok ({}, [])
  | argument :: rest =>
    match plainForm? argument rest with
    | none => .ok ({}, operands)
    | some (.error refusal) => .error refusal
    | some (.ok s) => .ok (s, rest)

/-- The number of bytes before the last lines or bytes. -/
def skipped (s : Settings) (data : ByteArray) : Nat :=
  if s.lines then Head.sizeBefore s.separator s.count (Octets.ofData data).reverse
  else data.size - s.count

/-- Passes bytes on to the end of an input. -/
def copyRest (i : Invocation) (descriptor : Nat) : Program (Option Errno) := do
  let ((), failure) ← Program.foldBlocks descriptor (2 * Program.blockSize)
    (fun () block => printData i block) Program.forever ()
  pure failure

/-- Passes over bytes. The value is false at the end of the input. -/
def skipBytes (descriptor : Nat) : Nat → Nat → Program (Except Errno Bool)
  | 0, _ => pure (.ok false)
  | calls + 1, left =>
    if left = 0 then pure (.ok true)
    else do
      match ← Program.call (.read descriptor (min left (2 * Program.blockSize))) with
      | .error e => pure (.error e)
      | .ok block =>
        if block.isEmpty then pure (.ok false) else skipBytes descriptor calls (left - block.size)

/-- Passes over lines, and writes what was read after them. -/
def skipLines (i : Invocation) (separator : Char) (descriptor : Nat) :
    Nat → Nat → Program (Except Errno Bool)
  | 0, _ => pure (.ok false)
  | calls + 1, left =>
    if left = 0 then pure (.ok true)
    else do
      match ← Program.call (.read descriptor (2 * Program.blockSize)) with
      | .error e => pure (.error e)
      | .ok block =>
        if block.isEmpty then pure (.ok false)
        else match Head.lineEnd separator 0 left (Octets.ofData block) with
          | .inl size => do
            printData i (block.extract size block.size)
            pure (.ok true)
          | .inr left => skipLines i separator descriptor calls left

/-- Whether a failure to read is the end of the whole call: where bytes are counted, the start
is sought and not read, and the rest is passed on or not at all. -/
def endsAt (s : Settings) : Bool := !s.lines

/-- Writes the part of an input that is wanted. -/
def copy (i : Invocation) (s : Settings) (descriptor : Nat) : Program (Option Errno) := do
  if s.fromStart then
    let skipped ← if s.lines then
        skipLines i s.separator descriptor Program.forever (s.count - 1)
      else skipBytes descriptor Program.forever (s.count - 1)
    match skipped with
    | .error e => pure (some e)
    | .ok false => pure none
    | .ok true => copyRest i descriptor
  else
    match ← Program.readAll descriptor with
    | .error e => pure (some e)
    | .ok data => do
      printData i (data.extract (skipped s data) data.size)
      pure none

/-- Writes the parts of inputs one after the other. -/
def copyAll (i : Invocation) (s : Settings) (headed isFirst well : Bool) :
    List Octets → Program Nat
  | [] => pure (if well then 0 else 1)
  | name :: rest => do
    match ← openOperand name with
    | .error e =>
      complain i (openFailure name e)
      copyAll i s headed isFirst false rest
    | .ok descriptor =>
      if headed then print i (heading isFirst name)
      match ← Program.call (.statusOpen descriptor) with
      | .error e =>
        complain i ("cannot fstat " ++ Octets.shellQuoted (inputName name) ++ ": " ++ e.text)
        copyAll i s headed false false rest
      | .ok _ =>
        let failure ← copy i s descriptor
        closeOperand name descriptor
        match failure with
        | none => copyAll i s headed false well rest
        | some e =>
          complain i (readFailure name e)
          if endsAt s then Program.exit 1 else copyAll i s headed false false rest

end Tail

/-- Writes the end of its inputs. -/
def tail (i : Invocation) : Program Nat :=
  match Tail.startOf i.operands with
  | .error refusal => refusal.raise i
  | .ok (start, arguments) =>
    withSettings Tail.grammar i arguments start Tail.set fun s operands =>
      let names := orStandard operands
      if s.count = 0 && !s.fromStart then pure 0
      else
        Tail.copyAll i s (s.headings.shownFor names.length) true true names >>=
          closeInput i names dash

end LineShell.Tool
