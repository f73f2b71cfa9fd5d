import LineShell.Tool.Options

/-!
# cat

Writes its inputs one after the other, on request with numbers before the lines and with
signs for what cannot be seen.

## Main definitions

* `Tool.Cat.Style` — how lines are shown.
* `Tool.Cat.render` — shows a block of bytes.
* `Tool.cat` — the tool.
-/

namespace LineShell.Tool

namespace Cat

/-- How lines are shown. -/
structure Style where
  /-- All lines have numbers. -/
  numbers : Bool := false
  /-- Lines that are not empty have numbers. -/
  numbersFilled : Bool := false
  /-- Of several empty lines only one is shown. -/
  squeezes : Bool := false
  /-- Bytes without a shape are shown by signs. -/
  signs : Bool := false
  /-- Tabs are shown by signs. -/
  tabs : Bool := false
  /-- The ends of lines are shown. -/
  ends : Bool := false
deriving DecidableEq, Repr

/-- The style of some options. -/
def Style.ofOptions (p : Parsed) : Style where
  numbers := p.has 'n'
  numbersFilled := p.has 'b'
  squeezes := p.has 's'
  signs := ['v', 'e', 't', 'A'].any p.has
  tabs := ['T', 't', 'A'].any p.has
  ends := ['E', 'e', 'A'].any p.has

/-- Whether the bytes are shown as they are. -/
def Style.isPlain (s : Style) : Bool := s = {}

/-- How far the output has come. -/
structure State where
  /-- The number of the last line that has one. -/
  number : Nat := 0
  /-- How many line ends were shown in a row; at the beginning it counts as one. -/
  breaks : Nat := 1
  /-- Whether a carriage return is held back until it is clear what follows. -/
  returned : Bool := false
deriving DecidableEq, Repr

/-- The signs for a byte without a shape. -/
def sign (c : Char) : Octets :=
  let n := c.toNat
  if n < 32 then ['^', Char.ofNat (n + 64)]
  else if n < 127 then [c]
  else if n = 127 then ['^', '?']
  else if n < 160 then ['M', '-', '^', Char.ofNat (n - 64)]
  else if n < 255 then ['M', '-', Char.ofNat (n - 128)]
  else ['M', '-', '^', '?']

/-- How a byte within a line is shown. -/
def glyph (style : Style) (c : Char) : Octets :=
  if c = '\t' then if style.tabs then ['^', 'I'] else ['\t']
  else if style.signs then sign c
  else [c]

/-- The number before a line. -/
def label (n : Nat) : Octets := Octets.padLeft 6 (Octets.ofNat n) ++ ['\t']

/-- Shows a block of bytes. What was shown so far is given in reverse. -/
def render (style : Style) (s : State) (shown : Octets) : Octets → State × Octets
  | [] => (s, shown)
  | c :: rest =>
    let held : Octets := if s.returned then (if c = '\n' then ['M', '^'] else ['\r']) else []
    if c = '\n' then
      let breaks := s.breaks + 1
      if style.squeezes && breaks > 2 then
        render style { s with breaks, returned := false } shown rest
      else
        let numbered := s.breaks ≥ 1 && style.numbers && !style.numbersFilled
        let number := if numbered then s.number + 1 else s.number
        let shown := held ++ shown
        let shown := if numbered then (label number).reverse ++ shown else shown
        let shown := if style.ends then '$' :: shown else shown
        render style { number, breaks, returned := false } ('\n' :: shown) rest
    else
      let numbered := s.breaks ≥ 1 && (style.numbers || style.numbersFilled)
      let number := if numbered then s.number + 1 else s.number
      let shown := held ++ shown
      let shown := if numbered then (label number).reverse ++ shown else shown
      if c = '\r' && style.ends && !style.signs then
        render style { number, breaks := 0, returned := true } shown rest
      else
        render style { number, breaks := 0, returned := false }
          ((glyph style c).reverse ++ shown) rest

/-- Copies a descriptor to the standard output. The result is the state after it, and why
reading failed if it did. -/
def copy (i : Invocation) (style : Style) (descriptor : Nat) (s : State) :
    Program (State × Option Errno) :=
  Program.foldBlocks descriptor (32 * Program.blockSize)
    (fun s block => do
      if style.isPlain then
        printData i block
        pure s
      else
        let (s, shown) := render style s [] (Octets.ofData block)
        print i shown.reverse
        pure s) Program.forever s

/-- Whether an input is the file that the output goes to, with something in it that has not
been read. -/
def isOwnOutput (output : FileStatus) (descriptor : Nat) : Program Bool := do
  match ← Program.call (.statusOpen descriptor) with
  | .ok input =>
    if input.kind = .regular && input.node.isSome && input.node = output.node then
      match ← Program.call (.seek descriptor 0 .here) with
      | .ok position => pure (position < input.size)
      | .error _ => pure false
    else pure false
  | .error _ => pure false

/-- Copies operands one after the other; the flag tells whether all went well so far. -/
def copyAll (i : Invocation) (style : Style) (output : FileStatus) (well : Bool) (s : State) :
    List Octets → Program (Bool × State)
  | [] => pure (well, s)
  | name :: rest => do
    match ← openOperand name with
    | .error e =>
      complain i (Octets.fileName name ++ ": " ++ e.text)
      copyAll i style output false s rest
    | .ok descriptor =>
      if ← isOwnOutput output descriptor then
        complain i (Octets.fileName name ++ ": input file is output file")
        closeOperand name descriptor
        copyAll i style output false s rest
      else
        let (s, failure) ← copy i style descriptor s
        closeOperand name descriptor
        match failure with
        | none => copyAll i style output well s rest
        | some e =>
          complain i (Octets.fileName name ++ ": " ++ e.text)
          copyAll i style output false s rest

/-- The options. -/
def grammar : Grammar where
  letters := "benstuvAET"
  long := [⟨"number-nonblank", .none, 'b'⟩, ⟨"number", .none, 'n'⟩,
    ⟨"squeeze-blank", .none, 's'⟩, ⟨"show-nonprinting", .none, 'v'⟩,
    ⟨"show-ends", .none, 'E'⟩, ⟨"show-tabs", .none, 'T'⟩, ⟨"show-all", .none, 'A'⟩]

end Cat

/-- Writes its inputs one after the other. -/
def cat (i : Invocation) : Program Nat :=
  withOptions Cat.grammar i i.operands fun p => do
    match ← Program.call (.statusOpen Program.standardOutput) with
    | .error e => fail i ("standard output: " ++ e.text)
    | .ok output =>
      let names := orStandard p.operands
      let (well, s) ← Cat.copyAll i (.ofOptions p) output true {} names
      if s.returned then print i ['\r']
      closeInput i names "closing standard input" (if well then 0 else 1)

end LineShell.Tool
