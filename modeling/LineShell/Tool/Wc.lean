import LineShell.Tool.Options

/-!
# wc

Counts the lines, words and bytes of its inputs.

## Main definitions

* `Tool.Wc.Counts` — what was counted.
* `Tool.Wc.State` — counts byte by byte.
* `Tool.Wc.width` — the width of the columns, from the sizes of the inputs.
* `Tool.wc` — the tool.
-/

namespace LineShell.Tool

namespace Wc

/-- What was counted. -/
structure Counts where
  lines : Nat := 0
  words : Nat := 0
  bytes : Nat := 0
  /-- The width of the widest line. -/
  longest : Nat := 0
deriving DecidableEq, Repr

/-- What is shown. -/
structure Columns where
  lines : Bool := false
  words : Bool := false
  characters : Bool := false
  bytes : Bool := false
  longest : Bool := false
deriving DecidableEq, Repr

namespace Columns

/-- The columns of some options; lines, words and bytes if there are none. -/
def ofOptions (p : Parsed) : Columns :=
  if ['l', 'w', 'm', 'c', 'L'].any p.has then
    { lines := p.has 'l'
      words := p.has 'w'
      characters := p.has 'm'
      bytes := p.has 'c'
      longest := p.has 'L' }
  else { lines := true, words := true, bytes := true }

/-- The columns that are shown, in order. -/
def shown (c : Columns) : List Bool := [c.lines, c.words, c.characters, c.bytes, c.longest]

/-- Whether the size of an input is all that is asked for. -/
def isSize (c : Columns) : Bool := !(c.lines || c.words || c.longest)

end Columns

/-- How far counting has come. -/
structure State where
  counts : Counts := {}
  /-- Whether a word has begun. -/
  inWord : Bool := false
  /-- The width of the line so far. -/
  column : Nat := 0

/-- Counts one byte. Only what has a shape makes a word. -/
def State.step (s : State) (c : Char) : State :=
  let bytes := s.counts.bytes + 1
  let ended := if s.inWord then s.counts.words + 1 else s.counts.words
  match c with
  | '\n' =>
    { counts := ⟨s.counts.lines + 1, ended, bytes, max s.counts.longest s.column⟩
      inWord := false
      column := 0 }
  | '\r' | '\x0c' =>
    { counts := ⟨s.counts.lines, ended, bytes, max s.counts.longest s.column⟩
      inWord := false
      column := 0 }
  | '\t' =>
    { counts := { s.counts with words := ended, bytes }
      inWord := false
      column := s.column + (8 - s.column % 8) }
  | ' ' =>
    { counts := { s.counts with words := ended, bytes }
      inWord := false
      column := s.column + 1 }
  | '\x0b' => { s with counts := { s.counts with words := ended, bytes }, inWord := false }
  | c =>
    if Octets.isPrintable c then
      { counts := { s.counts with bytes }, inWord := true, column := s.column + 1 }
    else { s with counts := { s.counts with bytes } }

/-- What was counted at the end. -/
def State.finish (s : State) : Counts :=
  { s.counts with
    words := if s.inWord then s.counts.words + 1 else s.counts.words
    longest := max s.counts.longest s.column }

/-- The sum of what was counted in two inputs. -/
def Counts.add (a b : Counts) : Counts :=
  ⟨a.lines + b.lines, a.words + b.words, a.bytes + b.bytes, max a.longest b.longest⟩

/-- The numbers that are shown. -/
def Counts.shown (c : Counts) (columns : Columns) : List Nat :=
  ((columns.shown.zip [c.lines, c.words, c.bytes, c.bytes, c.longest]).filter (·.1)).map (·.2)

/-- A line of the output. -/
def line (width : Nat) (columns : Columns) (name : Option Octets) (c : Counts) : Octets :=
  let numbers := (c.shown columns).map fun n => Octets.padLeft width (Octets.ofNat n)
  let name := match name with
    | none => []
    | some name => ' ' :: if name.contains '\n' then Octets.fileName name else name
  Octets.join [' '] numbers ++ name ++ ['\n']

/-- The width of the columns, from what is known about the inputs. -/
def width (inputs : List (Option FileStatus)) : Nat :=
  let known := inputs.filterMap id
  let total := ((known.filter (·.kind = .regular)).map (·.size)).sum
  max (Octets.ofNat total).length (if known.any (·.kind ≠ .regular) then 7 else 1)

/-- What is known about an input; the standard input has no name or a hyphen for it. -/
def statusOf (name : Option Octets) : Program (Option FileStatus) := do
  match name with
  | none => pure (← Program.call (.statusOpen Program.standardInput)).toOption
  | some name =>
    if name = dash then pure (← Program.call (.statusOpen Program.standardInput)).toOption
    else pure (← Program.call (.status name true)).toOption

/-- What is known about several inputs. -/
def statusesOf : List (Option Octets) → Program (List (Option FileStatus))
  | [] => pure []
  | name :: rest => do
    let status ← statusOf name
    let statuses ← statusesOf rest
    pure (status :: statuses)

/-- The size of a page of memory. A size that is no multiple of it is trusted. -/
def pageSize : Nat := 4096

/-- How many bytes are left at a descriptor, as far as its size tells: the number, and whether
the rest still has to be read. -/
def sizeAhead (descriptor : Nat) : Program (Nat × Bool) := do
  match ← Program.call (.statusOpen descriptor) with
  | .error _ => pure (0, true)
  | .ok status =>
    if status.kind ≠ .regular then pure (0, true)
    else match ← Program.call (.seek descriptor 0 .here) with
      | .error _ => pure (0, true)
      | .ok position =>
        if status.size % pageSize ≠ 0 then pure (status.size - position, false)
        else
          let near := status.size - status.size % (pageSize + 1)
          if position < near then
            let _ ← Program.call (.seek descriptor near .here)
            pure (near - position, true)
          else pure (0, true)

/-- Counts what an input holds. The second value is why it could not be read to its end. -/
def countInput (columns : Columns) (descriptor : Nat) : Program (Counts × Option Errno) := do
  if columns.isSize then
    let (size, more) ← sizeAhead descriptor
    if !more then pure ({ bytes := size }, none)
    else
      let (size, failure) ← Program.foldBlocks descriptor (4 * Program.blockSize)
        (fun size block => pure (size + block.size)) Program.forever size
      pure ({ bytes := size }, failure)
  else
    let (s, failure) ← Program.foldBlocks descriptor (4 * Program.blockSize)
      (fun s block => pure ((Octets.ofData block).foldl State.step s)) Program.forever
      ({} : State)
    pure (s.finish, failure)

/-- Shows the counts of an input. The value is what was counted, if anything, and whether all
went well. -/
def showInput (i : Invocation) (columns : Columns) (width : Nat) (name : Option Octets) :
    Program (Counts × Bool) := do
  match ← openOperand (name.getD dash) with
  | .error e =>
    complain i (Octets.fileName (name.getD dash) ++ ": " ++ e.text)
    pure ({}, false)
  | .ok descriptor =>
    let (counts, failure) ← countInput columns descriptor
    closeOperand (name.getD dash) descriptor
    match failure with
    | none => pure ()
    | some e => complain i (Octets.fileName (name.getD "standard input") ++ ": " ++ e.text)
    print i (line width columns name counts)
    pure (counts, failure.isNone)

/-- What is wrong with a name, the one of a number in the list `source` if there is one. -/
def nameFault (source : Option Octets) (number : Nat) (name : Octets) : Option Octets :=
  if name.isEmpty then
    some ((match source with
      | none => []
      | some source => Octets.fileName source ++ ":" ++ Octets.ofNat number ++ ": ") ++
        "invalid zero-length file name")
  else if source = some dash && name = dash then
    some "when reading file names from stdin, no file name of '-' allowed"
  else none

/-- Shows the counts of inputs one after the other, and adds them up. -/
def showAll (i : Invocation) (columns : Columns) (width : Nat) (source : Option Octets)
    (number : Nat) (well : Bool) (total : Counts) :
    List (Option Octets) → Program (Bool × Counts)
  | [] => pure (well, total)
  | name :: rest => do
    match name.bind (nameFault source number) with
    | some fault =>
      complain i fault
      showAll i columns width source (number + 1) false total rest
    | none =>
      let (counts, well') ← showInput i columns width name
      showAll i columns width source (number + 1) (well && well') (total.add counts) rest

/-- Shows the counts of inputs, and their sum. -/
def report (i : Invocation) (columns : Columns) (width : Nat) (source : Option Octets)
    (names : List (Option Octets)) : Program Nat := do
  let (well, total) ← showAll i columns width source 1 true {} names
  if names.length > 1 then print i (line width columns (some "total") total)
  closeInput i (names.map (·.getD dash)) dash (if well then 0 else 1)

/-- The width of the columns for inputs with names. -/
def widthOf (columns : Columns) (names : List (Option Octets)) : Program Nat := do
  if names.length = 1 && (columns.shown.filter id).length = 1 then pure 1
  else
    let statuses ← statusesOf names
    pure (width statuses)

/-- The names in a list, each of which is followed by a NUL. -/
def namesIn (data : ByteArray) : List (Option Octets) :=
  (Octets.lines (Octets.ofData data) '\x00').map some

/-- Shows the counts of the inputs whose names are in a file. -/
def reportListed (i : Invocation) (columns : Columns) (source : Octets) : Program Nat := do
  match ← openOperand source with
  | .error e => fail i (openFailure source e)
  | .ok descriptor =>
    let status ← Program.call (.statusOpen descriptor)
    match ← Program.readAll descriptor with
    | .error e => fail i (Octets.fileName source ++ ": read error: " ++ e.text)
    | .ok data =>
      let names := namesIn data
      let isFile := status.toOption.any (·.kind = .regular)
      let width ← if isFile then widthOf columns names else pure 1
      report i columns width (some source) names

/-- The options. -/
def grammar : Grammar where
  letters := "clLmw"
  long := [⟨"bytes", .none, 'c'⟩, ⟨"chars", .none, 'm'⟩, ⟨"lines", .none, 'l'⟩,
    ⟨"words", .none, 'w'⟩, ⟨"debug", .none, 'D'⟩, ⟨"files0-from", .required, 'F'⟩,
    ⟨"max-line-length", .none, 'L'⟩]

end Wc

/-- Counts lines, words and bytes. -/
def wc (i : Invocation) : Program Nat :=
  withOptions Wc.grammar i i.operands fun p => do
    let columns := Wc.Columns.ofOptions p
    match p.value? 'F', p.operands with
    | some _, extra :: _ =>
      complain i ("extra operand " ++ Octets.quoted extra)
      let _ ← Program.write Program.standardError
        "file operands cannot be combined with --files0-from\n"
      adviseOnly i
    | some source, [] => Wc.reportListed i columns source
    | none, operands =>
      let names := if operands.isEmpty then [none] else operands.map some
      let width ← Wc.widthOf columns names
      Wc.report i columns width none names

end LineShell.Tool
