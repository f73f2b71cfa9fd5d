import LineShell.Tool.Options

/-!
# paste

Puts lines of several inputs side by side, or all lines of each input into one line.

## Main definitions

* `Tool.Paste.rows` — lines of several inputs side by side.
* `Tool.Paste.join` — pieces with delimiters between them.
* `Tool.paste` — the tool.
-/

namespace LineShell.Tool

namespace Paste

/-! ### Delimiters -/

/-- The delimiters in a list; one may be empty. -/
def delimitersOf : Octets → List Octets
  | [] => []
  | ['\\'] => [['\\']]
  | '\\' :: c :: rest =>
    (match c with
    | '0' => []
    | 'b' => ['\x08']
    | 'f' => ['\x0c']
    | 'n' => ['\n']
    | 'r' => ['\r']
    | 't' => ['\t']
    | 'v' => ['\x0b']
    | c => [c]) :: delimitersOf rest
  | c :: rest => [c] :: delimitersOf rest

/-- Whether the last backslash of a list stands for nothing. -/
def isOpen : Octets → Bool
  | [] => false
  | ['\\'] => true
  | '\\' :: _ :: rest => isOpen rest
  | _ :: rest => isOpen rest

/-- The delimiter after the piece of a number. -/
def delimiter (list : List Octets) (n : Nat) : Octets := (list[n % max 1 list.length]?).getD []

/-- Pieces with delimiters between them. -/
def join (list : List Octets) (n : Nat) : List Octets → Octets
  | [] => []
  | [piece] => piece
  | piece :: rest => piece ++ delimiter list n ++ join list (n + 1) rest

/-! ### Rows -/

/-- Lines of several inputs side by side, as long as there are any. -/
def rows (list : List Octets) (lineEnd : Char) : Nat → List (List Octets) → Octets
  | 0, _ => []
  | count + 1, inputs =>
    if inputs.all List.isEmpty then []
    else join list 0 (inputs.map (·.headD [])) ++ [lineEnd] ++
      rows list lineEnd count (inputs.map List.tail)

/-- Shares out the lines of an input that several operands read in turn: those of the operand
`turn` out of `count`. -/
def share (lines : List Octets) (turn count : Nat) : List Octets :=
  (lines.zipIdx.filter fun (_, n) => n % count = turn).map (·.1)

/-! ### The tool -/

/-- An input that was opened. -/
structure Source where
  name : Octets
  descriptor : Nat

/-- Opens inputs, all of them or none. -/
def openAll (i : Invocation) : List Octets → Program (List Source)
  | [] => pure []
  | name :: rest => do
    match ← openOperand name with
    | .error e => fail i (Octets.fileName name ++ ": " ++ e.text)
    | .ok descriptor =>
      let sources ← openAll i rest
      pure (⟨name, descriptor⟩ :: sources)

/-- The lines that a descriptor delivers, and whether all of them could be read. -/
def linesOf (i : Invocation) (lineEnd : Char) (name : Octets) (descriptor : Nat) :
    Program (List Octets × Bool) := do
  match ← Program.readAll descriptor with
  | .ok data => pure (Octets.lines (Octets.ofData data) lineEnd, true)
  | .error e =>
    complain i (Octets.fileName name ++ ": " ++ e.text)
    pure ([], false)

/-- The lines of inputs. The standard input is shared by all operands that name it: `standard`
are its lines once they are read, which were asked for `turn` times. -/
def linesOfAll (i : Invocation) (lineEnd : Char) (hyphens turn : Nat)
    (standard : List Octets) : List Source → Program (List (List Octets) × Bool)
  | [] => pure ([], true)
  | source :: rest => do
    if source.name = dash then
      let (standard, well) ←
        if turn = 0 then linesOf i lineEnd dash source.descriptor else pure (standard, true)
      let (others, well') ← linesOfAll i lineEnd hyphens (turn + 1) standard rest
      pure (share standard turn (max 1 hyphens) :: others, well && well')
    else
      let (lines, well) ← linesOf i lineEnd source.name source.descriptor
      let (others, well') ← linesOfAll i lineEnd hyphens turn standard rest
      pure (lines :: others, well && well')

/-- Puts the lines of inputs side by side. -/
def parallel (i : Invocation) (list : List Octets) (lineEnd : Char) (names : List Octets) :
    Program Nat := do
  let sources ← openAll i names
  if names.contains dash && sources.any fun s => s.name ≠ dash && s.descriptor = 0 then
    fail i "standard input is closed"
  let (inputs, well) ← linesOfAll i lineEnd (names.countP (· = dash)) 0 [] sources
  print i (rows list lineEnd ((inputs.map List.length).sum) inputs)
  pure (if well then 0 else 1)

/-- Puts the lines of each operand into one line. -/
def serial (i : Invocation) (list : List Octets) (lineEnd : Char) (name : Octets) :
    Program Bool := do
  match ← openOperand name with
  | .error e =>
    complain i (Octets.fileName name ++ ": " ++ e.text)
    pure false
  | .ok descriptor =>
    match ← Program.readAll descriptor with
    | .ok data =>
      print i (join list 0 (Octets.lines (Octets.ofData data) lineEnd) ++ [lineEnd])
      closeOperand name descriptor
      pure true
    | .error e =>
      print i [lineEnd]
      closeOperand name descriptor
      complain i (Octets.fileName name ++ ": " ++ e.text)
      pure false

/-- The options. -/
def grammar : Grammar where
  letters := "d:sz"
  long := [⟨"serial", .none, 's'⟩, ⟨"delimiters", .required, 'd'⟩,
    ⟨"zero-terminated", .none, 'z'⟩]

end Paste

/-- Puts lines side by side. -/
def paste (i : Invocation) : Program Nat :=
  withOptions Paste.grammar i i.operands fun p => do
    let text := (p.value? 'd').getD ['\t']
    let list := if text.isEmpty then [[]] else Paste.delimitersOf text
    let lineEnd := if p.has 'z' then '\x00' else '\n'
    if Paste.isOpen text then
      fail i ("delimiter list ends with an unescaped backslash: " ++ text)
    let names := orStandard p.operands
    let code ←
      if p.has 's' then forAll (Paste.serial i list lineEnd) names
      else Paste.parallel i list lineEnd names
    closeInput i names dash code

end LineShell.Tool
